import CurlScribe.Proofs.Arguments.Abbreviation
import CurlScribe.Proofs.Arguments.Failure
import CurlScribe.Proofs.Arguments.Operands
import CurlScribe.Proofs.Arguments.Spelling
import CurlScribe.Proofs.Text.Cut

namespace CurlScribe.Arguments

open Noted

section Resolve

variable {t u : FlagTable} {more : List Flag} {word : String}

theorem resolve_append (h : u.flags = t.flags ++ more)
    (hwords : ∀ f ∈ more, ∀ w ∈ f.long, Text.startsWith word w = false)
    (hnegatable : ∀ f ∈ more, ¬ (f.kind = .toggle ∧ f.negatable = true)) :
    resolve u word = resolve t word := by
  have hlong : more.find? (·.long.contains word) = none := by
    refine List.find?_eq_none.2 fun f hf hmem => ?_
    have hself : Text.startsWith word word = true :=
      List.isPrefixOf_iff_prefix.2 (List.prefix_refl _)
    rw [hwords f hf word (by simpa using hmem)] at hself
    cases hself
  have hnegated (rest : String) :
      ((u.long? rest).bind fun f => if f.kind = .toggle ∧ f.negatable = true then
        some (Spelled.mk f (Flag.longSpelling rest), true) else none) =
      (t.long? rest).bind fun f => if f.kind = .toggle ∧ f.negatable = true then
        some (Spelled.mk f (Flag.longSpelling rest), true) else none := by
    rw [FlagTable.long?_append h]
    cases t.long? rest with
    | some f => rfl
    | none =>
      rw [Option.none_or, Option.bind_none, Option.bind_eq_none_iff]
      intro f hf
      exact if_neg (hnegatable f (List.mem_of_find?_eq_some hf))
  rw [resolve, resolve, FlagTable.long?_append h, hlong, Option.or_none,
    FlagTable.complete_append h hwords]
  simp only [hnegated]

end Resolve

section Program

variable {t : FlagTable} {word token : String} {rest : List String} {events : List Event}

theorem flags_program : FlagTable.program.flags = FlagTable.curl.flags ++ Flag.own := rfl

def ownBeginnings : List String :=
  (Flag.own.flatMap (·.long)).flatMap fun w => w.toList.inits.map .ofList

theorem mem_ownBeginnings :
    word ∈ ownBeginnings ↔ ∃ f ∈ Flag.own, ∃ w ∈ f.long, Text.startsWith word w = true := by
  simp only [ownBeginnings, List.mem_flatMap, List.mem_map, List.mem_inits, Text.startsWith,
    List.isPrefixOf_iff_prefix]
  constructor
  · rintro ⟨w, ⟨f, hf, hw⟩, s, hs, rfl⟩
    exact ⟨f, hf, w, hw, by rwa [String.toList_ofList]⟩
  · rintro ⟨f, hf, w, hw, hs⟩
    exact ⟨w, ⟨f, hf, hw⟩, word.toList, hs, String.ofList_toList⟩

theorem not_unique_of_ownBeginnings : ∀ word ∈ ownBeginnings, word ≠ "std" →
    FlagTable.curl.long? word = none ∧ Text.afterStart? "no-" word = none ∧
      (word = "" ∨ (FlagTable.curl.startingWith word).length ≠ 1) := by
  decide +kernel

theorem resolve_program {hit : Spelled × Bool} (h : resolve .curl word = .ok (some hit))
    (hne : word ≠ "std") : resolve .program word = .ok (some hit) := by
  by_cases hown : word ∈ ownBeginnings
  · obtain ⟨hlong, hno, hunique⟩ := not_unique_of_ownBeginnings word hown hne
    rcases resolve_eq_some h with ⟨hl, -⟩ | ⟨_, hn, -⟩ | ⟨long, hc, -⟩
    · simp [hlong] at hl
    · simp [hno] at hn
    · obtain ⟨hempty, -⟩ := FlagTable.mem_of_complete hc
      have hone := FlagTable.startingWith_of_complete hc
      simp [hone, hempty] at hunique
  · rw [← h]
    refine resolve_append flags_program (fun f hf w hw => ?_) (by decide)
    exact Bool.eq_false_iff.2 fun hs => hown (mem_ownBeginnings.2 ⟨f, hf, w, hw, hs⟩)

theorem filter_curl_std :
    (FlagTable.curl.flags.flatMap fun f => f.long.map (·, f)).filter (Text.startsWith "std" ·.1) =
      [("stderr", .text "stderr" [])] := by
  decide +kernel

theorem completions_curl_std :
    FlagTable.curl.completions "std" = [("stderr", .text "stderr" [])] :=
  FlagTable.completions_of_pairwise filter_curl_std (List.pairwise_singleton ..)

theorem completions_program_std :
    FlagTable.program.completions "std" = [("stderr", .text "stderr" []),
      ("stdin", { Flag.toggle "stdin" [] with negatable := false })] := by
  refine FlagTable.completions_of_pairwise ?_ (by decide)
  rw [flags_program, List.flatMap_append, List.filter_append, filter_curl_std]
  decide

theorem negation_ne_std (rest : String) : "std" ≠ "no-" ++ rest := by
  intro h
  have hnone : Text.afterStart? "no-" "std" = none := by decide
  rw [Text.afterStart?_eq_some.2 h] at hnone
  cases hnone

theorem resolve_curl_std :
    resolve .curl "std" = .ok (some (⟨.text "stderr" [], "--stderr"⟩, false)) := by
  rw [resolve_of_complete (by decide) fun rest h => absurd h (negation_ne_std rest),
    FlagTable.complete, completions_curl_std]
  rfl

theorem resolve_program_std :
    resolve .program "std" = .error (.ambiguous "std" ["stderr", "stdin"]) := by
  rw [resolve_of_complete (by decide) fun rest h => absurd h (negation_ne_std rest),
    FlagTable.complete, completions_program_std]
  rfl

/-- A long name cut to `std`. -/
def IsStd (token : String) : Prop := ∃ value, token = inlined "std" value

theorem IsStd.startsWith (h : IsStd token) : Text.startsWith "--std" token = true := by
  obtain ⟨value, rfl⟩ := h
  cases value <;> simp [Text.startsWith, inlined, List.isPrefixOf]

theorem digest_program_std (h : IsStd token) :
    digest .program false token = .fail (.ambiguous "std" ["stderr", "stdin"]) := by
  obtain ⟨value, rfl⟩ := h
  rw [digest_inlined (by decide), long, resolve_program_std]
  rfl

theorem eq_inlined_of_toList {name : List Char} (h : token.toList = '-' :: '-' :: name) :
    token = inlined (.ofList (Text.cutList '=' name).1) ((Text.cutList '=' name).2.map .ofList) := by
  have hname := Text.append_elim_cutList '=' name
  apply String.toList_inj.1
  rw [h, inlined]
  cases hcut : (Text.cutList '=' name).2 with
  | none => simpa [hcut] using hname.symm
  | some value => simpa [hcut] using hname.symm

theorem cluster_program (letters : List Char) :
    cluster .program false letters = cluster .curl false letters := by
  have hshort (letter : String) : FlagTable.program.short? letter = FlagTable.curl.short? letter :=
    FlagTable.short?_append flags_program (by simp [Flag.own, Flag.text, Flag.toggle])
  induction letters with
  | nil => rfl
  | cons c rest ih => rw [cluster, cluster, hshort, ih]

theorem digest_program {waiting : Option Spelled} (hdash : token ≠ "-") (hstd : ¬ IsStd token)
    (h : digest .curl false token = ⟨events, .ok waiting⟩) :
    digest .program false token = ⟨events, .ok waiting⟩ := by
  rw [← h]
  unfold digest at h ⊢
  split
  · rename_i name htoken
    simp only [htoken] at h
    have heq := eq_inlined_of_toList htoken
    rcases hr : resolve .curl (.ofList (Text.cutList '=' name).1) with f | _ | hit
    · simp [long, hr] at h
    · simp [long, hr, unknown] at h
    · have hword : String.ofList (Text.cutList '=' name).1 ≠ "std" := by
        intro hword
        exact hstd ⟨_, hword ▸ heq⟩
      simp only [long, hr, resolve_program hr hword]
  · exact cluster_program _
  · rename_i htoken
    exact absurd (String.toList_inj.1 htoken) hdash
  · rfl

theorem step_program {behind : List String} (hdash : token ≠ "-") (hstd : ¬ IsStd token)
    (h : step .curl false token rest = ⟨events, .ok behind⟩) :
    step .program false token rest = ⟨events, .ok behind⟩ := by
  rw [step_eq_ok] at h ⊢
  rcases h with ⟨hd, hrest⟩ | ⟨s, value, taken, stored, hd, hrest, hs, heq⟩
  · exact .inl ⟨digest_program hdash hstd hd, hrest⟩
  · exact .inr ⟨s, value, taken, stored, digest_program hdash hstd hd, hrest, hs, heq⟩

end Program

section Heads

variable {t : FlagTable} {lenient : Bool} {token : String} {tokens rest behind : List String}
  {events : List Event}

/-- The tokens that stand where a flag or an operand may, up to a `--`. -/
def heads (t : FlagTable) (lenient : Bool) : List String → List String
  | [] => []
  | token :: rest =>
    if token = "--" then []
    else
      token :: match (digest t lenient token).result, rest with
        | .ok none, rest => heads t lenient rest
        | .ok (some _), _ :: rest => heads t lenient rest
        | _, _ => []

@[simp] theorem heads_terminator (rest : List String) : heads t lenient ("--" :: rest) = [] := by
  rw [heads.eq_def]
  simp

theorem heads_cons (hne : token ≠ "--") (h : step t lenient token rest = ⟨events, .ok behind⟩) :
    heads t lenient (token :: rest) = token :: heads t lenient behind := by
  rcases step_eq_ok.1 h with ⟨hd, rfl⟩ | ⟨s, value, taken, stored, hd, rfl, -, -⟩
  · simp [heads, hne, hd]
  · simp [heads, hne, hd]

end Heads

section Scan

variable {tokens : List String} {events : List Event} {notices : List Notice} {a : Arguments}

/-- A scan with curl's flags goes the same way with the program's own beside them, up to a name that
is cut to `std`. -/
theorem scan_program (h : scan .curl false tokens = ⟨events, .ok ()⟩)
    (hdash : "-" ∉ heads .curl false tokens) :
    ((∀ token ∈ heads .curl false tokens, ¬ IsStd token) →
      scan .program false tokens = ⟨events, .ok ()⟩) ∧
    ((∃ token ∈ heads .curl false tokens, IsStd token) →
      ∃ earlier, earlier <+: events ∧
        scan .program false tokens =
          ⟨earlier, .error (.ambiguous "std" ["stderr", "stdin"])⟩) := by
  induction tokens using step_induction .curl false generalizing events with
  | nil => exact ⟨fun _ => h, fun ⟨_, hmem, _⟩ => by simp [heads] at hmem⟩
  | terminator rest =>
    rw [scan_terminator] at h
    exact ⟨fun _ => by rw [scan_terminator, h], fun ⟨_, hmem, _⟩ => by simp at hmem⟩
  | step token rest hne ih =>
    rw [scan_cons hne, Noted.bind_eq_ok] at h
    obtain ⟨first, behind, later, hstep, hscan, rfl⟩ := h
    rw [heads_cons hne hstep] at hdash ⊢
    obtain ⟨htoken, hdash⟩ := not_or.1 (mt List.mem_cons.2 hdash)
    obtain ⟨hsame, hfault⟩ := ih first behind hstep hscan hdash
    have hstep' (hstd : ¬ IsStd token) : step .program false token rest = ⟨first, .ok behind⟩ :=
      step_program (Ne.symm htoken) hstd hstep
    constructor
    · intro hplain
      obtain ⟨hstd, hplain⟩ := List.forall_mem_cons.1 hplain
      rw [scan_cons hne, hstep' hstd, Noted.bind_ok, hsame hplain]
    · intro hmem
      by_cases hstd : IsStd token
      · refine ⟨[], List.nil_prefix, ?_⟩
        rw [scan_cons hne, step, digest_program_std hstd]
        rfl
      · obtain ⟨earlier, hprefix, hscan'⟩ := hfault (by simpa [hstd] using hmem)
        refine ⟨first ++ earlier, (List.prefix_append_right_inj first).2 hprefix, ?_⟩
        rw [scan_cons hne, hstep' hstd, Noted.bind_ok, hscan']

/-- What is accepted with curl's flags is read in the same way with the program's own beside them
exactly if no long name is cut to `std`, which then could also be `stdin`. -/
theorem parse_program (h : parse .curl false tokens = ⟨notices, .ok a⟩)
    (hdash : "-" ∉ heads .curl false tokens) :
    (parse .program false tokens = ⟨notices, .ok a⟩ ↔
      ∀ token ∈ heads .curl false tokens, ¬ IsStd token) ∧
    ((∃ token ∈ heads .curl false tokens, IsStd token) →
      ∃ earlier, earlier <+: notices ∧
        parse .program false tokens =
          ⟨earlier, .error (.ambiguous "std" ["stderr", "stdin"])⟩) := by
  obtain ⟨events, hscan, rfl, rfl, -⟩ := parse_eq_ok.1 h
  obtain ⟨hsame, hfault⟩ := scan_program hscan hdash
  have hrefused (hmem : ∃ token ∈ heads .curl false tokens, IsStd token) :
      ∃ earlier, earlier <+: events.filterMap Event.notice? ∧
        parse .program false tokens =
          ⟨earlier, .error (.ambiguous "std" ["stderr", "stdin"])⟩ := by
    obtain ⟨earlier, hprefix, hscan'⟩ := hfault hmem
    exact ⟨_, hprefix.filterMap _,
      (parse_eq_error FlagTable.regular_program).2 ⟨earlier, hscan', rfl⟩⟩
  refine ⟨⟨fun hsame token hmem hstd => ?_, fun hplain => ?_⟩, hrefused⟩
  · obtain ⟨earlier, -, hparse⟩ := hrefused ⟨token, hmem, hstd⟩
    rw [hsame] at hparse
    cases hparse
  · exact parse_of_scan FlagTable.regular_program (hsame hplain)

theorem parse_program_operand : ∃ a,
    parse .curl false ["-L", "-H", "-", "h", "--", "-"] = ⟨[], .ok a⟩ ∧
    "-" ∉ heads .curl false ["-L", "-H", "-", "h", "--", "-"] ∧
    parse .program false ["-L", "-H", "-", "h", "--", "-"] = ⟨[], .ok a⟩ := by
  let a : Arguments :=
    ⟨[⟨"location", false, .toggle true⟩, ⟨"header", true, .word "-"⟩], ["h", "-"]⟩
  have hread : parse .curl false ["-L", "-H", "-", "h", "--", "-"] = ⟨[], .ok a⟩ := by cbv
  have hheads : heads .curl false ["-L", "-H", "-", "h", "--", "-"] = ["-L", "-H", "h"] := by cbv
  have hdash : "-" ∉ heads .curl false ["-L", "-H", "-", "h", "--", "-"] := by
    rw [hheads]
    decide
  have hplain : ∀ token ∈ ["-L", "-H", "h"], Text.startsWith "--std" token = false := by decide
  refine ⟨a, hread, hdash, (parse_program hread hdash).1.2 fun token hmem hstd => ?_⟩
  rw [hheads] at hmem
  exact absurd hstd.startsWith (Bool.eq_false_iff.1 (hplain token hmem))

theorem parse_program_std :
    parse .curl false ["--std", "f", "h"] =
      ⟨[], .ok ⟨[⟨"stderr", false, .word "f"⟩], ["h"]⟩⟩ ∧
    heads .curl false ["--std", "f", "h"] = ["--std", "h"] ∧
    parse .program false ["--std", "f", "h"] =
      ⟨[], .error (.ambiguous "std" ["stderr", "stdin"])⟩ := by
  have hinlined : "--std" = inlined "std" none := by decide
  have hdigest : digest .curl false "--std" = return some ⟨.text "stderr" [], "--stderr"⟩ := by
    rw [hinlined, digest_inlined (by decide), long, resolve_curl_std]
    rfl
  have hoperand : digest .curl false "h" = .note [.operand "h"] >>= fun _ => return none :=
    digest_operand (by decide)
  have hscan : scan .curl false ["--std", "f", "h"] =
      .note [.option ⟨"stderr", false, .word "f"⟩, .operand "h"] := by
    rw [scan_of_waiting (by decide) hdigest, scan_operands (by decide)]
    rfl
  refine ⟨?_, ?_, ?_⟩
  · exact parse_of_scan FlagTable.regular_curl hscan
  · simp [heads, hdigest, hoperand]
  · refine (parse_eq_error FlagTable.regular_program).2 ⟨[], ?_, rfl⟩
    rw [scan_cons (by decide), step, digest_program_std ⟨none, hinlined⟩]
    rfl

end Scan

end CurlScribe.Arguments
