import CurlScribe.Proofs.Arguments.Append
import CurlScribe.Proofs.Flag.Regular

namespace CurlScribe.Arguments

variable {t : FlagTable} {lenient : Bool} {f : Flag} {word spelling : String} {negated : Bool}

@[simp] theorem toList_longSpelling (word : String) :
    (Flag.longSpelling word).toList = '-' :: '-' :: word.toList := by
  simp [Flag.longSpelling]

@[simp] theorem toList_shortSpelling (letters : String) :
    (Flag.shortSpelling letters).toList = '-' :: letters.toList := by
  simp [Flag.shortSpelling]

def inlined (word : String) (value : Option String) : String :=
  Flag.longSpelling word ++ value.elim "" ("=" ++ ·)

@[simp] theorem inlined_none (word : String) : inlined word none = Flag.longSpelling word := by
  simp [inlined]

theorem digest_inlined (h : '=' ∉ word.toList) (value : Option String) :
    digest t lenient (inlined word value) = long t lenient word value := by
  cases value with
  | none => simp [digest, inlined, h]
  | some text => simp [digest, inlined, h]

theorem digest_letters {letters : String} {c : Char} {rest : List Char}
    (h : letters.toList = c :: rest) (hc : c ≠ '-') :
    digest t lenient (Flag.shortSpelling letters) = cluster t lenient (c :: rest) := by
  simp [digest, h]

theorem inlined_ne (h : word ≠ "") (value : Option String) : inlined word value ≠ "--" := by
  intro e
  have := congrArg String.toList e
  simp [inlined, h] at this

theorem letters_ne {letters : String} {c : Char} {rest : List Char}
    (h : letters.toList = c :: rest) (hc : c ≠ '-') : Flag.shortSpelling letters ≠ "--" := by
  intro e
  have := congrArg String.toList e
  simp [h, hc] at this

theorem plain_of_resolve (ht : t.Regular)
    (h : resolve t word = .ok (some (⟨f, spelling⟩, false))) : word ≠ "" ∧ '=' ∉ word.toList := by
  rcases resolve_eq_some h with ⟨hl, -, -⟩ | ⟨_, -, -, -, -, -, hn⟩ | ⟨long, hc, -, -⟩
  · obtain ⟨hf, hw⟩ := FlagTable.long?_eq_some.1 hl
    exact (ht.flags f hf).words word hw
  · cases hn
  · obtain ⟨hne, hf, hw, hs⟩ := FlagTable.mem_of_complete hc
    refine ⟨hne, fun hmem => ?_⟩
    have hpre : word.toList <+: long.toList := List.isPrefixOf_iff_prefix.1 hs
    exact ((ht.flags f hf).words long hw).2 (hpre.subset hmem)

theorem letter_ne_dash (ht : t.Regular) {c : Char} (h : t.short? (.singleton c) = some f) :
    c ≠ '-' := by
  rintro rfl
  obtain ⟨hf, hl⟩ := FlagTable.short?_eq_some.1 h
  exact (ht.flags f hf).letters hl

/-- Tokens that may stand for one another wherever an option may stand. -/
def Interchangeable (t : FlagTable) (lenient : Bool) (tokens others : List String) : Prop :=
  ∀ before after, (scan t lenient before).result = .ok () →
    endsOptions t lenient before = false →
    parse t lenient (before ++ tokens ++ after) = parse t lenient (before ++ others ++ after)

theorem interchangeable_of_scan {tokens others : List String}
    (h : ∀ after, scan t lenient (tokens ++ after) = scan t lenient (others ++ after)) :
    Interchangeable t lenient tokens others := by
  intro before after ok hopen
  have : scan t lenient (before ++ tokens ++ after) = scan t lenient (before ++ others ++ after) := by
    rw [List.append_assoc, scan_append ok hopen, h after, ← scan_append ok hopen,
      List.append_assoc]
  simp only [parse, this]

theorem not_negated (h : resolve t word = .ok (some (⟨f, spelling⟩, negated)))
    (hv : f.takesValue spelling = true) : negated = false := by
  cases negated with
  | false => rfl
  | true =>
    obtain ⟨hk, -⟩ := (spelling_of_resolve h).2.2 rfl
    simp [Flag.takesValue, hk] at hv

section Long

variable (h : resolve t word = .ok (some (⟨f, spelling⟩, negated)))
include h

theorem long_of_value (hv : f.takesValue spelling = true) (text : String) :
    long t lenient word (some text) = store f spelling (.word text) >>= fun _ => return none := by
  rw [long, h]
  simp [hv]

theorem long_of_waiting (hv : f.takesValue spelling = true) :
    long t lenient word none = return some ⟨f, spelling⟩ := by
  rw [long, h]
  simp [hv]

theorem long_of_toggle (hv : f.takesValue spelling = false) :
    long t lenient word none = store f spelling (.toggle !negated) >>= fun _ => return none := by
  rw [long, h]
  simp [hv]

end Long

section Letter

variable {c : Char} (h : t.short? (.singleton c) = some f)
include h

theorem cluster_of_value (hv : f.takesValue (Flag.shortSpelling (.singleton c)) = true)
    {rest : List Char} (hr : rest ≠ []) :
    cluster t lenient (c :: rest) =
      store f (Flag.shortSpelling (.singleton c)) (.word (.ofList rest)) >>= fun _ =>
        return none := by
  simp [cluster, h, hv, hr]

theorem cluster_of_waiting (hv : f.takesValue (Flag.shortSpelling (.singleton c)) = true) :
    cluster t lenient [c] = return some ⟨f, Flag.shortSpelling (.singleton c)⟩ := by
  simp [cluster, h, hv]

theorem cluster_of_toggle (hv : f.takesValue (Flag.shortSpelling (.singleton c)) = false)
    (rest : List Char) :
    cluster t lenient (c :: rest) =
      store f (Flag.shortSpelling (.singleton c)) (.toggle true) >>= fun _ =>
        cluster t lenient rest := by
  simp [cluster, h, hv]

end Letter

theorem scan_inlined (ht : t.Regular) (h : resolve t word = .ok (some (⟨f, spelling⟩, negated)))
    (hv : f.takesValue spelling = true) (value : String) (after : List String) :
    scan t lenient (inlined word (some value) :: after) =
      scan t lenient (inlined word none :: value :: after) := by
  obtain rfl := not_negated h hv
  obtain ⟨hne, heq⟩ := plain_of_resolve ht h
  rw [scan_of_done (inlined_ne hne _) ((digest_inlined heq _).trans (long_of_value h hv value)),
    scan_of_waiting (inlined_ne hne _) ((digest_inlined heq _).trans (long_of_waiting h hv))]

theorem scan_attached (ht : t.Regular) {c : Char} (h : t.short? (.singleton c) = some f)
    (hv : f.takesValue (Flag.shortSpelling (.singleton c)) = true) {rest : String}
    (hr : rest ≠ "") (after : List String) :
    scan t lenient (Flag.shortSpelling (.singleton c ++ rest) :: after) =
      scan t lenient (Flag.shortSpelling (.singleton c) :: rest :: after) := by
  have hc := letter_ne_dash ht h
  have together : (String.singleton c ++ rest).toList = c :: rest.toList := by simp
  have alone : (String.singleton c).toList = [c] := by simp
  have value : cluster t lenient (c :: rest.toList) = _ := cluster_of_value h hv (by simpa using hr)
  rw [String.ofList_toList] at value
  rw [scan_of_done (letters_ne together hc) ((digest_letters together hc).trans value),
    scan_of_waiting (letters_ne alone hc) ((digest_letters alone hc).trans (cluster_of_waiting h hv))]

theorem scan_cluster (ht : t.Regular) {c : Char} (h : t.short? (.singleton c) = some f)
    (hv : f.takesValue (Flag.shortSpelling (.singleton c)) = false) {rest : String}
    (hr : rest ≠ "") (hd : rest.toList.head? ≠ some '-') (after : List String) :
    scan t lenient (Flag.shortSpelling (.singleton c ++ rest) :: after) =
      scan t lenient (Flag.shortSpelling (.singleton c) :: Flag.shortSpelling rest :: after) := by
  have hc := letter_ne_dash ht h
  have alone : (String.singleton c).toList = [c] := by simp
  obtain ⟨d, others, hrest⟩ := List.exists_cons_of_ne_nil (l := rest.toList) (by simpa using hr)
  have together : (String.singleton c ++ rest).toList = c :: rest.toList := by simp
  have hd : d ≠ '-' := by simpa [hrest] using hd
  have first : digest t lenient _ = _ := digest_letters together hc
  rw [cluster_of_toggle h hv, hrest, ← digest_letters hrest hd] at first
  rw [scan_of_digest_eq (letters_ne together hc) (letters_ne hrest hd) first,
    scan_of_done (letters_ne alone hc) ((digest_letters alone hc).trans (cluster_of_toggle h hv []))]

theorem longSpelling_injective : Function.Injective Flag.longSpelling := by
  intro word long h
  have := congrArg String.toList h
  simpa [String.toList_inj] using this

theorem resolve_long {long : String}
    (h : resolve t word = .ok (some (⟨f, Flag.longSpelling long⟩, false))) :
    resolve t long = .ok (some (⟨f, Flag.longSpelling long⟩, false)) := by
  rcases resolve_eq_some h with ⟨hl, hs, -⟩ | ⟨_, -, -, -, -, -, hn⟩ | ⟨other, hc, hs, -⟩
  · obtain rfl := longSpelling_injective hs
    exact resolve_exact hl
  · cases hn
  · obtain rfl := longSpelling_injective hs
    obtain ⟨-, hf, hw, -⟩ := FlagTable.mem_of_complete hc
    exact resolve_exact (FlagTable.long?_eq_some.2 ⟨hf, hw⟩)

theorem scan_abbreviated (ht : t.Regular) {long : String}
    (h : resolve t word = .ok (some (⟨f, Flag.longSpelling long⟩, false))) (value : Option String)
    (after : List String) :
    scan t lenient (inlined word value :: after) = scan t lenient (inlined long value :: after) := by
  have hlong := resolve_long h
  obtain ⟨hne, heq⟩ := plain_of_resolve ht h
  obtain ⟨hne', heq'⟩ := plain_of_resolve ht hlong
  have same : digest t lenient (inlined word value) = digest t lenient (inlined long value) := by
    rw [digest_inlined heq, digest_inlined heq', Arguments.long, Arguments.long, h, hlong]
    simp
  rw [scan_cons (inlined_ne hne _), scan_cons (inlined_ne hne' _), step, step, same]

/-- A value may stand behind an equals sign or a letter, or in the next token, whatever it is; letters
may stand together or apart; and a long name may be cut short as long as it stands for one name. -/
theorem spellings_interchangeable (ht : t = .curl ∨ t = .program) (lenient : Bool) :
    (∀ word f spelling negated value,
      resolve t word = .ok (some (⟨f, spelling⟩, negated)) → f.takesValue spelling = true →
        Interchangeable t lenient [inlined word (some value)] [inlined word none, value]) ∧
    (∀ c f rest, t.short? (.singleton c) = some f →
      f.takesValue (Flag.shortSpelling (.singleton c)) = true → rest ≠ "" →
        Interchangeable t lenient [Flag.shortSpelling (.singleton c ++ rest)]
          [Flag.shortSpelling (.singleton c), rest]) ∧
    (∀ c f rest, t.short? (.singleton c) = some f →
      f.takesValue (Flag.shortSpelling (.singleton c)) = false → rest ≠ "" →
      rest.toList.head? ≠ some '-' →
        Interchangeable t lenient [Flag.shortSpelling (.singleton c ++ rest)]
          [Flag.shortSpelling (.singleton c), Flag.shortSpelling rest]) ∧
    ∀ word f long value, resolve t word = .ok (some (⟨f, Flag.longSpelling long⟩, false)) →
      Interchangeable t lenient [inlined word value] [inlined long value] := by
  have ht := FlagTable.regular_of_eq ht
  refine ⟨?_, ?_, ?_, ?_⟩
  · intro word f spelling negated value h hv
    exact interchangeable_of_scan (scan_inlined ht h hv value)
  · intro c f rest h hv hr
    exact interchangeable_of_scan (scan_attached ht h hv hr)
  · intro c f rest h hv hr hd
    exact interchangeable_of_scan (scan_cluster ht h hv hr hd)
  · intro word f long value h
    exact interchangeable_of_scan (scan_abbreviated ht h value)

theorem spellings_interchangeable_curl :
    Interchangeable .curl false ["--data=--x"] ["--data", "--x"] ∧
    Interchangeable .curl false ["-XPUT"] ["-X", "PUT"] ∧
    Interchangeable .curl false ["-kX"] ["-k", "-X"] ∧
    Interchangeable .curl false ["--insec"] ["--insecure"] := by
  obtain ⟨inline, attached, apart, short⟩ :=
    spellings_interchangeable (t := .curl) (.inl rfl) false
  refine ⟨?_, ?_, ?_, ?_⟩
  · exact inline "data" (.list "data" ["d"]) "--data" false "--x" (by cbv) (by cbv)
  · exact attached 'X' (.text "request" ["X"]) "PUT" (by cbv) (by cbv) (by decide)
  · exact apart 'k' (.toggle "insecure" ["k"]) "X" (by cbv) (by cbv) (by decide) (by decide)
  · exact short "insec" (.toggle "insecure" ["k"]) "insecure" none (by cbv)

end CurlScribe.Arguments
