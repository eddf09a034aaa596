import CurlScribe.Proofs.Shell.Begun

namespace CurlScribe.Shell

open Text

def apostrophed (s : List Char) : List Char := ' ' :: '\'' :: (s ++ ['\''])

/-- Whether the white space at the end of a text sets the text apart from what comes behind it: all
of it separates words, and none of it is taken for the end of a line that goes on. -/
def EndsPlain (t : List Char) : Prop :=
  (∀ c ∈ t.rtakeWhile isBlank, isSeparator c = true) ∧
    ¬ Joins (trimEnd (trimStart t)) (t.rtakeWhile isBlank)

instance (t : List Char) : Decidable (EndsPlain t) :=
  have := List.decidableBAll (isSeparator · = true) (t.rtakeWhile isBlank)
  inferInstanceAs (Decidable (_ ∧ _))

namespace Begun

variable {b : Begun} {text w : List Char}

@[simp] theorem all_cut : b.cut.all = b.all := by
  simp [all, cut]

theorem flatten_all_take : (b.take text).all.flatten = b.all.flatten ++ text := by
  obtain ⟨words, word⟩ := b
  cases word <;> simp [all, take]

theorem all_take_cut : (b.cut.take text).all = b.all ++ [text] := by
  simp [all, cut, take]

theorem all_over (h : ∀ c ∈ w, isSeparator c = true) : (b.over w).all = b.all := by
  induction w generalizing b with
  | nil => rfl
  | cons c w ih =>
    obtain ⟨hc, hw⟩ := List.forall_mem_cons.1 h
    rw [over_cons, if_pos hc, ih hw, all_cut]

theorem flatten_all_over :
    (b.over w).all.flatten = b.all.flatten ++ w.filter (!isSeparator ·) := by
  induction w generalizing b with
  | nil => simp
  | cons c w ih =>
    rw [over_cons, ih]
    by_cases hc : isSeparator c = true
    · simp [hc]
    · simp [hc, flatten_all_take]

end Begun

section Count

variable {words : List (List Char)} {arguments : List String}

theorem countP_isBlank_flatten (h : argumentsOf words = .ok arguments) :
    words.flatten.countP isBlank = (arguments.flatMap String.toList).countP isBlank := by
  obtain ⟨name, hname, hwords⟩ := argumentsOf_eq_ok.1 h
  have hblank : name.toList.countP isBlank = 0 :=
    List.countP_eq_zero.2 fun c hc => by simp [isBlank_of_mem_commandNames hname c hc]
  have hlists : words = name.toList :: arguments.map String.toList := by
    have hmap := congrArg (List.map String.toList) hwords
    simpa using hmap
  rw [hlists, List.flatten_cons, List.countP_append, hblank, Nat.zero_add,
    List.flatMap_def]

theorem argumentsOf_append_iff {s s' : List Char} :
    argumentsOf (words ++ [s]) = .ok (arguments ++ [.ofList s']) ↔
      argumentsOf words = .ok arguments ∧ s = s' := by
  rw [argumentsOf_eq_ok, argumentsOf_eq_ok]
  constructor
  · rintro ⟨name, hname, hwords⟩
    rw [List.map_append, ← List.cons_append] at hwords
    obtain ⟨hwords, hs⟩ := List.append_inj' hwords rfl
    exact ⟨⟨name, hname, hwords⟩, String.ofList_injective (List.cons.inj hs).1⟩
  · rintro ⟨⟨name, hname, hwords⟩, rfl⟩
    exact ⟨name, hname, by rw [List.map_append, hwords]; rfl⟩

end Count

section Enclosed

variable {b : Begun} {s rest : List Char}

theorem readFrom_single (hs : '\'' ∉ s) :
    readFrom .single (s ++ '\'' :: rest) = prepend s <$> readFrom (.outside true) rest := by
  induction s with
  | nil => rw [List.nil_append, readFrom, if_pos rfl, prepend_nil, id_map]
  | cons c s ih =>
    rw [List.mem_cons, not_or] at hs
    rw [List.cons_append, readFrom, if_neg (Ne.symm hs.1), ih hs.2, ← comp_map]
    rfl

theorem leadsTo_apostrophed (hs : '\'' ∉ s) (b : Begun) :
    LeadsTo b.mode b (apostrophed s) (.ok (b.cut.take s)) := by
  intro rest _
  have hopen : readFrom (.outside false) ('\'' :: (s ++ '\'' :: rest)) =
      prepend s <$> readFrom (.outside true) rest := by
    rw [readFrom_outside (fun _ h => absurd h (by decide)) (by decide), if_neg (by decide),
      if_pos rfl, readFrom_single hs]
  rw [apostrophed, List.cons_append, List.cons_append, List.append_assoc, List.singleton_append,
    Begun.mode, readFrom_outside (fun _ h => absurd h (by decide)) (by decide), if_pos (by decide),
    hopen]
  change _ = (b.cut.take s).finish <$> readFrom (.outside true) rest
  rw [Begun.finish_take, comp_map, Begun.finish_cut, comp_map]

theorem not_blank_apostrophed (s : List Char) : ¬ Blank (apostrophed s) :=
  fun h => absurd (h '\'' (by simp [apostrophed])) (by decide)

theorem trimEnd_apostrophed (s : List Char) : trimEnd (apostrophed s) = apostrophed s := by
  have hlast : ∀ c ∈ (apostrophed s).getLast?, isBlank c = false := by
    rw [apostrophed, ← List.cons_append, ← List.cons_append, List.getLast?_concat]
    rintro _ ⟨⟩
    decide
  have hnone : Blank [] := List.forall_mem_nil _
  have htrim := trimEnd_append hlast hnone
  rwa [List.append_nil] at htrim

theorem joinLines_apostrophed (s : List Char) :
    joinLines (apostrophed s) = apostrophed (joinLines s) := by
  rw [apostrophed, joinLines_cons (by simp), joinLines_cons (by simp),
    joinLines_append (not_joins_of_head? (by simp))]
  rfl

theorem not_mem_joinLines {c : Char} (hc : c ≠ ' ') (hs : c ∉ s) : c ∉ joinLines s := by
  induction s using joinLines.induct with
  | case1 => exact hs
  | case2 rest ih => simp_all [joinLines]
  | case3 rest ih => simp_all [joinLines]
  | case4 d rest hline hreturn ih =>
    rw [joinLines]
    · simp_all
    · exact hline
    · exact hreturn

end Enclosed

section Ends

variable {t s : List Char} {arguments : List String}

theorem exists_begun_endsPlain (h : Shell.arguments (.ofList t) = .ok arguments) :
    ∃ b : Begun, LeadsTo (.outside false) .empty (joinLines (trimStart t)) (.ok b) ∧
      (argumentsOf b.all = .ok arguments ↔ EndsPlain t) := by
  obtain ⟨b, b', hargs, hspaced, hb'⟩ := exists_begun_trimStart h
  have hcount (hargs' : argumentsOf b'.all = .ok arguments) :
      b'.all.flatten.countP isBlank = b.all.flatten.countP isBlank :=
    (countP_isBlank_flatten hargs').trans (countP_isBlank_flatten hargs).symm
  refine ⟨b', hb', ?_⟩
  cases hspaced with
  | kept hjoins =>
    refine ⟨fun hargs' => ⟨?_, hjoins⟩, fun hplain => by rwa [Begun.all_over hplain.1]⟩
    have hblank : ((t.rtakeWhile isBlank).filter (!isSeparator ·)).countP isBlank = 0 := by
      have hsame := hcount hargs'
      rw [Begun.flatten_all_over, List.countP_append] at hsame
      omega
    intro c hc
    by_contra hs
    have hmem : c ∈ (t.rtakeWhile isBlank).filter (!isSeparator ·) :=
      List.mem_filter.2 ⟨hc, by simpa using hs⟩
    exact List.countP_eq_zero.1 hblank c hmem (blank_rtakeWhile t c hc)
  | joined hjoins =>
    -- An escaped space has come to stand for a backslash.
    refine ⟨fun hargs' => ?_, fun hplain => absurd hjoins hplain.2⟩
    have hsame := hcount hargs'
    have hspace : [' '].countP isBlank = 1 := by decide
    have hescape : ['\\'].countP isBlank = 0 := by decide
    rw [Begun.flatten_all_over, Begun.flatten_all_take, Begun.flatten_all_take, List.countP_append,
      List.countP_append, List.countP_append, hspace, hescape] at hsame
    omega

/-- Behind a command a text between apostrophes is read as one more argument. It is exactly this
text unless one of its lines goes on behind a backslash, which the apostrophes do not keep from
being joined, or the white space at the end of the command comes to stand in an argument. -/
theorem arguments_singleQuoted (h : Shell.arguments (.ofList t) = .ok arguments) (hs : '\'' ∉ s) :
    (Shell.arguments (.ofList (t ++ apostrophed s)) = .ok (arguments ++ [.ofList s]) ↔
      EndsPlain t ∧ Unjoined s) ∧
    (EndsPlain t → Shell.arguments (.ofList (t ++ apostrophed s)) =
      .ok (arguments ++ [.ofList (joinLines s)])) := by
  obtain ⟨b, hb, hends⟩ := exists_begun_endsPlain h
  have hread : Shell.arguments (.ofList (t ++ apostrophed s)) =
      argumentsOf (b.all ++ [joinLines s]) := by
    have hlead := hb.append (leadsTo_apostrophed (not_mem_joinLines (by decide) hs) b)
      (by simp [apostrophed])
    rw [arguments_ofList, trimStart_append (not_blank_of_arguments h),
      trimEnd_append_of_not_blank (not_blank_apostrophed s), trimEnd_apostrophed,
      joinLines_append (not_joins_of_head? (by simp [apostrophed])), joinLines_apostrophed,
      hlead.readFrom_eq, Begun.all_take_cut]
    rfl
  rw [hread, argumentsOf_append_iff, argumentsOf_append_iff, hends, joinLines_eq_self_iff]
  exact ⟨Iff.rfl, fun hplain => ⟨hplain, rfl⟩⟩

theorem arguments_singleQuoted_marks :
    Shell.arguments "curl -d a\\\\ 'it is $\"\\n\\\t'" = .ok ["-d", "a\\", "it is $\"\\n\\\t"] := by
  have h : Shell.arguments (.ofList "curl -d a\\\\".toList) = .ok ["-d", "a\\"] := by
    decide +kernel
  have hs : '\'' ∉ "it is $\"\\n\\\t".toList := by decide
  exact (arguments_singleQuoted h hs).1.2 (by decide)

theorem arguments_singleQuoted_changed :
    (Shell.arguments "curl" = .ok [] ∧ Shell.arguments "curl 'a\\\nb'" = .ok ["a b"]) ∧
    (Shell.arguments "curl a\u00a0" = .ok ["a"] ∧
      Shell.arguments "curl a\u00a0 'b'" = .ok ["a\u00a0", "b"]) ∧
    (Shell.arguments "curl a\\\\\n" = .ok ["a\\"] ∧
      Shell.arguments "curl a\\\\\n 'b'" = .ok ["a ", "b"]) := by
  decide +kernel

end Ends

end CurlScribe.Shell
