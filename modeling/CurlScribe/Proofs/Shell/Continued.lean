import CurlScribe.Proofs.Shell.Begun

namespace CurlScribe.Shell

open Quoting Text

def Spacing.isJoint : Spacing → Bool
  | joint | returnJoint => true
  | _ => false

/-- A space that has the end of a line behind a backslash next to it. -/
inductive Gap.Continued : Gap → Prop
  | before {j : Spacing} (hj : j.isJoint = true) : Continued ⟨j, [.space]⟩
  | behind {j : Spacing} (hj : j.isJoint = true) : Continued ⟨.space, [j]⟩

section Gaps

variable {j : Spacing} {g : Gap}

theorem Spacing.exists_text (hj : j.isJoint = true) : ∃ w, Blank w ∧ j.text = '\\' :: w := by
  cases j with
  | joint => exact ⟨['\n'], by decide, rfl⟩
  | returnJoint => exact ⟨['\r', '\n'], by decide, rfl⟩
  | _ => cases hj

theorem Gap.Continued.exists_text (hg : g.Continued) :
    ∃ w, Blank w ∧ (g.text = '\\' :: w ∨ g.text = ' ' :: '\\' :: w) := by
  cases hg with
  | before hj =>
    obtain ⟨w, hw, htext⟩ := Spacing.exists_text hj
    refine ⟨w ++ [' '], blank_append.2 ⟨hw, by decide⟩, .inl ?_⟩
    change _ ++ [' '] = _
    rw [htext]
    rfl
  | behind hj =>
    obtain ⟨w, hw, htext⟩ := Spacing.exists_text hj
    refine ⟨w, hw, .inr ?_⟩
    change ' ' :: (_ ++ []) = _
    rw [htext, List.append_nil]

theorem Gap.Continued.not_blank (hg : g.Continued) : ¬ Blank g.text := by
  intro hblank
  obtain ⟨w, -, htext | htext⟩ := hg.exists_text
  · exact absurd (hblank '\\' (by simp [htext])) (by decide)
  · exact absurd (hblank '\\' (by simp [htext])) (by decide)

theorem Gap.Continued.blanks_eq (hg : g.Continued) : g.blanks = [' ', ' '] := by
  cases hg with
  | @before j hj => cases j <;> first | rfl | cases hj
  | @behind j hj => cases j <;> first | rfl | cases hj

end Gaps

section Read

variable {c : Char} {s w : List Char}

theorem readFrom_separator (hc : isSeparator c = true) (inWord : Bool) (s : List Char) :
    readFrom (.outside inWord) (c :: s) =
      (if inWord then ([] :: ·) else id) <$> readFrom (.outside false) s := by
  have hescape : c ≠ '\\' := by rintro rfl; cases hc
  rw [readFrom_outside (by rintro _ rfl; cases hc) hescape, if_pos hc]

theorem readFrom_between_separator (hc : isSeparator c = true) (s : List Char) :
    readFrom (.outside false) (c :: s) = readFrom (.outside false) s := by
  rw [readFrom_separator hc]
  exact id_map _

theorem readFrom_separators (hw : ∀ c ∈ w, isSeparator c = true) (s : List Char) :
    readFrom (.outside false) (w ++ s) = readFrom (.outside false) s := by
  induction w with
  | nil => rfl
  | cons c w ih =>
    obtain ⟨hc, hw⟩ := List.forall_mem_cons.1 hw
    rw [List.cons_append, readFrom_between_separator hc, ih hw]

theorem readFrom_space_space (inWord : Bool) (s : List Char) :
    readFrom (.outside inWord) (' ' :: ' ' :: s) = readFrom (.outside inWord) (' ' :: s) := by
  have hspace : isSeparator ' ' = true := by decide
  rw [readFrom_separator hspace inWord (' ' :: s), readFrom_between_separator hspace,
    readFrom_separator hspace]

theorem readFrom_append_space (hs : (behind .bare s).isBare = true) (rest : List Char) :
    readFrom (.outside false) (s ++ ' ' :: ' ' :: rest) =
      readFrom (.outside false) (s ++ ' ' :: rest) := by
  obtain ⟨r, hr⟩ := exists_leadsTo Begun.fits_empty hs
  have hmore := hr (' ' :: ' ' :: rest) (by simp)
  have hless := hr (' ' :: rest) (by simp)
  rw [Begun.finish_empty, id_map] at hmore hless
  rw [hmore, hless]
  cases r with
  | error e => rfl
  | ok b => exact congrArg (b.finish <$> ·) (readFrom_space_space _ rest)

theorem argumentsOf_push_ne (hc : isBlank c = true) (words : List (List Char))
    (arguments : List String) : argumentsOf (push c words) ≠ .ok arguments := by
  intro h
  obtain ⟨name, hname, hwords⟩ := argumentsOf_eq_ok.1 h
  have hhead : c ∈ name.toList := by
    cases words <;> · obtain ⟨rfl, -⟩ := List.cons.inj hwords; simp
  rw [isBlank_of_mem_commandNames hname c hhead] at hc
  cases hc

end Read

section Text

variable {p rest t w : List Char} {g : Gap} {arguments : List String}

theorem arguments_append_blank (hw : Blank w) (t : List Char) :
    Shell.arguments (.ofList (t ++ w)) = Shell.arguments (.ofList t) := by
  rw [arguments_ofList, arguments_ofList]
  by_cases ht : Blank t
  · rw [trimStart_eq_nil.2 ht, trimStart_eq_nil.2 (blank_append.2 ⟨ht, hw⟩)]
  · rw [trimStart_append ht, trimEnd_append_of_blank hw]

theorem arguments_append_escape (h : Shell.arguments (.ofList t) = .ok arguments) (hw : Blank w) :
    Shell.arguments (.ofList (t ++ '\\' :: w)) = .error (.unfinished .escape) := by
  obtain ⟨-, b, -, -, hb⟩ := exists_begun_trimStart h
  have hescape : ¬ Blank ['\\'] := by decide
  have htrim : trimEnd (trimStart (t ++ '\\' :: w)) = trimStart t ++ ['\\'] := by
    rw [trimStart_append (not_blank_of_arguments h), List.append_cons, trimEnd_append_of_blank hw,
      trimEnd_append_of_not_blank hescape]
    rfl
  have hread := hb ['\\'] (by simp)
  rw [Begun.finish_empty, id_map] at hread
  rw [arguments_ofList, htrim, joinLines_append (not_joins_of_head? (by simp)), joinLines,
    joinLines, hread]
  · rfl
  · simp
  · simp

theorem arguments_append_gap (h : Shell.arguments (.ofList t) = .ok arguments) (hg : g.Continued)
    (hw : Blank w) :
    Shell.arguments (.ofList (t ++ g.text ++ w)) = .error (.unfinished .escape) := by
  obtain ⟨w', hw', htext | htext⟩ := hg.exists_text
  · have hend := arguments_append_escape h (blank_append.2 ⟨hw', hw⟩)
    simpa [htext] using hend
  · have hspace : Blank [' '] := by decide
    rw [← arguments_append_blank hspace] at h
    have hend := arguments_append_escape h (blank_append.2 ⟨hw', hw⟩)
    simpa [htext] using hend

theorem joinLines_append_space (s t : List Char) :
    joinLines (s ++ ' ' :: t) = joinLines s ++ ' ' :: joinLines t := by
  rw [joinLines_append (not_joins_of_head? (by simp)), joinLines_cons (by simp)]

theorem behind_trimStart (s : List Char) : behind .bare (trimStart s) = behind .bare s := by
  induction s with
  | nil => rfl
  | cons c s ih =>
    by_cases hc : isBlank c = true
    · have hescape := ne_of_isBlank hc (d := '\\') (by decide)
      have hsingle := ne_of_isBlank hc (d := '\'') (by decide)
      have hdouble := ne_of_isBlank hc (d := '"') (by decide)
      have hdollar := ne_of_isBlank hc (d := '$') (by decide)
      rw [trimStart, List.dropWhile_cons_of_pos hc, ← trimStart, ih, behind_cons, next, nextBare,
        if_neg hescape, if_neg hsingle, if_neg hdouble, if_neg hdollar]
    · rw [trimStart, List.dropWhile_cons_of_neg hc]

theorem joinLines_continued (hg : g.Continued) (hrest : ¬ Blank rest) (hp : ¬ Blank p) :
    joinLines (trimEnd (trimStart (p ++ g.text ++ rest))) =
      joinLines (trimStart p) ++ ' ' :: ' ' :: joinLines (trimEnd rest) := by
  have hhead : ∀ c ∈ (g.text ++ trimEnd rest).head?, c ≠ '\n' ∧ c ≠ '\r' := by
    obtain ⟨w, -, htext | htext⟩ := hg.exists_text <;> simp [htext]
  have hmore : ¬ Blank (g.text ++ rest) := fun h => hrest (blank_append.1 h).2
  rw [List.append_assoc, trimStart_append hp, trimEnd_append_of_not_blank hmore,
    trimEnd_append_of_not_blank hrest, joinLines_append (not_joins_of_head? hhead), joinLines_gap,
    hg.blanks_eq]
  rfl

theorem readFrom_trimStart_gap (hg : g.Continued) (s : List Char) :
    readFrom (.outside false) (joinLines (trimStart (g.text ++ s))) =
      readFrom (.outside false) (joinLines s) := by
  have hspaces : readFrom (.outside false) (joinLines (g.text ++ s)) =
      readFrom (.outside false) (joinLines s) := by
    rw [joinLines_gap, hg.blanks_eq, readFrom_separators (by simp [isSeparator])]
  rw [← hspaces]
  obtain ⟨w, -, htext | htext⟩ := hg.exists_text
  · rw [htext, trimStart, List.cons_append, List.dropWhile_cons_of_neg (by decide)]
  · have hspace : isSeparator ' ' = true := by decide
    have hline : joinLines (' ' :: '\\' :: (w ++ s)) = ' ' :: joinLines ('\\' :: (w ++ s)) :=
      joinLines_cons (by simp)
    rw [htext, trimStart, List.cons_append, List.cons_append,
      List.dropWhile_cons_of_pos (by decide), List.dropWhile_cons_of_neg (by decide), hline,
      readFrom_between_separator hspace]

theorem argumentsOf_readFrom_blank (hw : Blank w)
    (h : readFrom (.outside false) s >>= argumentsOf = .ok arguments) :
    readFrom (.outside false) (w ++ s) >>= argumentsOf = .ok arguments ↔
      ∀ c ∈ w, isSeparator c = true := by
  refine ⟨fun hread => ?_, fun hsep => by rwa [readFrom_separators hsep]⟩
  induction w with
  | nil => simp
  | cons c w ih =>
    obtain ⟨hc, hw⟩ := List.forall_mem_cons.1 hw
    have hsep : isSeparator c = true := by
      by_contra hne
      rw [List.cons_append, readFrom_blank hc, if_neg hne] at hread
      obtain ⟨words, hwords, hargs⟩ := bind_eq_ok_iff.1 hread
      obtain ⟨more, -, rfl⟩ := map_eq_ok_iff.1 hwords
      exact argumentsOf_push_ne hc more arguments hargs
    rw [List.cons_append, readFrom_between_separator hsep] at hread
    exact List.forall_mem_cons.2 ⟨hsep, ih hw hread⟩

theorem arguments_gap_inside (hg : g.Continued) (hp : ¬ Blank p) (hrest : ¬ Blank rest)
    (hbare : (behind .bare p).isBare = true) :
    Shell.arguments (.ofList (p ++ g.text ++ rest)) =
      Shell.arguments (.ofList (p ++ ' ' :: rest)) := by
  have hmore : ¬ Blank (' ' :: rest) := fun hmore => hrest (List.forall_mem_cons.1 hmore).2
  have hjoined : (behind .bare (joinLines (trimStart p))).isBare = true := by
    rwa [behind_joinLines, behind_trimStart]
  rw [arguments_ofList, arguments_ofList, joinLines_continued hg hrest hp, trimStart_append hp,
    trimEnd_append_of_not_blank hmore, trimEnd_cons_of_not_blank hrest, joinLines_append_space,
    readFrom_append_space hjoined]

theorem arguments_gap_first (hg : g.Continued) (hp : Blank p) (hrest : ¬ Blank rest)
    (h : Shell.arguments (.ofList (p ++ ' ' :: rest)) = .ok arguments) :
    Shell.arguments (.ofList (p ++ g.text ++ rest)) = .ok arguments ↔
      ∀ c ∈ rest.takeWhile isBlank, isSeparator c = true := by
  have hlead : Blank (p ++ [' ']) := blank_append.2 ⟨hp, by decide⟩
  rw [List.append_cons, arguments_ofList, trimStart_append_of_blank hlead] at h
  rw [arguments_ofList, List.append_assoc, trimStart_append_of_blank hp,
    trimStart_append hg.not_blank, trimEnd_append_of_not_blank hrest,
    ← trimStart_append hg.not_blank, readFrom_trimStart_gap hg, trimEnd_of_not_blank hrest,
    joinLines_append (not_joins_of_blank (blank_takeWhile rest) _),
    joinLines_of_blank (blank_takeWhile rest)]
  exact argumentsOf_readFrom_blank (blank_takeWhile rest) h

/-- The end of a line behind a backslash next to a space that is neither quoted nor escaped. The
arguments stay the same if something follows it, and if it does not uncover white space that
separates no words at the beginning of the text. At the end the command is no longer accepted. -/
theorem arguments_continued (h : Shell.arguments (.ofList t) = .ok arguments) (hg : g.Continued) :
    Shell.arguments (.ofList (t ++ g.text)) = .error (.unfinished .escape) ∧
    ∀ p rest, t = p ++ ' ' :: rest → (behind .bare p).isBare = true →
      (Blank rest →
        Shell.arguments (.ofList (p ++ g.text ++ rest)) = .error (.unfinished .escape)) ∧
      (Shell.arguments (.ofList (p ++ g.text ++ rest)) = .ok arguments ↔
        ¬ Blank rest ∧ (Blank p → ∀ c ∈ rest.takeWhile isBlank, isSeparator c = true)) := by
  have hend := arguments_append_gap h hg (List.forall_mem_nil _)
  rw [List.append_nil] at hend
  refine ⟨hend, ?_⟩
  rintro p rest rfl hbare
  have hlast (hrest : Blank rest) :
      Shell.arguments (.ofList (p ++ g.text ++ rest)) = .error (.unfinished .escape) := by
    have hspace : isBlank ' ' = true := by decide
    rw [arguments_append_blank (List.forall_mem_cons.2 ⟨hspace, hrest⟩)] at h
    exact arguments_append_gap h hg hrest
  refine ⟨hlast, ?_⟩
  by_cases hrest : Blank rest
  · rw [hlast hrest]
    exact iff_of_false (by rintro ⟨⟩) fun hcond => hcond.1 hrest
  · rw [and_iff_right hrest]
    by_cases hp : Blank p
    · rw [arguments_gap_first hg hp hrest h, forall_prop_of_true hp]
    · rw [arguments_gap_inside hg hp hrest hbare]
      exact iff_of_true h fun hblank => absurd hblank hp

theorem arguments_continued_inside :
    Shell.arguments "curl '$ ' h" = .ok ["$ ", "h"] ∧
      Shell.arguments "curl '$ ' h \\\r\n" = .error (.unfinished .escape) ∧
      Shell.arguments "curl '$ ' \\\r\nh" = .ok ["$ ", "h"] := by
  have h : Shell.arguments (.ofList "curl '$ ' h".toList) = .ok ["$ ", "h"] := by decide +kernel
  obtain ⟨hend, hinside⟩ := arguments_continued h (.behind (j := .returnJoint) rfl)
  have hread := hinside "curl '$ '".toList ['h'] (by decide) (by decide)
  exact ⟨h, hend, hread.2.2 ⟨by decide, fun hblank => absurd hblank (by decide)⟩⟩

theorem arguments_continued_changed :
    (Shell.arguments "curl h" = .ok ["h"] ∧
      Shell.arguments "curl h \\\n" = .error (.unfinished .escape)) ∧
    (Shell.arguments " \x0bcurl h" = .ok ["h"] ∧
      Shell.arguments "\\\n \x0bcurl h" = .error (.otherCommand "\x0bcurl")) := by
  decide +kernel

end Text

end CurlScribe.Shell
