import CurlScribe.Proofs.Shell.Layout

/-!
Joining the lines of a text in parts. The parts can be taken one by one unless a backslash and the
end of its line fall apart, and nothing is joined exactly if no line goes on.
-/

namespace CurlScribe.Shell

variable {c : Char} {s t : List Char}

def Joins (s t : List Char) : Prop :=
  ['\\'] <:+ s ∧ (['\n'] <+: t ∨ ['\r', '\n'] <+: t) ∨ ['\\', '\r'] <:+ s ∧ ['\n'] <+: t

instance (s t : List Char) : Decidable (Joins s t) := inferInstanceAs (Decidable (_ ∨ _))

theorem Joins.cons (h : Joins s t) (c : Char) : Joins (c :: s) t :=
  h.imp (And.imp_left fun hs => hs.trans (List.suffix_cons c s))
    (And.imp_left fun hs => hs.trans (List.suffix_cons c s))

theorem not_joins_of_head? (h : ∀ c ∈ t.head?, c ≠ '\n' ∧ c ≠ '\r') : ¬ Joins s t := by
  have hline : ¬ ['\n'] <+: t := by
    rintro ⟨rest, rfl⟩
    exact (h '\n' rfl).1 rfl
  have hreturn : ¬ ['\r', '\n'] <+: t := by
    rintro ⟨rest, rfl⟩
    exact (h '\r' rfl).2 rfl
  rintro (⟨-, hnext | hnext⟩ | ⟨-, hnext⟩)
  · exact hline hnext
  · exact hreturn hnext
  · exact hline hnext

theorem joinLines_append (h : ¬ Joins s t) : joinLines (s ++ t) = joinLines s ++ joinLines t := by
  induction s using joinLines.induct with
  | case1 => rfl
  | case2 rest ih => exact congrArg (' ' :: ·) (ih fun hrest => h ((hrest.cons _).cons _))
  | case3 rest ih => exact congrArg (' ' :: ·) (ih fun hrest => h (((hrest.cons _).cons _).cons _))
  | case4 c rest hline hreturn ih =>
    have hrest : joinLines (c :: rest) = c :: joinLines rest := by
      rw [joinLines]
      · exact hline
      · exact hreturn
    rw [List.cons_append, joinLines_cons, ih fun hrest => h (hrest.cons c), hrest, List.cons_append]
    -- A line that goes on behind `c` would do so in this text, or from it into the next.
    rintro rfl
    constructor
    · intro hnext
      cases rest with
      | nil => exact h (.inl ⟨List.suffix_refl _, .inl hnext⟩)
      | cons d rest =>
        obtain ⟨rfl, -⟩ := List.cons_prefix_cons.1 hnext
        exact hline rest rfl rfl
    · intro hnext
      rcases rest with _ | ⟨d, _ | ⟨e, rest⟩⟩
      · exact h (.inl ⟨List.suffix_refl _, .inr hnext⟩)
      · obtain ⟨rfl, hend⟩ := List.cons_prefix_cons.1 hnext
        exact h (.inr ⟨List.suffix_refl _, hend⟩)
      · obtain ⟨rfl, hend⟩ := List.cons_prefix_cons.1 hnext
        obtain ⟨rfl, -⟩ := List.cons_prefix_cons.1 hend
        exact hreturn rest rfl rfl

theorem joinLines_eq_self_iff : joinLines s = s ↔ Unjoined s := by
  induction s using joinLines.induct with
  | case1 => exact iff_of_true rfl (by decide)
  | case2 rest ih => exact iff_of_false (by rintro ⟨⟩) fun h => h.1 ⟨[], rest, rfl⟩
  | case3 rest ih => exact iff_of_false (by rintro ⟨⟩) fun h => h.2 ⟨[], rest, rfl⟩
  | case4 c rest hline hreturn ih =>
    have hfirst : ¬ ['\\', '\n'] <+: c :: rest := by
      rintro ⟨after, heq⟩
      obtain ⟨rfl, hrest⟩ := List.cons.inj heq
      exact hline after rfl hrest.symm
    have hsecond : ¬ ['\\', '\r', '\n'] <+: c :: rest := by
      rintro ⟨after, heq⟩
      obtain ⟨rfl, hrest⟩ := List.cons.inj heq
      exact hreturn after rfl hrest.symm
    have hunjoined : Unjoined (c :: rest) ↔ Unjoined rest := by
      rw [Unjoined, Unjoined, List.infix_cons_iff, List.infix_cons_iff, or_iff_right hfirst,
        or_iff_right hsecond]
    rw [hunjoined, ← ih, joinLines]
    · exact List.cons_inj_right c
    · exact hline
    · exact hreturn

end CurlScribe.Shell
