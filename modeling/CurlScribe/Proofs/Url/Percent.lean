import CurlScribe.Proofs.Text.Utf8
import CurlScribe.Url.Percent

namespace CurlScribe.Url

open Text

variable {s : List Char}

/-- Whether a percent sign with two hexadecimal digits behind it stands in a text. -/
def HasEscape (s : List Char) : Prop :=
  ∃ before a b after, s = before ++ '%' :: a :: b :: after ∧ isHex a = true ∧ isHex b = true

theorem escapedByte?_isSome : (escapedByte? s).isSome = true ↔
    ∃ a b after, s = a :: b :: after ∧ isHex a = true ∧ isHex b = true := by
  unfold escapedByte?
  split
  · rename_i a b after
    simp only [List.cons.injEq, exists_and_left, and_assoc, exists_eq_left', isHex]
    cases hexValue? a <;> cases hexValue? b <;> simp
  · rename_i hshort
    refine iff_of_false (by simp) ?_
    rintro ⟨a, b, after, rfl, -⟩
    exact hshort a b after rfl

theorem bytesFrom_cons (c : Char) (rest : List Char) :
    (HasEscape (c :: rest) ∧ ∃ byte after, rest.length = after.length + 2 ∧
      bytesFrom 0 (c :: rest) = byte :: bytesFrom 0 after) ∨
    (HasEscape (c :: rest) → HasEscape rest) ∧
      bytesFrom 0 (c :: rest) = String.utf8EncodeChar c ++ bytesFrom 0 rest := by
  by_cases hescape : c = '%' ∧ (escapedByte? rest).isSome = true
  · obtain ⟨rfl, hsome⟩ := hescape
    obtain ⟨byte, hbyte⟩ := Option.isSome_iff_exists.1 hsome
    obtain ⟨a, b, after, rfl, hhex⟩ := escapedByte?_isSome.1 hsome
    refine .inl ⟨⟨[], a, b, after, rfl, hhex⟩, byte, after, rfl, ?_⟩
    rw [bytesFrom, if_pos rfl, hbyte]
    rfl
  · refine .inr ⟨?_, ?_⟩
    · rintro ⟨before, a, b, after, heq, hhex⟩
      cases before with
      | nil =>
        obtain ⟨hc, hrest⟩ := List.cons.inj heq
        exact absurd ⟨hc, escapedByte?_isSome.2 ⟨a, b, after, hrest, hhex⟩⟩ hescape
      | cons d before => exact ⟨before, a, b, after, (List.cons.inj heq).2, hhex⟩
    · rw [bytesFrom]
      split
      · rename_i hc
        have hnone : escapedByte? rest = none :=
          Option.not_isSome_iff_eq_none.1 fun hsome => hescape ⟨hc, hsome⟩
        rw [hnone]
      · rfl

theorem exists_of_tails {tails more : List UInt8} (h : bytesFrom 0 s = tails ++ more)
    (htails : ∀ b ∈ tails, isTail b = true) :
    ∃ t, more = bytesFrom 0 t ∧ t.length ≤ s.length := by
  induction tails generalizing s with
  | nil => exact ⟨s, h.symm, Nat.le_refl _⟩
  | cons byte tails ih =>
    obtain ⟨hbyte, htails⟩ := List.forall_mem_cons.1 htails
    cases s with
    | nil => cases h
    | cons c rest =>
      rcases bytesFrom_cons c rest with ⟨-, first, after, hshort, hbytes⟩ | ⟨-, hbytes⟩
      · obtain ⟨-, hafter⟩ := List.cons.inj (hbytes.symm.trans h)
        obtain ⟨t, ht, hlength⟩ := ih hafter htails
        exact ⟨t, ht, by rw [List.length_cons]; omega⟩
      · obtain ⟨first, more, hfirst, hnotail, -⟩ := exists_bytes c
        rw [hfirst] at hbytes
        obtain ⟨rfl, -⟩ := List.cons.inj (hbytes.symm.trans h)
        rw [hnotail] at hbyte
        cases hbyte

theorem length_percentDecode (s : List Char) : (percentDecode s).length ≤ s.length ∧
    (HasEscape s → (percentDecode s).length < s.length) := by
  induction hn : s.length using Nat.strongRecOn generalizing s with
  | ind n ih =>
    subst hn
    cases s with
    | nil =>
      refine ⟨Nat.le_refl _, ?_⟩
      rintro ⟨before, a, b, after, heq, -⟩
      simp at heq
    | cons c rest =>
      rcases bytesFrom_cons c rest with ⟨-, byte, after, hshort, hbytes⟩ | ⟨hescape, hbytes⟩
      · -- What is taken for the rest of the escape's character are escapes again.
        obtain ⟨tails, more, htails, hskip, htail⟩ := exists_tails byte (bytesFrom 0 after)
        obtain ⟨t, rfl, hlength⟩ := exists_of_tails htails htail
        have hdecode : percentDecode (c :: rest) =
            (decodeChar byte (bytesFrom 0 after)).1 :: percentDecode t := by
          rw [percentDecode, decodeUtf8, hbytes, decodeFrom, decodeFrom_eq_drop, hskip, htails,
            List.drop_left]
          rfl
        have ht := (ih t.length (by rw [List.length_cons]; omega) t rfl).1
        rw [hdecode, List.length_cons, List.length_cons]
        omega
      · have hdecode : percentDecode (c :: rest) = c :: percentDecode rest := by
          rw [percentDecode, decodeUtf8, hbytes, decodeFrom_utf8EncodeChar]
          rfl
        obtain ⟨hle, hlt⟩ := ih rest.length (Nat.lt_succ_self _) rest rfl
        rw [hdecode, List.length_cons, List.length_cons]
        exact ⟨Nat.succ_le_succ hle, fun h => Nat.succ_lt_succ (hlt (hescape h))⟩

theorem percentDecode_eq_self : percentDecode s = s ↔ ¬ HasEscape s := by
  constructor
  · intro h hescape
    have hlength := (length_percentDecode s).2 hescape
    rw [h] at hlength
    exact Nat.lt_irrefl _ hlength
  · intro h
    induction s with
    | nil => rfl
    | cons c rest ih =>
      have hrest : ¬ HasEscape rest := by
        rintro ⟨before, a, b, after, rfl, hhex⟩
        exact h ⟨c :: before, a, b, after, rfl, hhex⟩
      rcases bytesFrom_cons c rest with ⟨hescape, -⟩ | ⟨-, hbytes⟩
      · exact absurd hescape h
      · rw [percentDecode, decodeUtf8, hbytes, decodeFrom_utf8EncodeChar]
        exact congrArg (c :: ·) (ih hrest)

end CurlScribe.Url
