import CurlScribe.Text.Case
import Mathlib

namespace CurlScribe.Text

theorem toLower_cases (c : Char) : c.toLower = c ∨ ∃ n : Fin 26, c = .ofNat (0x41 + n) := by
  by_cases h : c.isUpper = true
  · have hbounds : 0x41 ≤ c.toNat ∧ c.toNat ≤ 0x5a := by
      simp only [Char.isUpper, decide_eq_true_eq] at h
      exact h
    refine .inr ⟨⟨c.toNat - 0x41, by omega⟩, ?_⟩
    have hvalue : 0x41 + (c.toNat - 0x41) = c.toNat := by omega
    rw [hvalue, Char.ofNat_toNat]
  · exact .inl (Char.toLower_eq_of_not_isUpper (by simpa using h))

theorem inRanges_toLower (c : Char) :
    inRanges caseIgnorable c.toLower.toNat = inRanges caseIgnorable c.toNat ∧
      inRanges cased c.toLower.toNat = inRanges cased c.toNat := by
  rcases toLower_cases c with h | ⟨n, rfl⟩
  · rw [h]
    exact ⟨rfl, rfl⟩
  · revert n
    decide

theorem casedNext_map_toLower (s : List Char) : casedNext (s.map Char.toLower) = casedNext s := by
  induction s with
  | nil => rfl
  | cons c s ih =>
    obtain ⟨hignorable, hcased⟩ := inRanges_toLower c
    rw [List.map_cons, casedNext, hignorable, hcased, ih, casedNext]

theorem lowerChar_map_toLower (before : List Char) (c : Char) (after : List Char) :
    lowerChar (before.map Char.toLower) c.toLower (after.map Char.toLower) =
      lowerChar before c after := by
  rcases toLower_cases c with h | ⟨n, rfl⟩
  · rw [h, lowerChar, casedNext_map_toLower, casedNext_map_toLower, lowerChar]
  · have hletter : ∀ n : Fin 26, ∀ start ∈ [0x41, 0x61],
        Char.ofNat (start + n) ≠ '\u03a3' ∧ Char.ofNat (start + n) ≠ '\u0130' ∧
          (shift lowerShifts (Char.ofNat (start + n)).toNat).elim (Char.ofNat (start + n)) .ofNat =
            .ofNat (0x61 + n) := by
      decide +kernel
    have hlower {start : Nat} (before after : List Char) (hstart : start ∈ [0x41, 0x61]) :
        lowerChar before (.ofNat (start + n)) after = [.ofNat (0x61 + n)] := by
      obtain ⟨hsigma, hdotted, hshift⟩ := hletter n start hstart
      rw [lowerChar, if_neg hsigma, if_neg hdotted, ← hshift]
      cases shift lowerShifts (Char.ofNat (start + n)).toNat <;> rfl
    have hfolded : ∀ n : Fin 26, (Char.ofNat (0x41 + n)).toLower = .ofNat (0x61 + n) := by decide
    rw [hfolded n, hlower _ _ (by simp), hlower _ _ (by simp)]

theorem lowerFrom_map_toLower (before s : List Char) :
    lowerFrom (before.map Char.toLower) (s.map Char.toLower) = lowerFrom before s := by
  induction s generalizing before with
  | nil => rfl
  | cons c s ih =>
    rw [List.map_cons, lowerFrom, lowerChar_map_toLower, ← List.map_cons, ih, lowerFrom]

theorem lower_congr {s t : String}
    (h : s.toList.map Char.toLower = t.toList.map Char.toLower) : lower s = lower t := by
  have hfolded (s : String) : lower s = .ofList (lowerFrom [] (s.toList.map Char.toLower)) :=
    congrArg String.ofList (lowerFrom_map_toLower [] s.toList).symm
  rw [hfolded, h, ← hfolded]

end CurlScribe.Text
