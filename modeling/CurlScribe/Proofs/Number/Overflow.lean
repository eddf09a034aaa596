import CurlScribe.Proofs.Number.Nearest

namespace CurlScribe

variable {num den n : Nat}

theorem roundDiv_cases (num den : Nat) :
    roundDiv num den = num / den ∧ 2 * (num % den) ≤ den ∨
      roundDiv num den = num / den + 1 ∧ den ≤ 2 * (num % den) := by
  unfold roundDiv
  split <;> omega

theorem le_roundDiv (hden : 0 < den) (h : n * den ≤ num) : n ≤ roundDiv num den := by
  have hdiv : n ≤ num / den := (Nat.le_div_iff_mul_le hden).2 h
  rcases roundDiv_cases num den with ⟨heq, -⟩ | ⟨heq, -⟩ <;> omega

theorem roundDiv_le (hden : 0 < den) (h : num < n * den) : roundDiv num den ≤ n := by
  have hdiv : num / den < n := (Nat.div_lt_iff_lt_mul hden).2 h
  rcases roundDiv_cases num den with ⟨heq, -⟩ | ⟨heq, -⟩ <;> omega

theorem lt_roundDiv_iff (hden : 0 < den) (hodd : n % 2 = 1) :
    n < roundDiv num den ↔ (2 * n + 1) * den ≤ 2 * num := by
  have hnum := Nat.div_add_mod num den
  have hmod := Nat.mod_lt num hden
  rcases Nat.lt_trichotomy (num / den) n with hlt | heq | hgt
  · have hle : den * (num / den + 1) ≤ den * n := Nat.mul_le_mul_left den hlt
    have hround := roundDiv_cases num den
    constructor
    · omega
    · intro h
      nlinarith
  · subst heq
    unfold roundDiv
    rw [Nat.add_mul, Nat.mul_assoc, Nat.mul_comm (num / den)]
    split <;> omega
  · have hle : den * (n + 1) ≤ den * (num / den) := Nat.mul_le_mul_left den hgt
    have hround := roundDiv_cases num den
    refine ⟨fun _ => ?_, fun _ => by omega⟩
    calc (2 * n + 1) * den ≤ 2 * (den * (n + 1)) := by nlinarith
      _ ≤ 2 * num := by omega

namespace Binary64

variable {negative : Bool}

def places (num den : Nat) : Nat :=
  roundDiv (scaled 2 (-lastPlace num den) num den).1 (scaled 2 (-lastPlace num den) num den).2

theorem ratio_of_lastPlace : ((scaled 2 (-lastPlace num den) num den).1 /
    (scaled 2 (-lastPlace num den) num den).2 : ℚ) = num / den / 2 ^ lastPlace num den := by
  rw [scaled_value Nat.two_pos, Nat.cast_ofNat, zpow_neg, ← div_eq_mul_inv]

theorem scaled_lastPlace_pos (hden : 0 < den) : 0 < (scaled 2 (-lastPlace num den) num den).2 :=
  scaled_den_pos Nat.two_pos hden

theorem places_le (hnum : 0 < num) (hden : 0 < den) : places num den ≤ 2 ^ 53 := by
  have hpos : 0 < (scaled 2 (-lastPlace num den) num den).2 := scaled_lastPlace_pos hden
  have hvalue : (0 : ℚ) < num / den := by positivity
  have hlog : Int.log 2 (num / den : ℚ) < 53 + lastPlace num den := by
    rw [lastPlace_eq hnum hden]
    omega
  have hlt : (num / den : ℚ) < 2 ^ 53 * 2 ^ lastPlace num den := by
    have hlt := (Int.lt_zpow_iff_log_lt Nat.one_lt_two hvalue).2 hlog
    rwa [Nat.cast_ofNat, zpow_add₀ two_ne_zero] at hlt
  unfold places
  apply roundDiv_le hpos
  rw [← Nat.cast_lt (α := ℚ), Nat.cast_mul, ← div_lt_iff₀ (by exact_mod_cast hpos),
    ratio_of_lastPlace, div_lt_iff₀ (by positivity)]
  exact_mod_cast hlt

theorem le_places (hnum : 0 < num) (hden : 0 < den) (h : lastPlace num den ≠ -1074) :
    2 ^ 52 ≤ places num den := by
  have hpos : 0 < (scaled 2 (-lastPlace num den) num den).2 := scaled_lastPlace_pos hden
  have hvalue : (0 : ℚ) < num / den := by positivity
  have hlog : 52 + lastPlace num den ≤ Int.log 2 (num / den : ℚ) := by
    rw [lastPlace_eq hnum hden] at h ⊢
    omega
  have hle : 2 ^ 52 * 2 ^ lastPlace num den ≤ (num / den : ℚ) := by
    have hle := (Int.zpow_le_iff_le_log Nat.one_lt_two hvalue).2 hlog
    rwa [Nat.cast_ofNat, zpow_add₀ two_ne_zero] at hle
  unfold places
  apply le_roundDiv hpos
  rw [← Nat.cast_le (α := ℚ), Nat.cast_mul, ← le_div_iff₀ (by exact_mod_cast hpos),
    ratio_of_lastPlace, le_div_iff₀ (by positivity)]
  exact_mod_cast hle

theorem lt_places_iff (hden : 0 < den) (hodd : n % 2 = 1) :
    n < places num den ↔ (2 * n + 1) * 2 ^ lastPlace num den ≤ (2 * (num / den) : ℚ) := by
  have hpos : 0 < (scaled 2 (-lastPlace num den) num den).2 := scaled_lastPlace_pos hden
  rw [places, lt_roundDiv_iff hpos hodd, ← Nat.cast_le (α := ℚ), Nat.cast_mul, Nat.cast_mul,
    ← le_div_iff₀ (by exact_mod_cast hpos), mul_div_assoc, ratio_of_lastPlace, ← mul_div_assoc,
    le_div_iff₀ (by positivity)]
  push_cast
  rfl

theorem ofRatio?_eq_none_iff_lastPlace (hnum : 0 < num) (hden : 0 < den) :
    ofRatio? negative num den = none ↔ 971 < lastPlace num den ∨
      lastPlace num den = 971 ∧ places num den = 2 ^ 53 := by
  have hle := places_le hnum hden
  have hge := le_places hnum hden
  have hleast : -1074 ≤ lastPlace num den := le_max_left _ _
  have hplaces : roundDiv (scaled 2 (-lastPlace num den) num den).1
    (scaled 2 (-lastPlace num den) num den).2 = places num den := rfl
  have hpow (n : Nat) : Nat.pow 2 n = 2 ^ n := rfl
  simp only [ofRatio?, hplaces, Canonical, hpow, hnum.ne', if_false, dite_eq_right_iff,
    reduceCtorEq, imp_false]
  split <;> omega

def overflow : ℚ := 2 ^ 1024 - 2 ^ 970

theorem overflow_eq : overflow = (2 ^ 54 - 1) * 2 ^ (970 : Int) := by
  rw [overflow, sub_mul, one_mul, ← zpow_natCast 2 54, ← zpow_add₀ two_ne_zero]
  rfl

theorem overflow_pos : 0 < overflow := by
  rw [overflow_eq]
  exact mul_pos (by norm_num) (by positivity)

/-- A value is too large exactly from the middle between the greatest number and the next power of
two on; the middle itself is a tie, and the even significand is that of the power. -/
theorem ofRatio?_eq_none_iff (hden : 0 < den) :
    ofRatio? negative num den = none ↔ overflow ≤ num / den := by
  rcases Nat.eq_zero_or_pos num with rfl | hnum
  · simp [ofRatio?, overflow_pos.not_ge]
  have hvalue : (0 : ℚ) < num / den := by positivity
  have hlog := lastPlace_eq hnum hden
  rw [ofRatio?_eq_none_iff_lastPlace hnum hden]
  rcases lt_trichotomy (lastPlace num den) 971 with hlt | heq | hgt
  · have hsmall : (num / den : ℚ) < 2 ^ (1023 : Int) :=
      (Int.lt_zpow_iff_log_lt Nat.one_lt_two hvalue).2 (by omega)
    have hover : (2 : ℚ) ^ (1023 : Int) ≤ overflow := by
      rw [overflow_eq, show (1023 : Int) = 53 + 970 from rfl, zpow_add₀ two_ne_zero]
      exact mul_le_mul_of_nonneg_right (by norm_num) (by positivity)
    constructor
    · omega
    · intro h
      exact absurd (hover.trans h) hsmall.not_ge
  · have hplaces : 2 ^ 53 - 1 < places num den ↔ _ := lt_places_iff hden (by norm_num)
    have hle := places_le hnum hden
    have hover : (2 * (2 ^ 53 - 1 : Nat) + 1 : ℚ) * 2 ^ (971 : Int) = 2 * overflow := by
      rw [overflow_eq, show (971 : Int) = 1 + 970 from rfl, zpow_one_add₀ two_ne_zero, ← mul_assoc,
        ← mul_assoc]
      congr 1
      norm_num
    rw [heq, hover, mul_le_mul_iff_right₀ two_pos] at hplaces
    rw [← hplaces]
    omega
  · have hlarge : (2 : ℚ) ^ (1024 : Int) ≤ num / den :=
      (Int.zpow_le_iff_le_log Nat.one_lt_two hvalue).2 (by omega)
    have hover : overflow ≤ (2 : ℚ) ^ (1024 : Int) := sub_le_self _ (by positivity)
    simp only [hgt, true_or, true_iff]
    exact hover.trans hlarge

theorem ratio_value (x : Binary64) : (x.ratio.1 / x.ratio.2 : ℚ) = x.size := by
  rw [ratio, scaled_value Nat.two_pos]
  simp [size]

theorem ratio_den_pos (x : Binary64) : 0 < x.ratio.2 :=
  scaled_den_pos Nat.two_pos Nat.one_pos

theorem times?_eq_none_iff {x : Binary64} {k : Nat} :
    x.times? k = none ↔ overflow ≤ x.size * k := by
  rw [times?, ofRatio?_eq_none_iff x.ratio_den_pos, ← ratio_value, Nat.cast_mul,
    mul_div_right_comm]

end Binary64

end CurlScribe
