import CurlScribe.Number.Binary64
import Mathlib.Algebra.Order.Field.Power
import Mathlib.Data.Int.Log
import Mathlib.Data.Rat.Floor
import Mathlib.Tactic.FieldSimp
import Mathlib.Tactic.NormNum.Pow
import Mathlib.Tactic.Positivity

namespace CurlScribe

variable {base num den num' den' k n n' : Nat} {e e' : Int} {negative : Bool}

theorem roundDiv_mul (hk : 0 < k) : roundDiv (num * k) (den * k) = roundDiv num den := by
  have hmod : 2 * (num % den * k) = 2 * (num % den) * k := (Nat.mul_assoc ..).symm
  simp only [roundDiv, Nat.mul_div_mul_right _ _ hk, Nat.mul_mod_mul_right, hmod,
    Nat.mul_lt_mul_right hk, Nat.mul_left_inj hk.ne']

theorem roundDiv_mul_self (hden : 0 < den) : roundDiv (n * den) den = n := by
  simp [roundDiv, Nat.mul_div_cancel _ hden, hden]

theorem scaled_mul : scaled base e (num * k) (den * k) =
    ((scaled base e num den).1 * k, (scaled base e num den).2 * k) := by
  simp only [scaled, Nat.mul_right_comm _ k]

theorem scaled_den_pos (hbase : 0 < base) (hden : 0 < den) : 0 < (scaled base e num den).2 :=
  Nat.mul_pos hden (Nat.pow_pos hbase)

theorem scaled_value (hbase : 0 < base) :
    ((scaled base e num den).1 / (scaled base e num den).2 : ℚ) = num / den * (base : ℚ) ^ e := by
  have hne : (base : ℚ) ≠ 0 := by positivity
  obtain ⟨m, rfl | rfl⟩ := e.eq_nat_or_neg
  · simp [scaled, mul_div_right_comm]
  · simp [scaled, ← div_eq_mul_inv, div_mul_eq_div_div]

theorem scaled_le_iff (hbase : 1 < base) (hnum : 0 < num) (hden : 0 < den) :
    (scaled base (-e) num den).2 ≤ (scaled base (-e) num den).1 ↔
      e ≤ Int.log base (num / den : ℚ) := by
  have hpos : 0 < (base : ℚ) ^ e := by positivity
  have hscaled : (0 : ℚ) < (scaled base (-e) num den).2 :=
    Nat.cast_pos.2 (scaled_den_pos (by omega) hden)
  rw [← Int.zpow_le_iff_le_log hbase (by positivity), ← Nat.cast_le (α := ℚ), ← one_le_div hscaled,
    scaled_value (by omega), zpow_neg, ← div_eq_mul_inv, one_le_div hpos]

theorem log_mul_zpow (hbase : 1 < base) (hn : n ≠ 0) :
    Int.log base (n * (base : ℚ) ^ e) = Nat.log base n + e := by
  have hvalue : (0 : ℚ) < n * (base : ℚ) ^ e := by positivity
  have hne : (base : ℚ) ≠ 0 := by positivity
  apply le_antisymm
  · rw [← Int.lt_add_one_iff, ← Int.lt_zpow_iff_log_lt hbase hvalue, add_right_comm,
      zpow_add₀ hne]
    gcongr
    exact_mod_cast Nat.lt_pow_succ_log_self hbase n
  · rw [← Int.zpow_le_iff_le_log hbase hvalue, zpow_add₀ hne]
    gcongr
    exact_mod_cast Nat.pow_log_le_self base hn

namespace Binary64

theorem lastPlace_eq (hnum : 0 < num) (hden : 0 < den) :
    lastPlace num den = max (-1074) (Int.log 2 (num / den : ℚ) - 52) := by
  have hvalue : (0 : ℚ) < num / den := by positivity
  have hlow : (num.log2 - den.log2 - 1 : Int) ≤ Int.log 2 (num / den : ℚ) := by
    have hn : (2 : ℚ) ^ num.log2 ≤ num := by exact_mod_cast Nat.log2_self_le hnum.ne'
    have hd : (den : ℚ) ≤ 2 ^ (den.log2 + 1) := by exact_mod_cast Nat.lt_log2_self.le
    rw [← Int.zpow_le_iff_le_log Nat.one_lt_two hvalue]
    calc ((2 : ℕ) : ℚ) ^ (num.log2 - den.log2 - 1 : Int) = 2 ^ num.log2 / 2 ^ (den.log2 + 1) := by
          rw [sub_sub, Nat.cast_ofNat, zpow_sub₀ two_ne_zero]
          norm_cast
      _ ≤ num / den := by gcongr
  have hhigh : Int.log 2 (num / den : ℚ) < num.log2 - den.log2 + 1 := by
    have hn : (num : ℚ) < 2 ^ (num.log2 + 1) := by exact_mod_cast Nat.lt_log2_self
    have hd : (2 : ℚ) ^ den.log2 ≤ den := by exact_mod_cast Nat.log2_self_le hden.ne'
    rw [← Int.lt_zpow_iff_log_lt Nat.one_lt_two hvalue]
    calc (num / den : ℚ) < 2 ^ (num.log2 + 1) / 2 ^ den.log2 := by gcongr
      _ = ((2 : ℕ) : ℚ) ^ (num.log2 - den.log2 + 1 : Int) := by
          rw [sub_add_eq_add_sub, Nat.cast_ofNat, zpow_sub₀ two_ne_zero]
          norm_cast
  unfold lastPlace
  simp only [scaled_le_iff Nat.one_lt_two hnum hden]
  split <;> congr 1 <;> omega

theorem lastPlace_mul (hk : 0 < k) (hnum : 0 < num) (hden : 0 < den) :
    lastPlace (num * k) (den * k) = lastPlace num den := by
  have hne : (k : ℚ) ≠ 0 := by positivity
  rw [lastPlace_eq (Nat.mul_pos hnum hk) (Nat.mul_pos hden hk), lastPlace_eq hnum hden,
    Nat.cast_mul, Nat.cast_mul, mul_div_mul_right _ _ hne]

theorem ofRatio?_mul (hk : 0 < k) (hden : 0 < den) :
    ofRatio? negative (num * k) (den * k) = ofRatio? negative num den := by
  rcases Nat.eq_zero_or_pos num with rfl | hnum
  · simp [ofRatio?]
  · simp only [ofRatio?, lastPlace_mul hk hnum hden, scaled_mul, roundDiv_mul hk, hnum.ne',
      (Nat.mul_pos hnum hk).ne', if_false]

/-- The number nearest to a fraction depends on its value only. -/
theorem ofRatio?_congr (hden : 0 < den) (hden' : 0 < den') (h : (num / den : ℚ) = num' / den') :
    ofRatio? negative num den = ofRatio? negative num' den' := by
  have hd : (den : ℚ) ≠ 0 := by positivity
  have hd' : (den' : ℚ) ≠ 0 := by positivity
  have hcross : num * den' = num' * den := by
    rw [div_eq_div_iff hd hd'] at h
    exact_mod_cast h
  calc ofRatio? negative num den = ofRatio? negative (num * den') (den * den') :=
        (ofRatio?_mul hden' hden).symm
    _ = ofRatio? negative (num' * den) (den' * den) := by rw [hcross, Nat.mul_comm den]
    _ = ofRatio? negative num' den' := ofRatio?_mul hden hden'

def size (x : Binary64) : ℚ := x.significand * 2 ^ x.exponent

variable {x y : Binary64}

theorem size_eq_zero : x.size = 0 ↔ x.significand = 0 := by
  have hpos : (2 : ℚ) ^ x.exponent ≠ 0 := by positivity
  simp [size, hpos]

theorem eq_zero (h : x.significand = 0) : x = zero x.negative := by
  obtain ⟨negative, significand, exponent, hcanonical⟩ := x
  obtain rfl : significand = 0 := h
  obtain rfl : exponent = -1074 := hcanonical.2.2.2.resolve_right (by simp)
  rfl

theorem lastPlace_of_value (hx : x.significand ≠ 0) (hnum : 0 < num) (hden : 0 < den)
    (h : (num / den : ℚ) = x.size) : lastPlace num den = x.exponent := by
  obtain ⟨hlarge, hleast, -, hexponent⟩ := x.canonical
  have hlog : Int.log 2 x.size = Nat.log 2 x.significand + x.exponent :=
    log_mul_zpow Nat.one_lt_two hx
  have hlt : Nat.log 2 x.significand < 53 := Nat.log_lt_of_lt_pow hx hlarge
  rw [lastPlace_eq hnum hden, h, hlog]
  rcases hexponent with he | he
  · omega
  · have hle : 52 ≤ Nat.log 2 x.significand := (Nat.le_log_iff_pow_le Nat.one_lt_two hx).2 he
    omega

theorem ofRatio?_of_value (hden : 0 < den) (h : (num / den : ℚ) = x.size) :
    ofRatio? x.negative num den = some x := by
  have hd : (den : ℚ) ≠ 0 := by positivity
  by_cases hx : x.significand = 0
  · have hnum : num = 0 := by simpa [size_eq_zero.2 hx, hd] using h
    rw [ofRatio?, if_pos hnum, ← eq_zero hx]
  · have hnum : num ≠ 0 := by
      rintro rfl
      exact hx (size_eq_zero.1 (by simpa using h.symm))
    have hplace := lastPlace_of_value hx (Nat.pos_of_ne_zero hnum) hden h
    have hpos : 0 < (scaled 2 (-x.exponent) num den).2 := scaled_den_pos Nat.two_pos hden
    -- At that place the value is the significand itself.
    have hsignificand : (scaled 2 (-x.exponent) num den).1 =
        x.significand * (scaled 2 (-x.exponent) num den).2 := by
      have hvalue : ((scaled 2 (-x.exponent) num den).1 / (scaled 2 (-x.exponent) num den).2 : ℚ) =
          num / den * ((2 : ℕ) : ℚ) ^ (-x.exponent) := scaled_value Nat.two_pos
      rw [h, size, mul_assoc, Nat.cast_ofNat, ← zpow_add₀ two_ne_zero, add_neg_cancel, zpow_zero,
        mul_one, div_eq_iff (by positivity)] at hvalue
      exact_mod_cast hvalue
    have hround : roundDiv (scaled 2 (-x.exponent) num den).1 (scaled 2 (-x.exponent) num den).2 =
        x.significand := by
      rw [hsignificand, roundDiv_mul_self hpos]
    have hne : x.significand ≠ Nat.pow 2 53 := x.canonical.1.ne
    simp only [ofRatio?, if_neg hnum, hplace, hround, if_neg hne, dif_pos x.canonical]

theorem digitCount_eq (hn : n ≠ 0) : digitCount n = Nat.log 10 n + 1 := by
  have hten : 1 < 10 := by decide
  apply le_antisymm
  · exact (Nat.length_toDigits_le_iff hten (Nat.succ_pos _)).2 (Nat.lt_pow_succ_log_self hten n)
  · have hlt : n < 10 ^ digitCount n :=
      (Nat.length_toDigits_le_iff hten Nat.length_toDigits_pos).1 le_rfl
    exact Nat.log_lt_of_lt_pow hn hlt

theorem digitCount_add (hn : n ≠ 0) :
    (digitCount n + e : Int) = Int.log 10 (n * (10 : ℚ) ^ e) + 1 := by
  have hlog : Int.log 10 (n * (10 : ℚ) ^ e) = Nat.log 10 n + e := log_mul_zpow (by decide) hn
  rw [hlog, digitCount_eq hn]
  omega

theorem ofDecimal?_zero : ofDecimal? negative 0 e = some (zero negative) := by
  simp [ofDecimal?, ofRatio?, scaled]

theorem ofDecimal?_congr (h : (n * (10 : ℚ) ^ e) = n' * (10 : ℚ) ^ e') :
    ofDecimal? negative n e = ofDecimal? negative n' e' := by
  have hpos (e : Int) : (10 : ℚ) ^ e ≠ 0 := by positivity
  by_cases hn : n = 0
  · have hn' : n' = 0 := by simpa [hn, hpos] using h.symm
    rw [hn, hn', ofDecimal?_zero, ofDecimal?_zero]
  · have hn' : n' ≠ 0 := by
      rintro rfl
      exact hn (by simpa [hpos] using h)
    have hratio : ofRatio? negative (scaled 10 e n 1).1 (scaled 10 e n 1).2 =
        ofRatio? negative (scaled 10 e' n' 1).1 (scaled 10 e' n' 1).2 := by
      apply ofRatio?_congr
      · exact scaled_den_pos (by decide) Nat.one_pos
      · exact scaled_den_pos (by decide) Nat.one_pos
      · rw [scaled_value (by decide), scaled_value (by decide)]
        simpa using h
    simp only [ofDecimal?, digitCount_add hn, digitCount_add hn', h, if_neg hn, if_neg hn', hratio]

/-- No number has so many digits, or so few, that its decimal would not be computed. -/
theorem log_size (hx : x.significand ≠ 0) :
    -331 ≤ Int.log 10 x.size ∧ Int.log 10 x.size < 309 := by
  obtain ⟨hlarge, hleast, hgreatest, -⟩ := x.canonical
  have hsignificand : (1 : ℚ) ≤ x.significand := by exact_mod_cast Nat.pos_of_ne_zero hx
  have hpos : 0 < x.size := by
    unfold size
    positivity
  constructor
  · rw [← Int.zpow_le_iff_le_log (by decide) hpos]
    have hten : (2 : ℚ) ^ 1074 ≤ 10 ^ 331 := by
      exact_mod_cast (show 2 ^ 1074 ≤ 10 ^ 331 by decide +kernel)
    calc ((10 : ℕ) : ℚ) ^ (-331 : Int) = (10 ^ 331)⁻¹ := rfl
      _ ≤ (2 ^ 1074)⁻¹ := inv_anti₀ (by positivity) hten
      _ = 2 ^ (-1074 : Int) := rfl
      _ ≤ 2 ^ x.exponent := zpow_le_zpow_right₀ one_le_two hleast
      _ ≤ x.size := le_mul_of_one_le_left (by positivity) hsignificand
  · have hlt : (x.significand : ℚ) < 2 ^ 53 := by exact_mod_cast hlarge
    have hten : (2 : ℚ) ^ 53 * 2 ^ 971 ≤ 10 ^ 309 := by
      exact_mod_cast (show 2 ^ 53 * 2 ^ 971 ≤ 10 ^ 309 by decide +kernel)
    rw [← Int.lt_zpow_iff_log_lt (by decide) hpos]
    calc x.size ≤ x.significand * 2 ^ (971 : Int) := by
          unfold size
          gcongr
          exact one_le_two
      _ < 2 ^ 53 * 2 ^ (971 : Int) := by gcongr
      _ ≤ ((10 : ℕ) : ℚ) ^ (309 : Int) := hten

theorem ofDecimal?_of_value (h : (n * (10 : ℚ) ^ e) = x.size) :
    ofDecimal? x.negative n e = some x := by
  have hpos : (10 : ℚ) ^ e ≠ 0 := by positivity
  by_cases hx : x.significand = 0
  · have hn : n = 0 := by simpa [size_eq_zero.2 hx, hpos] using h
    rw [hn, ofDecimal?_zero, ← eq_zero hx]
  · have hn : n ≠ 0 := by
      rintro rfl
      exact hx (size_eq_zero.1 (by simpa using h.symm))
    obtain ⟨hlow, hhigh⟩ := log_size hx
    have hratio : ofRatio? x.negative (scaled 10 e n 1).1 (scaled 10 e n 1).2 = some x := by
      apply ofRatio?_of_value (scaled_den_pos (by decide) Nat.one_pos)
      rw [scaled_value (by decide), ← h]
      simp
    simp only [ofDecimal?, digitCount_add hn, h]
    rw [if_neg (by omega), if_neg (by omega)]
    exact hratio

end Binary64

end CurlScribe
