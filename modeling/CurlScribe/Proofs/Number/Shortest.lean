import CurlScribe.Number.Shortest
import CurlScribe.Proofs.Number.Decimal
import CurlScribe.Proofs.Number.Nearest

namespace CurlScribe.Binary64

open Numeral

variable {x y : Binary64} {digits : List Char} {n : Nat}

theorem exact_value (x : Binary64) : (x.exact.1 * (10 : ℚ) ^ x.exact.2) = x.size := by
  obtain ⟨k, hk | hk⟩ := x.exponent.eq_nat_or_neg
  · simp [exact, ratio, scaled, size, hk]
  · have hten : (10 : ℚ) ^ k = 2 ^ k * 5 ^ k := by rw [← mul_pow]; norm_num
    simp only [exact, ratio, scaled, size, hk, neg_neg, Int.toNat_natCast, Int.toNat_neg_natCast,
      Nat.pow_eq, pow_zero, mul_one, Nat.cast_mul, Nat.cast_pow, Nat.cast_ofNat, zpow_neg,
      zpow_natCast, hten]
    field_simp

theorem ofDecimal?_shortest (x : Binary64) :
    ofDecimal? x.negative x.shortest.1 x.shortest.2 = some x := by
  unfold shortest
  generalize h : x.decimals.find? _ = found
  cases found with
  | none => exact ofDecimal?_of_value x.exact_value
  | some decimal => simpa using List.find?_some h

theorem eq_dropZeros_append (digits : List Char) :
    ∃ k, digits = dropZeros digits ++ List.replicate k '0' := by
  have hzeros : ∀ c ∈ digits.reverse.takeWhile (· = '0'), c = '0' := fun c hc => by
    simpa using List.mem_takeWhile_imp hc
  have hsplit : digits = (digits.reverse.takeWhile (· = '0') ++
      digits.reverse.dropWhile (· = '0')).reverse := by
    rw [List.takeWhile_append_dropWhile, List.reverse_reverse]
  rw [List.eq_replicate_of_mem hzeros, List.reverse_append, List.reverse_replicate] at hsplit
  exact ⟨_, hsplit⟩

section Layout

structure Spells (d : Decimal) (negative : Bool) (digits : List Char) (point : Int) : Prop where
  negative : d.negative = negative
  value : d.significand * (10 : ℚ) ^ d.place = value digits * (10 : ℚ) ^ (point - digits.length)
  notInteger : ¬ d.IsInteger

theorem spells_of_eq {d : Decimal} {point : Int} (hsignificand : d.significand = value digits)
    (hplace : d.place = point - digits.length) (hnot : ¬ d.IsInteger) :
    Spells d d.negative digits point :=
  ⟨rfl, by rw [hsignificand, hplace], hnot⟩

theorem isDigit_of_mem_zeros {k : Nat} {c : Char} (h : c ∈ List.replicate k '0') :
    c.isDigit = true := by
  rw [List.eq_of_mem_replicate h]
  rfl

def paddedExponent (e : Int) : Exponent where
  negative := e < 0
  digits := (if e.natAbs < 10 then ['0'] else []) ++ Nat.toDigits 10 e.natAbs
  nonempty := by simp [Nat.toDigits_ne_nil]
  areDigits := by
    have hdigits : ∀ c ∈ Nat.toDigits 10 e.natAbs, c.isDigit = true := fun c hc =>
      Nat.isDigit_of_mem_toDigits (by decide) le_rfl hc
    refine List.forall_mem_append.2 ⟨?_, hdigits⟩
    split <;> simp

theorem toInt_paddedExponent (e : Int) : (paddedExponent e).toInt = e := by
  have hvalue : value (paddedExponent e).digits = e.natAbs := by
    unfold paddedExponent
    simp only
    split
    · exact (value_zeros_append 1 _).trans (value_toDigits _)
    · exact value_toDigits _
  have hnegative : (paddedExponent e).negative = decide (e < 0) := rfl
  rw [Exponent.toInt, hvalue, hnegative]
  by_cases he : e < 0
  · rw [if_pos (by simpa using he)]
    omega
  · rw [if_neg (by simpa using he)]
    omega

variable (negative : Bool) (point : Int) (hne : digits ≠ [])
  (hdigits : ∀ c ∈ digits, c.isDigit = true) (hhead : digits.head? ≠ some '0')

include hne hdigits hhead

theorem exists_split {k : Nat} (hk : 0 < k) (hlength : k ≤ digits.length) (e : Option Exponent)
    (he : e.elim 0 Exponent.toInt = point - k) (hnot : k < digits.length ∨ e ≠ none) :
    ∃ d, Spells d negative digits point ∧ d.text = (if negative then ['-'] else []) ++
      (digits.take k ++
        ((if digits.drop k = [] then [] else '.' :: digits.drop k) ++ e.elim [] Exponent.text)) := by
  refine ⟨⟨negative, digits.take k, digits.drop k, e, ?nonempty, ?areDigits, ?leading⟩,
    ?spells, rfl⟩
  case nonempty => simp [hne, hk.ne']
  case areDigits => rwa [List.take_append_drop]
  case leading =>
    rw [List.head?_take, if_neg hk.ne']
    exact fun h => absurd h hhead
  case spells =>
    apply spells_of_eq
    · rw [Decimal.significand, List.take_append_drop]
    · simp only [Decimal.place, he, List.length_drop]
      omega
    · rintro ⟨hdrop, rfl⟩
      have hle : digits.length ≤ k := List.drop_eq_nil_iff.1 hdrop
      exact hnot.elim (Nat.not_lt.2 hle) fun h => h rfl

theorem exists_positional : ∃ d, Spells d negative digits point ∧
    d.text = (if negative then ['-'] else []) ++ positional digits point := by
  by_cases hpoint : point ≤ 0
  · rw [positional, if_pos hpoint]
    refine ⟨⟨negative, ['0'], zeros (-point) ++ digits, none, by simp, ?_, fun _ => rfl⟩, ?_, ?_⟩
    · simp only [List.forall_mem_append]
      exact ⟨by simp, fun c hc => isDigit_of_mem_zeros hc, hdigits⟩
    · apply spells_of_eq
      · exact (value_zeros_append 1 _).trans (value_zeros_append _ _)
      · simp [Decimal.place, zeros]
        omega
      · simp [Decimal.IsInteger, hne]
    · simp [Decimal.text, Decimal.point, Decimal.ending, hne]
  · rw [positional, if_neg hpoint]
    by_cases hlength : (digits.length : Int) ≤ point
    · rw [if_pos hlength]
      obtain ⟨k, rfl⟩ := Int.le.dest hlength
      have hzeros : zeros (digits.length + k - digits.length) = List.replicate k '0' := by
        simp [zeros]
      rw [hzeros]
      refine ⟨⟨negative, digits ++ List.replicate k '0', ['0'], none, by simp [hne], ?_, ?_⟩,
        ⟨rfl, ?_, by simp [Decimal.IsInteger]⟩,
        by simp [Decimal.text, Decimal.point, Decimal.ending]⟩
      · simp only [List.forall_mem_append]
        exact ⟨⟨hdigits, fun c hc => isDigit_of_mem_zeros hc⟩, by simp⟩
      · rw [List.head?_append_of_ne_nil _ hne]
        exact fun h => absurd h hhead
      · -- The zero behind the point makes the number ten times as large, and its place says so.
        have hsignificand : value (digits ++ List.replicate k '0' ++ ['0']) =
            value digits * 10 ^ k * 10 := by
          rw [← value_append_zeros digits k]
          exact value_append_zeros _ 1
        simp only [Decimal.significand, Decimal.place, hsignificand]
        simp
    · have hsplit : 0 < point.toNat ∧ point.toNat < digits.length := by omega
      have hplace : (none : Option Exponent).elim 0 Exponent.toInt = point - point.toNat := by
        simp
        omega
      obtain ⟨d, hspells, htext⟩ := exists_split negative point hne hdigits hhead hsplit.1
        hsplit.2.le none hplace (.inl hsplit.2)
      refine ⟨d, hspells, ?_⟩
      have hdrop : digits.drop point.toNat ≠ [] := by simpa using hsplit.2
      rw [htext, if_neg hlength, if_neg hdrop]
      simp

theorem exists_scientific : ∃ d, Spells d negative digits point ∧
    d.text = (if negative then ['-'] else []) ++ scientific digits point := by
  have hlength : 1 ≤ digits.length := List.length_pos_of_ne_nil hne
  obtain ⟨d, hspells, htext⟩ := exists_split negative point hne hdigits hhead Nat.one_pos hlength
    (some (paddedExponent (point - 1))) (toInt_paddedExponent _) (.inr (by simp))
  refine ⟨d, hspells, ?_⟩
  have htail : digits.tail = [] ↔ digits.length ≤ 1 := by rw [← List.drop_one, List.drop_eq_nil_iff]
  rw [htext]
  simp [scientific, Exponent.text, paddedExponent, htail]

theorem exists_written (positionally : Bool) : ∃ d, Spells d negative digits point ∧
    d.text = (if negative then ['-'] else []) ++
      (if positionally then positional else scientific) digits point := by
  cases positionally with
  | true => exact exists_positional negative point hne hdigits hhead
  | false => exact exists_scientific negative point hne hdigits hhead

end Layout

theorem exists_layout (negative : Bool) (t : Int) (hn : n ≠ 0) : ∃ d : Decimal, ¬ d.IsInteger ∧
    d.negative = negative ∧ d.significand * (10 : ℚ) ^ d.place = n * (10 : ℚ) ^ t ∧
    d.text = (if negative then ['-'] else []) ++
      (if isPositional ((Nat.toDigits 10 n).length + t) then positional else scientific)
        (dropZeros (Nat.toDigits 10 n)) ((Nat.toDigits 10 n).length + t) := by
  obtain ⟨k, hk⟩ := eq_dropZeros_append (Nat.toDigits 10 n)
  have hvalue : n = value (dropZeros (Nat.toDigits 10 n)) * 10 ^ k := by
    rw [← value_append_zeros, ← hk, value_toDigits]
  have hlength : (Nat.toDigits 10 n).length = (dropZeros (Nat.toDigits 10 n)).length + k := by
    simpa using congrArg List.length hk
  have hne : dropZeros (Nat.toDigits 10 n) ≠ [] := fun hnil => by
    rw [hnil] at hvalue
    exact hn (hvalue.trans (Nat.zero_mul _))
  have hdigits : ∀ c ∈ dropZeros (Nat.toDigits 10 n), c.isDigit = true := fun c hc => by
    have hmem : c ∈ Nat.toDigits 10 n := hk ▸ List.mem_append_left _ hc
    exact Nat.isDigit_of_mem_toDigits (by decide) le_rfl hmem
  have hhead : (dropZeros (Nat.toDigits 10 n)).head? ≠ some '0' := by
    rw [← List.head?_append_of_ne_nil _ hne, ← hk]
    exact head?_toDigits hn
  obtain ⟨d, hspells, htext⟩ := exists_written negative ((Nat.toDigits 10 n).length + t) hne hdigits
    hhead (isPositional ((Nat.toDigits 10 n).length + t))
  refine ⟨d, hspells.notInteger, hspells.negative, ?_, htext⟩
  have hplace : ((Nat.toDigits 10 n).length + t - (dropZeros (Nat.toDigits 10 n)).length : Int) =
      k + t := by
    omega
  calc d.significand * (10 : ℚ) ^ d.place =
        value (dropZeros (Nat.toDigits 10 n)) * (10 : ℚ) ^ (k + t : Int) := by
        rw [hspells.value, hplace]
    _ = (value (dropZeros (Nat.toDigits 10 n)) * 10 ^ k : Nat) * (10 : ℚ) ^ t := by
        rw [zpow_add₀ (by decide), zpow_natCast, ← mul_assoc]
        norm_cast
    _ = n * (10 : ℚ) ^ t := by rw [← hvalue]

/-- The text of a number is that of a decimal to which it is the nearest. -/
theorem exists_decimal (x : Binary64) : ∃ d : Decimal, ¬ d.IsInteger ∧ x.text = .ofList d.text ∧
    ofDecimal? d.negative d.significand d.place = some x := by
  by_cases hx : x.significand = 0
  · let d : Decimal := ⟨x.negative, ['0'], ['0'], none, by simp, by simp, fun _ => rfl⟩
    refine ⟨d, by simp [Decimal.IsInteger, d],
      by simp [text, unsignedText, hx, d, Decimal.text, Decimal.point, Decimal.ending], ?_⟩
    have hzero : d.significand = 0 := rfl
    rw [hzero, ofDecimal?_zero, eq_zero hx]
  · have hn : x.shortest.1 ≠ 0 := fun h0 => by
      have hzero := x.ofDecimal?_shortest
      rw [h0, ofDecimal?_zero] at hzero
      exact hx (congrArg significand (Option.some.inj hzero)).symm
    obtain ⟨d, hnot, hnegative, hvalue, htext⟩ := exists_layout x.negative x.shortest.2 hn
    refine ⟨d, hnot, ?_, ?_⟩
    · rw [text, htext, unsignedText, if_neg hx]
    · rw [hnegative, ofDecimal?_congr hvalue, ofDecimal?_shortest]

theorem finite?_text (x : Binary64) : finite? x.text = some x := by
  obtain ⟨d, -, htext, hread⟩ := x.exists_decimal
  rw [htext, d.finite?_text, hread]

theorem text_injective : Function.Injective text := by
  intro x y h
  have hx := x.finite?_text
  rw [h, y.finite?_text] at hx
  exact (Option.some.inj hx).symm

end CurlScribe.Binary64
