import CurlScribe.Text.Utf8
import Mathlib.Order.Basic
import Mathlib.Tactic.Common

namespace CurlScribe.Text

variable {a b c d : UInt8} {rest : List UInt8}

theorem isTail_iff : isTail b = true ↔ 0x80 ≤ b.toNat ∧ b.toNat ≤ 0xbf := by
  simp [isTail, UInt8.le_iff_toNat_le]

theorem isTail_eq_false_iff : isTail b = false ↔ b.toNat < 0x80 ∨ 0xbf < b.toNat := by
  rw [Bool.eq_false_iff, ne_eq, isTail_iff]
  omega

theorem isSecond_iff : isSecond a b = true ↔ isTail b = true ∧
    (a.toNat = 0xe0 → 0xa0 ≤ b.toNat) ∧ (a.toNat = 0xed → b.toNat ≤ 0x9f) ∧
    (a.toNat = 0xf0 → 0x90 ≤ b.toNat) ∧ (a.toNat = 0xf4 → b.toNat ≤ 0x8f) := by
  unfold isSecond
  simp only [← UInt8.toNat_inj, UInt8.reduceToNat, isTail_iff]
  repeat' split
  all_goals
    simp only [Bool.and_eq_true, decide_eq_true_eq, UInt8.le_iff_toNat_le, UInt8.reduceToNat,
      isTail_iff]
    omega

theorem exists_tails (a : UInt8) (rest : List UInt8) :
    ∃ tails more, rest = tails ++ more ∧ (decodeChar a rest).2 = tails.length ∧
      ∀ b ∈ tails, isTail b = true := by
  have hsecond {b : UInt8} (h : ¬ (!isSecond a b) = true) : isTail b = true :=
    (isSecond_iff.1 (by simpa using h)).1
  fun_cases decodeChar a rest
  case case1 | case2 | case3 | case4 => exact ⟨[], _, rfl, rfl, by simp⟩
  case case5 _ _ b _ hb _ => exact ⟨[b], _, rfl, rfl, by simp [hsecond hb]⟩
  case case6 _ _ b hb _ => exact ⟨[b], _, rfl, rfl, by simp [hsecond hb]⟩
  case case7 _ _ b hb _ _ _ _ => exact ⟨[b], _, rfl, rfl, by simp [hsecond hb]⟩
  case case8 _ _ b hb _ c _ hc _ => exact ⟨[b, c], _, rfl, rfl, by simpa [hsecond hb] using hc⟩
  case case9 _ _ b hb _ c hc _ => exact ⟨[b, c], _, rfl, rfl, by simpa [hsecond hb] using hc⟩
  case case10 _ _ b hb _ c hc _ _ _ _ =>
    exact ⟨[b, c], _, rfl, rfl, by simpa [hsecond hb] using hc⟩
  case case11 _ _ b hb _ c hc _ d _ hd =>
    have hcd : isTail c = true ∧ isTail d = true := ⟨by simpa using hc, by simpa using hd⟩
    exact ⟨[b, c, d], _, rfl, rfl, by simpa [hsecond hb] using hcd⟩

theorem decodeChar_one (ha : a.toNat < 0x80) : decodeChar a rest = (.ofNat a.toNat, 0) :=
  if_pos (UInt8.lt_iff_toNat_lt.2 ha)

theorem decodeChar_two (hsize : 0xc2 ≤ a.toNat ∧ a.toNat < 0xe0) (hb : isSecond a b = true) :
    decodeChar a (b :: rest) = (.ofNat (a.toNat % 32 * 64 + b.toNat % 64), 1) := by
  have h1 : ¬ a.toNat < 0x80 := by omega
  have h2 : ¬ (a.toNat < 0xc2 ∨ 0xf4 < a.toNat) := by omega
  simp [decodeChar, UInt8.lt_iff_toNat_lt, h1, h2, hsize, hb]

theorem decodeChar_three (hsize : 0xe0 ≤ a.toNat ∧ a.toNat < 0xf0) (hb : isSecond a b = true)
    (hc : isTail c = true) : decodeChar a (b :: c :: rest) =
      (.ofNat ((a.toNat % 16 * 64 + b.toNat % 64) * 64 + c.toNat % 64), 2) := by
  have h1 : ¬ a.toNat < 0x80 := by omega
  have h2 : ¬ (a.toNat < 0xc2 ∨ 0xf4 < a.toNat) := by omega
  have h3 : ¬ a.toNat < 0xe0 := by omega
  simp [decodeChar, UInt8.lt_iff_toNat_lt, h1, h2, h3, hsize, hb, hc]

theorem decodeChar_four (hsize : 0xf0 ≤ a.toNat ∧ a.toNat ≤ 0xf4) (hb : isSecond a b = true)
    (hc : isTail c = true) (hd : isTail d = true) : decodeChar a (b :: c :: d :: rest) =
      (.ofNat (((a.toNat % 8 * 64 + b.toNat % 64) * 64 + c.toNat % 64) * 64 + d.toNat % 64), 3) := by
  have h1 : ¬ a.toNat < 0x80 := by omega
  have h2 : ¬ (a.toNat < 0xc2 ∨ 0xf4 < a.toNat) := by omega
  have h3 : ¬ a.toNat < 0xe0 := by omega
  have h4 : ¬ a.toNat < 0xf0 := by omega
  simp [decodeChar, UInt8.lt_iff_toNat_lt, h1, h2, h3, h4, hb, hc, hd]

theorem exists_byte {n : Nat} (h : n < 256) : ∃ b : UInt8, UInt8.ofNat n = b ∧ b.toNat = n :=
  ⟨_, rfl, UInt8.toNat_ofNat_of_lt' h⟩

theorem exists_bytes (c : Char) : ∃ first tails, String.utf8EncodeChar c = first :: tails ∧
    isTail first = false ∧ ∀ rest, decodeChar first (tails ++ rest) = (c, tails.length) := by
  have hvalid : c.toNat.isValidChar := c.valid
  have hc : Char.ofNat c.toNat = c := Char.ofNat_toNat c
  unfold String.utf8EncodeChar
  simp only [Char.toNat_val]
  generalize c.toNat = v at hvalid hc
  subst hc
  have hsmall : v < 0xd800 ∨ 0xdfff < v ∧ v < 0x110000 := hvalid
  split
  · obtain ⟨a, ha, han⟩ := exists_byte (n := v) (by omega)
    refine ⟨_, _, rfl, ?_, fun rest => ?_⟩
    · rw [ha, isTail_eq_false_iff]
      omega
    · rw [ha, List.nil_append, decodeChar_one (by omega), han]
      rfl
  split
  · obtain ⟨a, ha, han⟩ := exists_byte (n := v / 64 % 32 + 192) (by omega)
    obtain ⟨b, hb, hbn⟩ := exists_byte (n := v % 64 + 128) (by omega)
    have hsecond : isSecond a b = true := isSecond_iff.2 (by rw [isTail_iff]; omega)
    have hv : a.toNat % 32 * 64 + b.toNat % 64 = v := by omega
    refine ⟨_, _, rfl, ?_, fun rest => ?_⟩
    · rw [ha, isTail_eq_false_iff]
      omega
    · rw [ha, hb, List.singleton_append, decodeChar_two (by omega) hsecond, hv]
      rfl
  split
  · obtain ⟨a, ha, han⟩ := exists_byte (n := v / 4096 % 16 + 224) (by omega)
    obtain ⟨b, hb, hbn⟩ := exists_byte (n := v / 64 % 64 + 128) (by omega)
    obtain ⟨c, hc, hcn⟩ := exists_byte (n := v % 64 + 128) (by omega)
    have hsecond : isSecond a b = true := isSecond_iff.2 (by rw [isTail_iff]; omega)
    have hv : (a.toNat % 16 * 64 + b.toNat % 64) * 64 + c.toNat % 64 = v := by omega
    refine ⟨_, _, rfl, ?_, fun rest => ?_⟩
    · rw [ha, isTail_eq_false_iff]
      omega
    · rw [ha, hb, hc]
      refine (decodeChar_three (by omega) hsecond (isTail_iff.2 (by omega))).trans ?_
      rw [hv]
      rfl
  · obtain ⟨a, ha, han⟩ := exists_byte (n := v / 262144 % 8 + 240) (by omega)
    obtain ⟨b, hb, hbn⟩ := exists_byte (n := v / 4096 % 64 + 128) (by omega)
    obtain ⟨c, hc, hcn⟩ := exists_byte (n := v / 64 % 64 + 128) (by omega)
    obtain ⟨d, hd, hdn⟩ := exists_byte (n := v % 64 + 128) (by omega)
    have hsecond : isSecond a b = true := isSecond_iff.2 (by rw [isTail_iff]; omega)
    have hv : ((a.toNat % 8 * 64 + b.toNat % 64) * 64 + c.toNat % 64) * 64 + d.toNat % 64 = v := by
      omega
    refine ⟨_, _, rfl, ?_, fun rest => ?_⟩
    · rw [ha, isTail_eq_false_iff]
      omega
    · rw [ha, hb, hc, hd]
      refine (decodeChar_four (by omega) hsecond (isTail_iff.2 (by omega))
        (isTail_iff.2 (by omega))).trans ?_
      rw [hv]
      rfl

theorem decodeFrom_utf8EncodeChar (c : Char) (rest : List UInt8) :
    decodeFrom 0 (String.utf8EncodeChar c ++ rest) = c :: decodeFrom 0 rest := by
  obtain ⟨first, tails, hbytes, -, hread⟩ := exists_bytes c
  rw [hbytes, List.cons_append, decodeFrom, hread, decodeFrom_eq_drop, List.drop_left]

end CurlScribe.Text
