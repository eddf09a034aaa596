import CurlScribe.Proofs.Json.Character
import CurlScribe.Proofs.Number.Decimal

namespace CurlScribe.Json

open Numeral

variable {s t rest : List Char} {c : Char} {fuel : Nat}

section Strings

theorem stringFrom_skip (skipped t : List Char) :
    stringFrom skipped.length (skipped ++ t) = stringFrom 0 t := by
  induction skipped with
  | nil => rfl
  | cons c skipped ih => exact ih

theorem unit?_hex {n : Nat} (hn : n < 0x10000) (ht : t ≠ []) :
    unit? (Text.hex 4 n ++ t) = some n := by
  obtain ⟨c, t, rfl⟩ := List.exists_cons_of_ne_nil ht
  have hvalue : Text.ofHex (Text.hex 4 n) = n := Text.ofHex_hex hn
  have hhex : (Text.hex 4 n).all Text.isHex = true := List.all_eq_true.2 Text.isHex_of_mem_hex
  simp only [Text.hex, List.nil_append, List.cons_append] at hvalue hhex ⊢
  rw [unit?, if_pos hhex, hvalue]

theorem plainEscape?_of_letterEscape? {letter : Char} (h : letterEscape? letter = some c) :
    letter ≠ 'u' ∧ plainEscape? letter = some c := by
  unfold letterEscape? at h
  split at h <;> cases h <;> exact ⟨by decide, rfl⟩

theorem unitChar_toNat (c : Char) : unitChar c.toNat = c := by
  have hvalid : c.toNat.isValidChar := c.valid
  rw [unitChar, if_pos hvalid, Char.ofNat_toNat]

theorem unitEscapes_hex (hc : c.toNat < 0x10000) (ht : t ≠ []) :
    unitEscapes (Text.hex 4 c.toNat ++ t) = .ok (c, 4) := by
  have hhigh := isHigh_toNat c
  have hunit : unit? (Text.hex 4 c.toNat ++ t) = some c.toNat := unit?_hex hc ht
  simp only [unitEscapes, hunit, hhigh, Bool.false_and, Bool.false_eq_true, if_false,
    unitChar_toNat]
  split <;> rfl

section Characters

variable (h : stringFrom 0 t = .ok (s, rest))

include h

theorem stringFrom_plain (hquote : c ≠ '"') (hbackslash : c ≠ '\\') (hc : 0x20 ≤ c.toNat) :
    stringFrom 0 (c :: t) = .ok (c :: s, rest) := by
  rw [stringFrom.eq_def]
  simp only [if_neg hquote, if_neg hbackslash, if_neg (Nat.not_lt.2 hc), h]
  rfl

theorem stringFrom_escape {d : Char} (hd : d ≠ 'u') (he : plainEscape? d = some c) :
    stringFrom 0 ('\\' :: d :: t) = .ok (c :: s, rest) := by
  rw [stringFrom, if_neg (by decide), if_pos rfl]
  simp only [if_neg hd, he, h]
  rfl

theorem stringFrom_unitEscape (hc : c.toNat < 0x10000) :
    stringFrom 0 (unitEscape c.toNat ++ t) = .ok (c :: s, rest) := by
  have ht : t ≠ [] := by
    rintro rfl
    cases h
  have hskip : stringFrom 4 (Text.hex 4 c.toNat ++ t) = stringFrom 0 t := by
    simpa using stringFrom_skip (Text.hex 4 c.toNat) t
  rw [unitEscape, List.cons_append, List.cons_append, stringFrom, if_neg (by decide), if_pos rfl]
  simp only [if_true, unitEscapes_hex hc ht, bind, Except.bind, hskip, h]
  rfl

theorem stringFrom_stringChar (c : Char) :
    stringFrom 0 (stringChar false c ++ t) = .ok (c :: s, rest) := by
  have hwritten := writtenAs_stringChar false c
  generalize stringChar false c = text at hwritten ⊢
  cases hwritten with
  | letter hletter =>
    obtain ⟨hu, he⟩ := plainEscape?_of_letterEscape? hletter
    exact stringFrom_escape h hu he
  | unit hshort => exact stringFrom_unitEscape h hshort
  | plain hquote hbackslash hc _ => exact stringFrom_plain h hquote hbackslash hc
  | surrogates hascii _ => cases hascii

end Characters

theorem stringFrom_quoted (s rest : List Char) :
    stringFrom 0 (s.flatMap (stringChar false) ++ '"' :: rest) = .ok (s, rest) := by
  induction s with
  | nil =>
    rw [List.flatMap_nil, List.nil_append, stringFrom.eq_def]
    rfl
  | cons c s ih =>
    rw [List.flatMap_cons, List.append_assoc]
    exact stringFrom_stringChar ih c

end Strings

section Numbers

def goesOn (c : Char) : Bool := c.isDigit || c = '.' || c = 'e' || c = 'E'

theorem digits_append (hs : ∀ c ∈ s, c.isDigit = true) (ht : ∀ c ∈ t.head?, c.isDigit = false) :
    digits (s ++ t) = (s, t) :=
  Prod.ext (takeWhile_digits hs ht) (dropWhile_digits hs ht)

theorem integerPart?_whole (d : Decimal) (ht : ∀ c ∈ t.head?, c.isDigit = false) :
    integerPart? (d.whole ++ t) = some (d.whole, t) := by
  obtain ⟨c, more, hwhole, -⟩ := d.exists_whole
  by_cases hc : c = '0'
  · have hzero : d.whole = ['0'] := d.leading (by simp [hwhole, hc])
    rw [hzero]
    rfl
  · have hdigits : digits (d.whole ++ t) = (d.whole, t) :=
      digits_append (List.forall_mem_append.1 d.areDigits).1 ht
    unfold integerPart?
    split
    case h_1 heq => simp [hwhole, hc] at heq
    case h_2 => simp [hdigits, d.nonempty]

variable (hrest : ∀ c ∈ rest.head?, goesOn c = false)

include hrest

theorem exponent_ending (d : Decimal) : exponent (d.ending ++ rest) = (d.ending, rest) := by
  have hdigit : ∀ c ∈ rest.head?, c.isDigit = false := fun c hc => by
    have := hrest c hc
    simp_all [goesOn]
  unfold Decimal.ending
  cases d.exponent with
  | none =>
    cases rest with
    | nil => rfl
    | cons c rest =>
      have hc : goesOn c = false := hrest c rfl
      simp [goesOn] at hc
      simp [exponent, hc]
  | some e =>
    have hdigits : digits (e.digits ++ rest) = (e.digits, rest) := digits_append e.areDigits hdigit
    cases hnegative : e.negative <;>
      simp [Exponent.text, exponent, isSign, hnegative, hdigits, e.nonempty]

theorem head?_ending_append (d : Decimal) :
    ∀ c ∈ (d.ending ++ rest).head?, c.isDigit = false ∧ c ≠ '.' := by
  intro c hc
  by_cases hending : d.ending = []
  · rw [hending, List.nil_append] at hc
    have hgoes := hrest c hc
    simp_all [goesOn]
  · rw [List.head?_append_of_ne_nil _ hending] at hc
    rw [d.head?_ending c hc]
    decide

theorem fraction_point (d : Decimal) :
    fraction (d.point ++ (d.ending ++ rest)) = (d.point, d.ending ++ rest) := by
  have hhead := head?_ending_append hrest d
  unfold Decimal.point
  split
  case isTrue hf =>
    rw [List.nil_append]
    unfold fraction
    split
    case h_1 heq =>
      rw [heq] at hhead
      exact absurd rfl (hhead '.' rfl).2
    case h_2 => rfl
  case isFalse hf =>
    have hdigits : digits (d.fraction ++ (d.ending ++ rest)) = (d.fraction, d.ending ++ rest) :=
      digits_append (List.forall_mem_append.1 d.areDigits).2 fun c hc => (hhead c hc).1
    simp [fraction, hdigits, hf]

theorem numeral_text (d : Decimal)
    (hlength : d.IsInteger → d.whole.length ≤ maxDigits) :
    numeral (d.text ++ rest) = .ok (.number (.ofList d.text), rest) := by
  have hpoint : ∀ c ∈ (d.point ++ (d.ending ++ rest)).head?, c.isDigit = false := by
    unfold Decimal.point
    split
    · exact fun c hc => (head?_ending_append hrest d c hc).1
    · simp
  have hsign : ((d.text ++ rest).take 1).filter (· = '-') = if d.negative then ['-'] else [] := by
    obtain ⟨c, more, hwhole, hc⟩ := d.exists_whole
    have hminus : c ≠ '-' := by
      rintro rfl
      simp at hc
    cases hn : d.negative <;> simp [Decimal.text, hn, hwhole, hminus]
  have hdrop : (d.text ++ rest).drop (if d.negative then ['-'] else []).length =
      d.whole ++ (d.point ++ (d.ending ++ rest)) := by
    cases hn : d.negative <;> simp [Decimal.text, hn]
  simp only [numeral, hsign, hdrop, integerPart?_whole d hpoint, fraction_point hrest,
    exponent_ending hrest]
  rw [if_neg]
  · simp [Decimal.text]
  · rintro ⟨hp, he, hl⟩
    exact absurd (hlength (d.isInteger_iff.2 ⟨hp, he⟩)) (Nat.not_le.2 hl)

end Numbers

end CurlScribe.Json
