import CurlScribe.Number.Numeral
import Mathlib.Algebra.Group.Nat.Defs
import Mathlib.Data.List.Basic
import Mathlib.Data.List.TakeWhile

namespace CurlScribe.Numeral

variable {s ds rest : List Char} {c : Char} {n : Nat}

section Digits

theorem takeWhile_digits (hds : ∀ c ∈ ds, c.isDigit = true)
    (hrest : ∀ c ∈ rest.head?, c.isDigit = false) : (ds ++ rest).takeWhile Char.isDigit = ds := by
  rw [List.takeWhile_append_of_pos hds]
  cases rest with
  | nil => simp
  | cons c rest => simp [hrest c rfl]

theorem dropWhile_digits (hds : ∀ c ∈ ds, c.isDigit = true)
    (hrest : ∀ c ∈ rest.head?, c.isDigit = false) : (ds ++ rest).dropWhile Char.isDigit = rest := by
  rw [List.dropWhile_append_of_pos hds]
  cases rest with
  | nil => rfl
  | cons c rest => simp [hrest c rfl]

theorem toNat_of_isDigit (h : c.isDigit = true) : 48 ≤ c.toNat ∧ c.toNat ≤ 57 := by
  simpa [Char.isDigit, UInt32.le_iff_toNat_le] using h

theorem value_eq (s : List Char) : value s = Nat.ofDigitChars 10 s 0 := rfl

theorem natural?_digits (hne : ds ≠ []) (hds : ∀ c ∈ ds, c.isDigit = true) :
    natural? ds = some (value ds) :=
  if_pos ⟨hne, List.all_eq_true.2 hds⟩

@[simp] theorem value_toDigits (n : Nat) : value (Nat.toDigits 10 n) = n :=
  Nat.ofDigitChars_ten_toDigits

theorem value_lt (hds : ∀ c ∈ ds, c.isDigit = true) : value ds < 10 ^ ds.length := by
  induction ds with
  | nil => simp [value]
  | cons c ds ih =>
    obtain ⟨hc, hds⟩ := List.forall_mem_cons.1 hds
    have hdigit : c.toNat - '0'.toNat ≤ 9 := Nat.sub_le_iff_le_add.2 (toNat_of_isDigit hc).2
    calc value (c :: ds) = 10 ^ ds.length * (c.toNat - '0'.toNat) + value ds := by
          rw [value_eq, Nat.ofDigitChars_cons, Nat.ofDigitChars_eq_ofDigitChars_zero, value_eq,
            Nat.mul_zero, Nat.zero_add]
      _ ≤ 10 ^ ds.length * 9 + value ds :=
        Nat.add_le_add_right (Nat.mul_le_mul_left _ hdigit) _
      _ < 10 ^ ds.length * 9 + 10 ^ ds.length := Nat.add_lt_add_left (ih hds) _
      _ = 10 ^ (ds.length + 1) := by rw [Nat.pow_succ]; omega

theorem value_zeros_append (k : Nat) (s : List Char) :
    value (List.replicate k '0' ++ s) = value s := by
  simp [value_eq, Nat.ofDigitChars_append, Nat.ofDigitChars_replicate_zero]

theorem value_append_zeros (s : List Char) (k : Nat) :
    value (s ++ List.replicate k '0') = value s * 10 ^ k := by
  simp [value_eq, Nat.ofDigitChars_append, Nat.ofDigitChars_replicate_zero, Nat.mul_comm]

theorem head?_toDigits (hn : n ≠ 0) : (Nat.toDigits 10 n).head? ≠ some '0' := by
  induction n using Nat.strongRecOn with
  | ind n ih =>
    rw [Nat.toDigits_eq_if (by decide)]
    split
    · simpa using hn
    · have hne : n / 10 ≠ 0 := by omega
      rw [List.head?_append_of_ne_nil _ Nat.toDigits_ne_nil]
      exact ih (n / 10) (by omega) hne

end Digits

section Plain

def isPlain (c : Char) : Bool := c.toNat < 0x80 && !isGap c && c ≠ '_'

theorem isPlain_iff : isPlain c = true ↔ c.toNat < 0x80 ∧ isGap c = false ∧ c ≠ '_' := by
  simp [isPlain, and_assoc]

theorem isPlain_of_isDigit (h : c.isDigit = true) : isPlain c = true := by
  have hle := toNat_of_isDigit h
  have hspace : c ≠ ' ' := by
    rintro rfl
    simp at h
  have hcontrol : ¬ c ≤ '\r' := by
    rw [Char.le_def, UInt32.le_iff_toNat_le]
    exact Nat.not_le.2 (Nat.lt_of_lt_of_le (by decide) hle.1)
  refine isPlain_iff.2 ⟨by omega, by simp [isGap, hspace, hcontrol], ?_⟩
  rintro rfl
  simp at h

theorem stripGaps_eq_self (h : ∀ c ∈ s, isGap c = false) : stripGaps s = s := by
  have hdrop (l : List Char) (hl : ∀ c ∈ l, isGap c = false) : l.dropWhile isGap = l := by
    cases l with
    | nil => rfl
    | cons c l => exact List.dropWhile_cons_of_neg (by simp [hl c (.head _)])
  rw [stripGaps, hdrop s h, hdrop _ (by simpa using h), List.reverse_reverse]

theorem ungrouped?_eq_self {afterDigit : Bool} (h : ∀ c ∈ s, c ≠ '_') :
    ungrouped? afterDigit s = some s := by
  induction s generalizing afterDigit with
  | nil => rfl
  | cons c s ih =>
    have hc : c ≠ '_' := h c (.head _)
    have hs : ∀ c ∈ s, c ≠ '_' := fun c hc => h c (.tail _ hc)
    rw [ungrouped?, ih hs]
    · rfl
    · exact fun hline _ => hc hline
    · exact fun _ _ hline => absurd hline hc

theorem plain?_eq_self (h : ∀ c ∈ s, isPlain c = true) : plain? (.ofList s) = some s := by
  have hascii : s.map asciiChar = s := by
    have hid : ∀ c ∈ s, asciiChar c = id c := fun c hc => if_pos (isPlain_iff.1 (h c hc)).1
    rw [List.map_congr_left hid, List.map_id]
  have hgaps : stripGaps s = s := stripGaps_eq_self fun c hc => (isPlain_iff.1 (h c hc)).2.1
  rw [plain?, String.toList_ofList, hascii, hgaps,
    ungrouped?_eq_self fun c hc => (isPlain_iff.1 (h c hc)).2.2]

end Plain

theorem length_toDigits_of_integer? {s : String} {n : Int} (h : integer? s = some n) :
    (Nat.toDigits 10 n.natAbs).length ≤ maxDigits := by
  unfold integer? at h
  simp only [Option.bind_eq_bind, Option.bind_eq_some_iff] at h
  obtain ⟨plain, -, m, hm, h⟩ := h
  unfold natural? at hm
  split at hm
  case isFalse => cases hm
  case isTrue hdigits =>
    cases hm
    split at h
    case isTrue => cases h
    case isFalse hlength =>
      have habs : n.natAbs = value (signed plain).2 := by
        cases h
        split <;> simp
      have hpos : 0 < (signed plain).2.length := List.length_pos_of_ne_nil hdigits.1
      have hlt := value_lt (List.all_eq_true.1 hdigits.2)
      rw [habs]
      exact ((Nat.length_toDigits_le_iff (by decide) hpos).2 hlt).trans (Nat.not_lt.1 hlength)

structure Exponent where
  negative : Bool
  digits : List Char
  nonempty : digits ≠ []
  areDigits : ∀ c ∈ digits, c.isDigit = true

namespace Exponent

def text (e : Exponent) : List Char := 'e' :: (if e.negative then '-' else '+') :: e.digits

def toInt (e : Exponent) : Int := if e.negative then -value e.digits else value e.digits

end Exponent

theorem exponent?_text (e : Exponent) : exponent? e.text = some e.toInt := by
  have hsigned : signed ((if e.negative then '-' else '+') :: e.digits) =
      (e.negative, e.digits) := by
    cases e.negative <;> rfl
  simp [Exponent.text, exponent?, hsigned, natural?_digits e.nonempty e.areDigits, Exponent.toInt]

/-- A decimal as it is written. There are digits before the point if there is one, and no zeros
before other digits there. -/
structure Decimal where
  negative : Bool
  whole : List Char
  fraction : List Char
  exponent : Option Exponent
  nonempty : whole ≠ []
  areDigits : ∀ c ∈ whole ++ fraction, c.isDigit = true
  leading : whole.head? = some '0' → whole = ['0']

namespace Decimal

def point (d : Decimal) : List Char := if d.fraction = [] then [] else '.' :: d.fraction

def ending (d : Decimal) : List Char := d.exponent.elim [] Exponent.text

def text (d : Decimal) : List Char :=
  (if d.negative then ['-'] else []) ++ (d.whole ++ (d.point ++ d.ending))

def IsInteger (d : Decimal) : Prop := d.fraction = [] ∧ d.exponent = none

def significand (d : Decimal) : Nat := value (d.whole ++ d.fraction)

def place (d : Decimal) : Int := d.exponent.elim 0 Exponent.toInt - d.fraction.length

theorem isPlain_text (d : Decimal) : ∀ c ∈ d.text, isPlain c = true := by
  have hdigits : ∀ c ∈ d.whole ++ d.fraction, isPlain c = true := fun c hc =>
    isPlain_of_isDigit (d.areDigits c hc)
  have hsign : ∀ c ∈ if d.negative then ['-'] else [], isPlain c = true := by
    cases d.negative with
    | false => simp
    | true => exact List.forall_mem_singleton.2 rfl
  have hpoint : ∀ c ∈ d.point, isPlain c = true := by
    unfold point
    split
    · simp
    · exact List.forall_mem_cons.2 ⟨by decide, fun c hc => hdigits c (List.mem_append_right _ hc)⟩
  have hending : ∀ c ∈ d.ending, isPlain c = true := by
    unfold ending
    cases d.exponent with
    | none => simp
    | some e =>
      refine List.forall_mem_cons.2 ⟨by decide, List.forall_mem_cons.2 ⟨?_, ?_⟩⟩
      · cases e.negative <;> decide
      · exact fun c hc => isPlain_of_isDigit (e.areDigits c hc)
  simp only [text, List.forall_mem_append]
  exact ⟨hsign, fun c hc => hdigits c (List.mem_append_left _ hc), hpoint, hending⟩

theorem exists_whole (d : Decimal) : ∃ c more, d.whole = c :: more ∧ c.isDigit = true := by
  obtain ⟨c, more, hwhole⟩ := List.exists_cons_of_ne_nil d.nonempty
  exact ⟨c, more, hwhole, d.areDigits c (by simp [hwhole])⟩

theorem signed_text (d : Decimal) :
    signed d.text = (d.negative, d.whole ++ (d.point ++ d.ending)) := by
  obtain ⟨c, more, hwhole, hc⟩ := d.exists_whole
  have hminus : c ≠ '-' := by
    rintro rfl
    simp at hc
  have hplus : c ≠ '+' := by
    rintro rfl
    simp at hc
  unfold text
  cases d.negative with
  | true => rfl
  | false =>
    rw [hwhole]
    simp only [Bool.false_eq_true, if_false, List.nil_append, List.cons_append]
    unfold signed
    split
    · simp_all
    · simp_all
    · rfl

theorem isInteger_iff (d : Decimal) : d.IsInteger ↔ d.point = [] ∧ d.ending = [] := by
  unfold IsInteger point ending
  cases d.exponent <;> simp [Exponent.text]

theorem head?_ending (d : Decimal) : ∀ c ∈ d.ending.head?, c = 'e' := by
  unfold ending
  cases d.exponent with
  | none => simp
  | some e => simp [Exponent.text]

theorem finite?_text (d : Decimal) :
    finite? (.ofList d.text) = Binary64.ofDecimal? d.negative d.significand d.place := by
  have hending : ∀ c ∈ d.ending.head?, c.isDigit = false := fun c hc => by
    rw [d.head?_ending c hc]
    rfl
  have hexponent : exponent? d.ending = some (d.exponent.elim 0 Exponent.toInt) := by
    unfold ending
    cases d.exponent with
    | none => rfl
    | some e => exact exponent?_text e
  obtain ⟨hwhole, hfraction⟩ := List.forall_mem_append.1 d.areDigits
  have hnatural : natural? (d.whole ++ d.fraction) = some d.significand :=
    natural?_digits (by simp [d.nonempty]) d.areDigits
  have hpoint : ∀ c ∈ (d.point ++ d.ending).head?, c.isDigit = false := by
    unfold point
    split
    · exact hending
    · simp
  simp only [finite?, plain?_eq_self d.isPlain_text, Option.bind_eq_bind, Option.bind_some,
    signed_text, takeWhile_digits hwhole hpoint, dropWhile_digits hwhole hpoint]
  split
  case h_1 rest heq =>
    obtain rfl : rest = d.fraction ++ d.ending := by
      by_cases hf : d.fraction = []
      · have hdot : '.' ∈ d.ending.head? := by
          simp [point, hf] at heq
          simp [heq]
        exact absurd (d.head?_ending _ hdot) (by decide)
      · simpa [point, hf] using heq.symm
    simp only [takeWhile_digits hfraction hending, dropWhile_digits hfraction hending, hexponent,
      hnatural, Option.bind_some, place]
  case h_2 hdot =>
    have hf : d.fraction = [] := by
      by_contra hf
      exact hdot (d.fraction ++ d.ending) (by simp [point, hf])
    have hnatural' : natural? (d.whole ++ []) = some d.significand := hf ▸ hnatural
    simp only [point, hf, if_true, List.nil_append, hexponent, hnatural', Option.bind_some, place]

def ofInt (n : Int) : Decimal where
  negative := n < 0
  whole := Nat.toDigits 10 n.natAbs
  fraction := []
  exponent := none
  nonempty := Nat.toDigits_ne_nil
  areDigits := by
    rw [List.append_nil]
    exact fun c hc => Nat.isDigit_of_mem_toDigits (by decide) le_rfl hc
  leading h := by
    by_cases hn : n.natAbs = 0
    · rw [hn]
      rfl
    · exact absurd h (head?_toDigits hn)

theorem toString_eq (n : Int) : toString n = .ofList (ofInt n).text := by
  rw [Int.toString_eq_repr, Int.repr_eq_if]
  simp only [Nat.repr_eq_ofList_toDigits]
  by_cases hn : 0 ≤ n
  · have habs : n.natAbs = n.toNat := by omega
    simp [text, ofInt, point, ending, hn, Int.not_lt.2 hn, habs]
  · have habs : n.natAbs = (-n).toNat := by omega
    have hlt : n < 0 := by omega
    simp [text, ofInt, point, ending, hn, hlt, habs]

theorem toString_int_injective : Function.Injective (toString : Int → String) := by
  intro m n h
  rw [toString_eq, toString_eq] at h
  have hsigned := congrArg signed (String.ofList_injective h)
  rw [signed_text, signed_text, Prod.mk.injEq] at hsigned
  obtain ⟨hsign, hdigits⟩ := hsigned
  have habs : m.natAbs = n.natAbs := by
    simpa [ofInt, point, ending] using congrArg value hdigits
  have hlt : m < 0 ↔ n < 0 := by simpa [ofInt] using hsign
  omega

end Decimal

end CurlScribe.Numeral
