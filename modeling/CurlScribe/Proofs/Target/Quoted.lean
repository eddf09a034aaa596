import CurlScribe.Proofs.Json.Character
import CurlScribe.Proofs.Target.Code

namespace CurlScribe

open Json

/-- What the escape of a surrogate is: half of a character, or a fault. -/
inductive Surrogates
  | paired
  | refused
  deriving DecidableEq

def codeUnit? (digits : List Char) : Option Nat :=
  if digits.all Text.isHex then some (Text.ofHex digits) else none

def surrogatesChar (high low : Nat) : Char :=
  .ofNat (0x10000 + (high - 0xd800) * 0x400 + (low - 0xdc00))

def surrogatesChar? (surrogates : Surrogates) (high low : Nat) : Option Char :=
  if surrogates = .paired ∧ isHigh high ∧ isLow low then some (surrogatesChar high low) else none

/-- Reads a literal behind its first quotation mark: its value, and the text behind the last one. -/
def quotedFrom (surrogates : Surrogates) : List Char → Option (List Char × List Char)
  | [] => none
  | '"' :: rest => some ([], rest)
  | '\\' :: 'u' :: a :: b :: c :: d :: rest => do
    let n ← codeUnit? [a, b, c, d]
    if n.isValidChar then (quotedFrom surrogates rest).map fun (s, after) => (.ofNat n :: s, after)
    else
      match rest with
      | '\\' :: 'u' :: e :: f :: g :: h :: rest' => do
        let m ← codeUnit? [e, f, g, h]
        let pair ← surrogatesChar? surrogates n m
        (quotedFrom surrogates rest').map fun (s, after) => (pair :: s, after)
      | _ => none
  | '\\' :: letter :: rest => do
    let c ← letterEscape? letter
    (quotedFrom surrogates rest).map fun (s, after) => (c :: s, after)
  | c :: rest =>
    if c = '\\' ∨ c.toNat < 0x20 then none
    else (quotedFrom surrogates rest).map fun (s, after) => (c :: s, after)

def readQuoted (surrogates : Surrogates) : List Char → Option (List Char × List Char)
  | '"' :: rest => quotedFrom surrogates rest
  | _ => none

variable {surrogates : Surrogates} {ascii : Bool} {c : Char}

section Reading

theorem codeUnit?_hex {n : Nat} (hn : n < 0x10000) : codeUnit? (Text.hex 4 n) = some n := by
  have hvalue : Text.ofHex (Text.hex 4 n) = n := Text.ofHex_hex hn
  have hhex : (Text.hex 4 n).all Text.isHex = true := List.all_eq_true.2 Text.isHex_of_mem_hex
  rw [codeUnit?, if_pos hhex, hvalue]

theorem quotedFrom_unitEscape {n : Nat} (hn : n < 0x10000) (hvalid : n.isValidChar)
    (rest : List Char) : quotedFrom surrogates (unitEscape n ++ rest) =
      (quotedFrom surrogates rest).map fun (s, after) => (.ofNat n :: s, after) := by
  have hunit := codeUnit?_hex hn
  simp only [unitEscape, Text.hex, List.nil_append, List.cons_append] at hunit ⊢
  rw [quotedFrom, hunit]
  exact if_pos hvalid

theorem quotedFrom_surrogates {high low : Nat} (hhigh : isHigh high = true)
    (hlow : isLow low = true) (rest : List Char) :
    quotedFrom .paired (unitEscape high ++ (unitEscape low ++ rest)) =
      (quotedFrom .paired rest).map fun (s, after) => (surrogatesChar high low :: s, after) := by
  have hbounds : (0xd800 ≤ high ∧ high < 0xdc00) ∧ 0xdc00 ≤ low ∧ low < 0xe000 := by
    simpa [isHigh, isLow] using And.intro hhigh hlow
  have hinvalid : ¬high.isValidChar := by
    simp only [Nat.isValidChar]
    omega
  have hhighUnit := codeUnit?_hex (n := high) (by omega)
  have hlowUnit := codeUnit?_hex (n := low) (by omega)
  have hpair : surrogatesChar? .paired high low = some (surrogatesChar high low) :=
    if_pos ⟨rfl, hhigh, hlow⟩
  simp only [unitEscape, Text.hex, List.nil_append, List.cons_append] at hhighUnit hlowUnit ⊢
  rw [quotedFrom, hhighUnit]
  simp only [Option.bind_eq_bind, Option.bind_some, if_neg hinvalid, hlowUnit, hpair]

theorem quotedFrom_letter {letter : Char} (h : letterEscape? letter = some c) (rest : List Char) :
    quotedFrom surrogates ('\\' :: letter :: rest) =
      (quotedFrom surrogates rest).map fun (s, after) => (c :: s, after) := by
  unfold letterEscape? at h
  split at h <;> cases h <;> rfl

theorem quotedFrom_plain (hquote : c ≠ '"') (hbackslash : c ≠ '\\') (hc : 0x20 ≤ c.toNat)
    (rest : List Char) : quotedFrom surrogates (c :: rest) =
      (quotedFrom surrogates rest).map fun (s, after) => (c :: s, after) := by
  rw [quotedFrom, if_neg]
  all_goals grind

theorem surrogatesChar_units (hc : 0x10000 ≤ c.toNat) :
    surrogatesChar (highUnit c) (lowUnit c) = c := by
  have hvalue : 0x10000 + (highUnit c - 0xd800) * 0x400 + (lowUnit c - 0xdc00) = c.toNat := by
    simp only [highUnit, lowUnit]
    omega
  rw [surrogatesChar, hvalue, Char.ofNat_toNat]

theorem quotedFrom_stringChar (h : ascii = true → surrogates = .paired) (c : Char)
    (rest : List Char) : quotedFrom surrogates (stringChar ascii c ++ rest) =
      (quotedFrom surrogates rest).map fun (s, after) => (c :: s, after) := by
  have hwritten := writtenAs_stringChar ascii c
  generalize stringChar ascii c = text at hwritten ⊢
  cases hwritten with
  | letter hletter => exact quotedFrom_letter hletter rest
  | unit hshort => simpa using quotedFrom_unitEscape hshort c.valid rest
  | plain hquote hbackslash hc _ => exact quotedFrom_plain hquote hbackslash hc rest
  | surrogates hascii hc =>
    have hread := quotedFrom_surrogates (isHigh_highUnit c) (isLow_lowUnit c) rest
    rw [surrogatesChar_units hc] at hread
    rwa [h hascii, List.append_assoc]

theorem quotedFrom_flatMap (h : ascii = true → surrogates = .paired) (s rest : List Char) :
    quotedFrom surrogates (s.flatMap (stringChar ascii) ++ '"' :: rest) = some (s, rest) := by
  induction s with
  | nil => rfl
  | cons c s ih =>
    rw [List.flatMap_cons, List.append_assoc, quotedFrom_stringChar h, ih]
    rfl

theorem readQuoted_of_ascii (h : ascii = true → surrogates = .paired) (s : String)
    (t : List Char) : readQuoted surrogates ((quoted ascii s).toList ++ t) = some (s.toList, t) := by
  rw [quoted, String.toList_ofList, quotedList]
  simp only [List.cons_append, List.append_assoc]
  exact quotedFrom_flatMap h s.toList t

theorem toNat_hexDigit (n : Nat) : (Text.hexDigit (n % 16)).toNat < 0x80 := by
  have : ∀ m : Fin 16, (Text.hexDigit m).toNat < 0x80 := by decide
  exact this ⟨n % 16, Nat.mod_lt n (by decide)⟩

theorem unitEscape_ascii (n : Nat) : ∀ d ∈ unitEscape n, d.toNat < 0x80 := by
  simp [unitEscape, Text.hex, toNat_hexDigit]

theorem stringChar_ascii (c : Char) : ∀ d ∈ stringChar true c, d.toNat < 0x80 := by
  have hwritten := writtenAs_stringChar true c
  generalize stringChar true c = text at hwritten ⊢
  cases hwritten with
  | letter hletter =>
    unfold letterEscape? at hletter
    split at hletter <;> cases hletter <;> simp
  | unit => exact unitEscape_ascii _
  | plain _ _ _ hplain =>
    have hc : c.toNat < 0x7f := hplain rfl
    simp only [List.mem_singleton, forall_eq]
    omega
  | surrogates => exact List.forall_mem_append.2 ⟨unitEscape_ascii _, unitEscape_ascii _⟩

theorem quoted_ascii (s : String) : ∀ d ∈ (quoted true s).toList, d.toNat < 0x80 := by
  rw [quoted, String.toList_ofList, quotedList]
  simp only [List.cons_append, List.forall_mem_cons, List.forall_mem_append, List.mem_flatMap]
  refine ⟨by simp, ?_, by simp⟩
  rintro d ⟨c, -, hd⟩
  exact stringChar_ascii c d hd

end Reading

/-- A literal in ASCII reads back as the text it was written for where surrogates make characters,
and one in Unicode also where they are refused, with all that follows left over. So does each
literal in the code. -/
theorem readQuoted_quoted (s : String) :
    (∀ t, readQuoted .paired ((quoted true s).toList ++ t) = some (s.toList, t)) ∧
    (∀ c ∈ (quoted true s).toList, c.toNat < 0x80) ∧
    (∀ t, readQuoted .refused ((quoted false s).toList ++ t) = some (s.toList, t)) ∧
    ∀ before after : Code,
      (∃ rest, (Code.text (quoted true) (before ++ Code.lit s ++ after)).toList =
          (before.text (quoted true)).toList ++ rest ∧
        readQuoted .paired rest = some (s.toList, (after.text (quoted true)).toList)) ∧
      ∃ rest, (Code.text (quoted false) (before ++ Code.lit s ++ after)).toList =
          (before.text (quoted false)).toList ++ rest ∧
        readQuoted .refused rest = some (s.toList, (after.text (quoted false)).toList) := by
  have hscript (t : List Char) :
      readQuoted .paired ((quoted true s).toList ++ t) = some (s.toList, t) :=
    readQuoted_of_ascii (fun _ => rfl) s t
  have hgo (t : List Char) :
      readQuoted .refused ((quoted false s).toList ++ t) = some (s.toList, t) :=
    readQuoted_of_ascii (fun h => by cases h) s t
  exact ⟨hscript, quoted_ascii s, hgo, fun before after =>
    ⟨Code.exists_literal hscript before after, Code.exists_literal hgo before after⟩⟩

example : readQuoted .refused (quoted true (.singleton (.ofNat 0x1f600))).toList = none := by
  decide +kernel

end CurlScribe
