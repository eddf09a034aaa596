import CurlScribe.Json.Read

namespace CurlScribe.Json

variable {ascii : Bool} {c : Char}

def letterEscape? : Char → Option Char
  | '"' => some '"'
  | '\\' => some '\\'
  | 'b' => some '\x08'
  | 'f' => some '\x0c'
  | 'n' => some '\n'
  | 'r' => some '\r'
  | 't' => some '\t'
  | _ => none

theorem isHigh_toNat (c : Char) : isHigh c.toNat = false := by
  have hvalid : c.toNat < 0xd800 ∨ 0xdfff < c.toNat ∧ c.toNat < 0x110000 := c.valid
  simp only [isHigh, Bool.and_eq_false_iff, decide_eq_false_iff_not]
  omega

def highUnit (c : Char) : Nat := 0xd800 + (c.toNat - 0x10000) / 0x400

def lowUnit (c : Char) : Nat := 0xdc00 + (c.toNat - 0x10000) % 0x400

theorem isHigh_highUnit (c : Char) : isHigh (highUnit c) = true := by
  have hvalid : c.toNat < 0xd800 ∨ 0xdfff < c.toNat ∧ c.toNat < 0x110000 := c.valid
  have hbounds : 0xd800 ≤ highUnit c ∧ highUnit c < 0xdc00 := by
    unfold highUnit
    omega
  simpa [isHigh] using hbounds

theorem isLow_lowUnit (c : Char) : isLow (lowUnit c) = true := by
  have hbounds : 0xdc00 ≤ lowUnit c ∧ lowUnit c < 0xe000 := by
    unfold lowUnit
    omega
  simpa [isLow] using hbounds

/-- The ways to write a character, of which surrogates are one only if all is to be ASCII. -/
inductive WrittenAs (ascii : Bool) (c : Char) : List Char → Prop
  | letter {letter} : letterEscape? letter = some c → WrittenAs ascii c ['\\', letter]
  | unit : c.toNat < 0x10000 → WrittenAs ascii c (unitEscape c.toNat)
  | plain : c ≠ '"' → c ≠ '\\' → 0x20 ≤ c.toNat → (ascii = true → c.toNat < 0x7f) →
      WrittenAs ascii c [c]
  | surrogates : ascii = true → 0x10000 ≤ c.toNat →
      WrittenAs ascii c (unitEscape (highUnit c) ++ unitEscape (lowUnit c))

theorem stringChar_letter {letter : Char} (h : letterEscape? letter = some c) :
    stringChar ascii c = ['\\', letter] := by
  unfold letterEscape? at h
  split at h <;> cases h <;> rfl

theorem writtenAs_stringChar (ascii : Bool) (c : Char) :
    WrittenAs ascii c (stringChar ascii c) := by
  by_cases hletter : ∃ letter, letterEscape? letter = some c
  · obtain ⟨letter, hletter⟩ := hletter
    exact stringChar_letter hletter ▸ .letter hletter
  · have hne {letter d : Char} (hd : letterEscape? letter = some d) : c ≠ d := by
      rintro rfl
      exact hletter ⟨letter, hd⟩
    have hquote := @hne '"' _ rfl
    have hbackslash := @hne '\\' _ rfl
    rw [stringChar, if_neg hquote, if_neg hbackslash, if_neg (@hne 'n' _ rfl),
      if_neg (@hne 'r' _ rfl), if_neg (@hne 't' _ rfl), if_neg (@hne 'b' _ rfl),
      if_neg (@hne 'f' _ rfl)]
    split
    case isTrue hcontrol => exact .unit (Nat.lt_trans hcontrol (by decide))
    case isFalse hcontrol =>
      split
      case isTrue hplain =>
        exact .plain hquote hbackslash (Nat.not_lt.1 hcontrol) fun h => by simpa [h] using hplain
      case isFalse hplain =>
        split
        case isTrue hshort => exact .unit hshort
        case isFalse hshort =>
          exact .surrogates (by simp_all) (Nat.not_lt.1 hshort)

end CurlScribe.Json
