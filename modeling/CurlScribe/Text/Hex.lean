namespace CurlScribe.Text

def hexDigit (n : Nat) : Char := if n < 10 then .ofNat (48 + n) else .ofNat (87 + n)

def hex : Nat → Nat → List Char
  | 0, _ => []
  | width + 1, n => hex width (n / 16) ++ [hexDigit (n % 16)]

def upperHex (width n : Nat) : List Char := (hex width n).map Char.toUpper

def hexValue? (c : Char) : Option Nat :=
  if '0' ≤ c ∧ c ≤ '9' then some (c.toNat - 48)
  else if 'a' ≤ c ∧ c ≤ 'f' then some (c.toNat - 87)
  else if 'A' ≤ c ∧ c ≤ 'F' then some (c.toNat - 55)
  else none

def isHex (c : Char) : Bool := (hexValue? c).isSome

def ofHex (digits : List Char) : Nat :=
  digits.foldl (fun n c => 16 * n + (hexValue? c).getD 0) 0

@[simp] theorem length_hex (width n : Nat) : (hex width n).length = width := by
  induction width generalizing n with
  | zero => rfl
  | succ w ih => simp [hex, ih]

theorem hexValue?_hexDigit {n : Nat} (h : n < 16) : hexValue? (hexDigit n) = some n := by
  have : ∀ m : Fin 16, hexValue? (hexDigit m) = some m.val := by decide
  exact this ⟨n, h⟩

theorem isHex_of_mem_hex {width n : Nat} : ∀ c ∈ hex width n, isHex c = true := by
  induction width generalizing n with
  | zero => simp [hex]
  | succ w ih =>
    simp only [hex, List.forall_mem_append, List.forall_mem_singleton]
    exact ⟨ih, by simp [isHex, hexValue?_hexDigit (Nat.mod_lt n (by decide : 0 < 16))]⟩

theorem ofHex_hex {width n : Nat} (h : n < Nat.pow 16 width) : ofHex (hex width n) = n := by
  induction width generalizing n with
  | zero => simp at h; simp [hex, ofHex, h]
  | succ w ih =>
    have := ih (n := n / 16) (Nat.div_lt_of_lt_mul (by rwa [Nat.mul_comm]))
    simp only [ofHex] at this
    simp [hex, ofHex, List.foldl_append, this,
      hexValue?_hexDigit (Nat.mod_lt n (by decide : 0 < 16))]
    omega

theorem hexValue?_toUpper {n : Nat} (h : n < 16) :
    hexValue? (hexDigit n).toUpper = some n := by
  have : ∀ m : Fin 16, hexValue? (hexDigit m).toUpper = some m.val := by decide
  exact this ⟨n, h⟩

theorem ofHex_upperHex {width n : Nat} (h : n < Nat.pow 16 width) :
    ofHex (upperHex width n) = n := by
  induction width generalizing n with
  | zero => simp at h; simp [upperHex, hex, ofHex, h]
  | succ w ih =>
    have := ih (n := n / 16) (Nat.div_lt_of_lt_mul (by rwa [Nat.mul_comm]))
    simp only [ofHex, upperHex] at this
    simp [hex, ofHex, upperHex, List.foldl_append, this,
      hexValue?_toUpper (Nat.mod_lt n (by decide : 0 < 16))]
    omega

theorem toNat_lt (c : Char) : c.toNat < 0x110000 := by
  have hvalid : c.toNat.isValidChar := c.valid
  simp only [Nat.isValidChar] at hvalid
  omega

end CurlScribe.Text
