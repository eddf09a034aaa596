/-!
Finite binary64 numbers, exactly: a sign, a significand and the exponent of its last place. Every
operation rounds the exact result once, to the nearest number, a tie to the even significand.
-/

namespace CurlScribe

def roundDiv (num den : Nat) : Nat :=
  if 2 * (num % den) < den ∨ (2 * (num % den) = den ∧ num / den % 2 = 0) then num / den
  else num / den + 1

def scaled (base : Nat) (k : Int) (num den : Nat) : Nat × Nat :=
  (num * base.pow k.toNat, den * base.pow (-k).toNat)

/-- The form that each number has once: as many of the 53 digits in use as the least exponent
lets. -/
def Binary64.Canonical (significand : Nat) (exponent : Int) : Prop :=
  significand < Nat.pow 2 53 ∧ -1074 ≤ exponent ∧ exponent ≤ 971
    ∧ (exponent = -1074 ∨ Nat.pow 2 52 ≤ significand)

instance (m : Nat) (e : Int) : Decidable (Binary64.Canonical m e) :=
  inferInstanceAs (Decidable (_ ∧ _ ∧ _ ∧ _))

structure Binary64 where
  negative : Bool
  significand : Nat
  exponent : Int
  canonical : Binary64.Canonical significand exponent
  deriving DecidableEq

namespace Binary64

def zero (negative : Bool) : Binary64 := ⟨negative, 0, -1074, by decide⟩

def ratio (x : Binary64) : Nat × Nat :=
  scaled 2 x.exponent x.significand 1

def lastPlace (num den : Nat) : Int :=
  let k : Int := num.log2 - den.log2
  let (num, den) := scaled 2 (-k) num den
  let top := if den ≤ num then k else k - 1
  max (-1074) (top - 52)

def ofRatio? (negative : Bool) (num den : Nat) : Option Binary64 :=
  if num = 0 then some (zero negative)
  else
    let e := lastPlace num den
    let (num, den) := scaled 2 (-e) num den
    let m := roundDiv num den
    let (m, e) := if m = Nat.pow 2 53 then (Nat.pow 2 52, e + 1) else (m, e)
    if h : Canonical m e then some ⟨negative, m, e, h⟩ else none

def digitCount (n : Nat) : Nat := (Nat.toDigits 10 n).length

/-- The number nearest to `± n · 10 ^ e`. What is beyond the largest or below half of the least
number by its digits and exponent alone is not computed. -/
def ofDecimal? (negative : Bool) (n : Nat) (e : Int) : Option Binary64 :=
  if 310 < digitCount n + e then if n = 0 then some (zero negative) else none
  else if digitCount n + e < -330 then some (zero negative)
  else
    let (num, den) := scaled 10 e n 1
    ofRatio? negative num den

def times? (x : Binary64) (k : Nat) : Option Binary64 :=
  ofRatio? x.negative (x.ratio.1 * k) x.ratio.2

def round (x : Binary64) : Int :=
  let n : Int := roundDiv x.ratio.1 x.ratio.2
  if x.negative then -n else n

end Binary64

end CurlScribe
