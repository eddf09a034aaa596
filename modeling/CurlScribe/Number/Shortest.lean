import CurlScribe.Number.Binary64

/-!
The decimal text of a binary64 number: the fewest digits that read back as the number, and of those
the nearest. Numbers from 10⁻⁴ up to 10¹⁶ are written without an exponent.
-/

namespace CurlScribe.Binary64

def decimalPoint (x : Binary64) : Int :=
  let (num, den) := x.ratio
  let k : Int := digitCount num - digitCount den
  let (num, den) := scaled 10 (-k) num den
  if den ≤ num then k + 1 else k

/-- The two multiples of `10 ^ t` around the number, the nearer one first; of two as near, the even
one. -/
def neighbours (x : Binary64) (t : Int) : List Nat :=
  let (num, den) := scaled 10 (-t) x.ratio.1 x.ratio.2
  let near := roundDiv num den
  [near, if near = num / den then near + 1 else near - 1]

def decimals (x : Binary64) : List (Nat × Int) :=
  (List.range 17).flatMap fun n : Nat =>
    let t := x.decimalPoint - (n + 1)
    (x.neighbours t).map (·, t)

def exact (x : Binary64) : Nat × Int :=
  (x.ratio.1 * Nat.pow 5 (-x.exponent).toNat, -((-x.exponent).toNat : Int))

def shortest (x : Binary64) : Nat × Int :=
  (x.decimals.find? fun (n, t) => ofDecimal? x.negative n t = some x).getD x.exact

def dropZeros (digits : List Char) : List Char := (digits.reverse.dropWhile (· = '0')).reverse

def zeros (n : Int) : List Char := List.replicate n.toNat '0'

def positional (digits : List Char) (point : Int) : List Char :=
  if point ≤ 0 then '0' :: '.' :: zeros (-point) ++ digits
  else if digits.length ≤ point then digits ++ zeros (point - digits.length) ++ ['.', '0']
  else digits.take point.toNat ++ '.' :: digits.drop point.toNat

def scientific (digits : List Char) (point : Int) : List Char :=
  let e := (point - 1).natAbs
  digits.take 1 ++ (if digits.length ≤ 1 then [] else '.' :: digits.drop 1)
    ++ ['e', if point - 1 < 0 then '-' else '+']
    ++ (if e < 10 then ['0'] else []) ++ Nat.toDigits 10 e

def isPositional (point : Int) : Bool := -4 < point && point ≤ 16

def unsignedText (x : Binary64) : List Char :=
  if x.significand = 0 then ['0', '.', '0']
  else
    let (n, t) := x.shortest
    let digits := Nat.toDigits 10 n
    let point := digits.length + t
    (if isPositional point then positional else scientific) (dropZeros digits) point

def text (x : Binary64) : String :=
  .ofList ((if x.negative then ['-'] else []) ++ x.unsignedText)

end CurlScribe.Binary64
