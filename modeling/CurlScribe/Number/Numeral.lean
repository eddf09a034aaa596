import CurlScribe.Number.Binary64
import CurlScribe.Number.Limit
import CurlScribe.Text.Blank
import CurlScribe.Text.Digit

namespace CurlScribe.Numeral

def asciiChar (c : Char) : Char :=
  if c.toNat < 0x80 then c
  else if Text.isBlank c then ' '
  else (Text.digitValue? c).elim c Nat.digitChar

def isGap (c : Char) : Bool := c = ' ' || ('\t' ≤ c && c ≤ '\r')

def stripGaps (s : List Char) : List Char :=
  ((s.dropWhile isGap).reverse.dropWhile isGap).reverse

def ungrouped? (afterDigit : Bool) : List Char → Option (List Char)
  | [] => some []
  | ['_'] => none
  | '_' :: c :: rest => if afterDigit && c.isDigit then (c :: ·) <$> ungrouped? true rest else none
  | c :: rest => (c :: ·) <$> ungrouped? c.isDigit rest

def plain? (s : String) : Option (List Char) :=
  ungrouped? false (stripGaps (s.toList.map asciiChar))

def signed (s : List Char) : Bool × List Char :=
  match s with
  | '-' :: rest => (true, rest)
  | '+' :: rest => (false, rest)
  | _ => (false, s)

def value (digits : List Char) : Nat := digits.foldl (fun n d => 10 * n + (d.toNat - 48)) 0

def natural? (digits : List Char) : Option Nat :=
  if digits ≠ [] ∧ digits.all Char.isDigit then some (value digits) else none

def integer? (s : String) : Option Int := do
  let (negative, digits) := signed (← plain? s)
  let n ← natural? digits
  if maxDigits < digits.length then none
  else some (if negative then -n else n)

def exponent? : List Char → Option Int
  | [] => some 0
  | e :: rest => do
    let (negative, digits) := signed rest
    let n ← natural? digits
    if e = 'e' ∨ e = 'E' then some (if negative then -n else n) else none

def finite? (s : String) : Option Binary64 := do
  let (negative, rest) := signed (← plain? s)
  let whole := rest.takeWhile Char.isDigit
  let rest := rest.dropWhile Char.isDigit
  let (fraction, rest) :=
    match rest with
    | '.' :: rest => (rest.takeWhile Char.isDigit, rest.dropWhile Char.isDigit)
    | _ => ([], rest)
  let e ← exponent? rest
  let n ← natural? (whole ++ fraction)
  Binary64.ofDecimal? negative n (e - fraction.length)

end CurlScribe.Numeral
