import CurlScribe.Text.Basic
import CurlScribe.Text.Hex

/-!
Which texts may stand in a YAML 1.1 document without quotation marks: those that no other type of
scalar claims, and in which nothing marks structure.
-/

namespace CurlScribe.Yaml

def isBreak (c : Char) : Bool := c = '\n' || c = '\x85' || c = '\u2028' || c = '\u2029'

def isGap (c : Char) : Bool := isBreak c || c = '\x00' || c = ' ' || c = '\t' || c = '\r'

def isDirect (c : Char) : Bool :=
  c = '\n' || (' ' ≤ c && c ≤ '~') || c = '\x85'
    || ('\xa0' ≤ c && c ≤ '\ufffd' && c ≠ '\ufeff') || (0x10000 ≤ c.toNat && c.toNat < 0x10ffff)

def booleans : List String :=
  ["yes", "Yes", "YES", "no", "No", "NO", "true", "True", "TRUE", "false", "False", "FALSE", "on",
   "On", "ON", "off", "Off", "OFF"]

def nulls : List String := ["~", "null", "Null", "NULL", ""]

def infinities : List String := [".inf", ".Inf", ".INF"]

def notANumbers : List String := [".nan", ".NaN", ".NAN"]

def unsigned : List Char → List Char
  | '-' :: rest => rest
  | '+' :: rest => rest
  | s => s

def isDigitOrLine (c : Char) : Bool := c.isDigit || c = '_'

def isSixtieth : List Char → Bool
  | [c] => c.isDigit
  | [b, c] => '0' ≤ b && b ≤ '5' && c.isDigit
  | _ => false

def isDecimal : List Char → Bool
  | c :: rest => c.isDigit && rest.all isDigitOrLine
  | [] => false

def isInteger (s : List Char) : Bool :=
  match unsigned s with
  | ['0'] => true
  | '0' :: 'b' :: rest => rest ≠ [] && rest.all fun c => c = '0' || c = '1' || c = '_'
  | '0' :: 'x' :: rest => rest ≠ [] && rest.all fun c => Text.isHex c || c = '_'
  | '0' :: rest => rest.all fun c => ('0' ≤ c && c ≤ '7') || c = '_'
  | digits =>
    match Text.splitList ':' digits with
    | first :: sixtieths => isDecimal first && sixtieths.all isSixtieth
    | [] => false

def isExponent : List Char → Bool
  | [] => true
  | e :: sign :: digits =>
    (e = 'e' || e = 'E') && (sign = '-' || sign = '+') && digits ≠ [] && digits.all Char.isDigit
  | _ => false

def isFraction (s : List Char) : Bool := isExponent (s.dropWhile isDigitOrLine)

def isFloat (s : List Char) : Bool :=
  match Text.cutList '.' (unsigned s) with
  | (_, none) => false
  | ([], some rest) =>
    infinities.contains (.ofList ('.' :: rest)) || notANumbers.contains (.ofList s)
      || (s.head? = some '.' && (rest.head?.any Char.isDigit) && isFraction rest)
  | (whole, some rest) =>
    match Text.splitList ':' whole with
    | [digits] => isDecimal digits && isFraction rest
    | digits :: sixtieths =>
      isDecimal digits && sixtieths.all isSixtieth && rest.all isDigitOrLine
    | [] => false

def afterDigits? (least most : Nat) (s : List Char) : Option (List Char) :=
  let n := ((s.take most).takeWhile Char.isDigit).length
  if least ≤ n then some (s.drop n) else none

def after? (c : Char) : List Char → Option (List Char)
  | d :: rest => if d = c then some rest else none
  | [] => none

def isBlankChar (c : Char) : Bool := c = ' ' || c = '\t'

def isDate (s : List Char) : Bool :=
  ((afterDigits? 4 4 s >>= after? '-' >>= afterDigits? 2 2 >>= after? '-' >>= afterDigits? 2 2).any
    (· = []))

def afterDateMark? : List Char → Option (List Char)
  | c :: rest =>
    if c = 'T' || c = 't' then some rest
    else if isBlankChar c then some (rest.dropWhile isBlankChar)
    else none
  | [] => none

def afterFraction (s : List Char) : List Char :=
  match s with
  | '.' :: rest => rest.dropWhile Char.isDigit
  | _ => s

def isZone (s : List Char) : Bool :=
  match s.dropWhile isBlankChar with
  | [] => s = []
  | ['Z'] => true
  | sign :: rest =>
    (sign = '-' || sign = '+')
      && ((afterDigits? 1 2 rest).any fun rest =>
        rest = [] || ((after? ':' rest >>= afterDigits? 2 2).any (· = [])))

def isTime (s : List Char) : Bool :=
  (afterDigits? 4 4 s >>= after? '-' >>= afterDigits? 1 2 >>= after? '-' >>= afterDigits? 1 2
    >>= afterDateMark? >>= afterDigits? 1 2 >>= after? ':' >>= afterDigits? 2 2 >>= after? ':'
    >>= afterDigits? 2 2).any fun rest => isZone (afterFraction rest)

def isClaimed (s : String) : Bool :=
  booleans.contains s || nulls.contains s || s = "<<" || s = "=" || isInteger s.toList
    || isFloat s.toList || isDate s.toList || isTime s.toList

def leadIndicators : List Char :=
  ['#', ',', '[', ']', '\x7b', '\x7d', '&', '*', '!', '|', '>', '\'', '"', '%', '@', '\x60']

def startsAsIndicator : List Char → Bool
  | [] => false
  | c :: rest =>
    leadIndicators.contains c
      || ((c = '?' || c = ':' || c = '-') && rest.head?.all isGap)

def hasIndicator (previous : Char) : List Char → Bool
  | [] => false
  | c :: rest =>
    (c = ':' && rest.head?.all isGap) || (c = '#' && isGap previous) || hasIndicator c rest

def hasStructure (s : List Char) : Bool :=
  ['-', '-', '-'].isPrefixOf s || ['.', '.', '.'].isPrefixOf s || startsAsIndicator s
    || match s with
      | [] => false
      | c :: rest => hasIndicator c rest

def isPlain (s : String) : Bool :=
  let cs := s.toList
  !isClaimed s && !hasStructure cs && cs.all (fun c => isDirect c && !isBreak c)
    && cs.head? ≠ some ' ' && cs.getLast? ≠ some ' '

end CurlScribe.Yaml
