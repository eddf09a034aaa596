import CurlScribe.Json.Read

namespace CurlScribe.Json

inductive IsStringText : List Char → Prop
  | nil : IsStringText []
  | plain {c : Char} {s : List Char} (hquote : c ≠ '"') (hbackslash : c ≠ '\\')
      (hc : 0x20 ≤ c.toNat) (hs : IsStringText s) : IsStringText (c :: s)
  | letter {c : Char} {s : List Char} (hc : c ∈ ['"', '\\', '/', 'b', 'f', 'n', 'r', 't'])
      (hs : IsStringText s) : IsStringText ('\\' :: c :: s)
  | unit {digits s : List Char} (hlength : digits.length = 4)
      (hdigits : ∀ d ∈ digits, Text.isHex d = true) (hs : IsStringText s) :
      IsStringText ('\\' :: 'u' :: (digits ++ s))

/-- Digits with no zero before others. -/
inductive IsWhole : List Char → Prop
  | zero : IsWhole ['0']
  | digits {d : Char} {ds : List Char} (hd : d ≠ '0') (hds : ∀ c ∈ d :: ds, c.isDigit = true) :
      IsWhole (d :: ds)

inductive IsFraction : List Char → Prop
  | none : IsFraction []
  | digits {ds : List Char} (hne : ds ≠ []) (hds : ∀ c ∈ ds, c.isDigit = true) :
      IsFraction ('.' :: ds)

inductive IsExponent : List Char → Prop
  | none : IsExponent []
  | digits {e : Char} {sign ds : List Char} (he : e = 'e' ∨ e = 'E')
      (hsign : sign = [] ∨ sign = ['+'] ∨ sign = ['-']) (hne : ds ≠ [])
      (hds : ∀ c ∈ ds, c.isDigit = true) : IsExponent (e :: (sign ++ ds))

def IsMinus (sign : List Char) : Prop := sign = [] ∨ sign = ['-']

inductive IsNumber : List Char → Prop
  | mk {sign whole frac exp : List Char} (hsign : IsMinus sign) (hwhole : IsWhole whole)
      (hfrac : IsFraction frac) (hexp : IsExponent exp) :
      IsNumber (sign ++ (whole ++ (frac ++ exp)))

def constants : List String := ["null", "true", "false", "NaN", "Infinity", "-Infinity"]

def IsBlank (s : List Char) : Prop := ∀ c ∈ s, isSpace c = true

inductive Rule
  | value
  | items
  | fields

/-- The texts that a rule derives. -/
inductive Derives : Rule → List Char → Prop
  | constant {word : String} (hword : word ∈ constants) : Derives .value word.toList
  | number {s : List Char} (hs : IsNumber s) : Derives .value s
  | string {s : List Char} (hs : IsStringText s) : Derives .value ('"' :: (s ++ ['"']))
  | emptyArray {b : List Char} (hb : IsBlank b) : Derives .value ('[' :: (b ++ [']']))
  | array {b s : List Char} (hb : IsBlank b) (hs : Derives .items s) :
      Derives .value ('[' :: (b ++ (s ++ [']'])))
  | emptyObject {b : List Char} (hb : IsBlank b) : Derives .value ('\x7b' :: (b ++ ['\x7d']))
  | object {b s : List Char} (hb : IsBlank b) (hs : Derives .fields s) :
      Derives .value ('\x7b' :: (b ++ (s ++ ['\x7d'])))
  | lastItem {v b : List Char} (hv : Derives .value v) (hb : IsBlank b) : Derives .items (v ++ b)
  | item {v b b' s : List Char} (hv : Derives .value v) (hb : IsBlank b) (hb' : IsBlank b')
      (hs : Derives .items s) : Derives .items (v ++ (b ++ ',' :: (b' ++ s)))
  | lastField {k b b' v b'' : List Char} (hk : IsStringText k) (hb : IsBlank b) (hb' : IsBlank b')
      (hv : Derives .value v) (hb'' : IsBlank b'') :
      Derives .fields ('"' :: (k ++ '"' :: (b ++ ':' :: (b' ++ (v ++ b'')))))
  | field {k b b' v b'' c s : List Char} (hk : IsStringText k) (hb : IsBlank b) (hb' : IsBlank b')
      (hv : Derives .value v) (hb'' : IsBlank b'') (hc : IsBlank c) (hs : Derives .fields s) :
      Derives .fields ('"' :: (k ++ '"' :: (b ++ ':' :: (b' ++ (v ++ (b'' ++ ',' :: (c ++ s)))))))

def IsText (s : List Char) : Prop :=
  ∃ b v b', IsBlank b ∧ Derives .value v ∧ IsBlank b' ∧ s = b ++ (v ++ b')

end CurlScribe.Json
