import CurlScribe.Json.Basic
import CurlScribe.Number.Limit

/-!
Reading JSON, and the first fault of a text that is none. Besides the grammar's numbers, `NaN`,
`Infinity` and `-Infinity` are read, and integers have a greatest length.
-/

namespace CurlScribe.Json

inductive Cause
  | value
  | name
  | colon
  | comma
  | unterminated
  | control
  | escape
  | unitEscape
  | extra
  | byteOrderMark
  | longInteger (digits : Nat)
  deriving DecidableEq

def Cause.message : Cause → String
  | .value => "Expecting value"
  | .name => "Expecting property name enclosed in double quotes"
  | .colon => "Expecting ':' delimiter"
  | .comma => "Expecting ',' delimiter"
  | .unterminated => "Unterminated string starting at"
  | .control => "Invalid control character at"
  | .escape => "Invalid \\escape"
  | .unitEscape => "Invalid \\uXXXX escape"
  | .extra => "Extra data"
  | .byteOrderMark => "Unexpected UTF-8 BOM (decode using utf-8-sig)"
  | .longInteger digits => Numeral.tooLong digits

structure Fault where
  cause : Cause
  rest : List Char

def fail (cause : Cause) (rest : List Char) : Except Fault α := .error ⟨cause, rest⟩

def isSpace (c : Char) : Bool := c = ' ' || c = '\t' || c = '\n' || c = '\r'

def skip (s : List Char) : List Char := s.dropWhile isSpace

def plainEscape? : Char → Option Char
  | '"' => some '"'
  | '\\' => some '\\'
  | '/' => some '/'
  | 'b' => some '\x08'
  | 'f' => some '\x0c'
  | 'n' => some '\n'
  | 'r' => some '\r'
  | 't' => some '\t'
  | _ => none

def unit? : List Char → Option Nat
  | a :: b :: c :: d :: _ :: _ =>
    if [a, b, c, d].all Text.isHex then some (Text.ofHex [a, b, c, d]) else none
  | _ => none

def isHigh (n : Nat) : Bool := 0xd800 ≤ n && n < 0xdc00

def isLow (n : Nat) : Bool := 0xdc00 ≤ n && n < 0xe000

def unitChar (n : Nat) : Char := if n.isValidChar then .ofNat n else '\ufffd'

/-- A character given by code units after `\u`, and how much of the text they take: one unit, or two
surrogates that make one character. -/
def unitEscapes (rest : List Char) : Except Fault (Char × Nat) :=
  match unit? rest with
  | none => fail .unitEscape rest
  | some n =>
    match rest.drop 4 with
    | '\\' :: 'u' :: more =>
      if isHigh n && more.length > 4 then
        match unit? more with
        | none => fail .unitEscape more
        | some m =>
          if isLow m then .ok (.ofNat (0x10000 + (n - 0xd800) * 0x400 + (m - 0xdc00)), 10)
          else .ok (unitChar n, 4)
      else .ok (unitChar n, 4)
    | _ => .ok (unitChar n, 4)

def stringFrom : Nat → List Char → Except Fault (List Char × List Char)
  | _, [] => fail .unterminated []
  | more + 1, _ :: rest => stringFrom more rest
  | 0, c :: rest =>
    if c = '"' then .ok ([], rest)
    else if c = '\\' then
      match rest with
      | [] => fail .unterminated []
      | d :: rest' =>
        if d = 'u' then do
          let (e, more) ← unitEscapes rest'
          let (s, after) ← stringFrom more rest'
          return (e :: s, after)
        else
          match plainEscape? d with
          | none => fail .escape (c :: rest)
          | some e => do
            let (s, after) ← stringFrom 0 rest'
            return (e :: s, after)
    else if c.toNat < 0x20 then fail .control (c :: rest)
    else do
      let (s, after) ← stringFrom 0 rest
      return (c :: s, after)

def digits (s : List Char) : List Char × List Char :=
  (s.takeWhile (·.isDigit), s.dropWhile (·.isDigit))

def integerPart? : List Char → Option (List Char × List Char)
  | '0' :: rest => some (['0'], rest)
  | s => if (digits s).1 = [] then none else some (digits s)

def fraction (s : List Char) : List Char × List Char :=
  match s with
  | '.' :: rest =>
    let (ds, after) := digits rest
    if ds = [] then ([], s) else ('.' :: ds, after)
  | _ => ([], s)

def isSign (c : Char) : Bool := c = '+' || c = '-'

def exponent (s : List Char) : List Char × List Char :=
  match s with
  | [] => ([], s)
  | e :: rest =>
    if e = 'e' || e = 'E' then
      let sign := (rest.take 1).filter isSign
      let (ds, after) := digits (rest.drop sign.length)
      if ds = [] then ([], s) else (e :: sign ++ ds, after)
    else ([], s)

def numeral (s : List Char) : Except Fault (Json × List Char) :=
  let sign := (s.take 1).filter (· = '-')
  match integerPart? (s.drop sign.length) with
  | none => fail .value s
  | some (whole, rest) =>
    let (frac, rest) := fraction rest
    let (exp, rest) := exponent rest
    if frac = [] ∧ exp = [] ∧ Numeral.maxDigits < whole.length then
      fail (.longInteger whole.length) s
    else .ok (.number (.ofList (sign ++ whole ++ frac ++ exp)), rest)

mutual

/-- A value; `fuel` bounds the nesting and the number of entries still to be read. -/
def valueFrom : Nat → List Char → Except Fault (Json × List Char)
  | 0, s => fail .value s
  | fuel + 1, s =>
    match s with
    | '"' :: rest => do
      let (text, after) ← stringFrom 0 rest
      return (.string (.ofList text), after)
    | '\x7b' :: rest =>
      match skip rest with
      | '\x7d' :: after => .ok (.object [], after)
      | rest => do
        let (fields, after) ← fieldsFrom fuel rest
        return (.object fields, after)
    | '[' :: rest =>
      match skip rest with
      | ']' :: after => .ok (.array [], after)
      | rest => do
        let (items, after) ← itemsFrom fuel rest
        return (.array items, after)
    | 'n' :: 'u' :: 'l' :: 'l' :: rest => .ok (.null, rest)
    | 't' :: 'r' :: 'u' :: 'e' :: rest => .ok (.bool true, rest)
    | 'f' :: 'a' :: 'l' :: 's' :: 'e' :: rest => .ok (.bool false, rest)
    | 'N' :: 'a' :: 'N' :: rest => .ok (.number "NaN", rest)
    | 'I' :: 'n' :: 'f' :: 'i' :: 'n' :: 'i' :: 't' :: 'y' :: rest => .ok (.number "Infinity", rest)
    | '-' :: 'I' :: 'n' :: 'f' :: 'i' :: 'n' :: 'i' :: 't' :: 'y' :: rest =>
      .ok (.number "-Infinity", rest)
    | _ => numeral s

def itemsFrom : Nat → List Char → Except Fault (List Json × List Char)
  | 0, s => fail .value s
  | fuel + 1, s => do
    let (item, after) ← valueFrom fuel s
    match skip after with
    | ']' :: rest => return ([item], rest)
    | ',' :: rest =>
      let (items, after) ← itemsFrom fuel (skip rest)
      return (item :: items, after)
    | rest => fail .comma rest

def fieldsFrom : Nat → List Char → Except Fault (List (String × Json) × List Char)
  | 0, s => fail .value s
  | fuel + 1, s =>
    match s with
    | '"' :: rest => do
      let (key, after) ← stringFrom 0 rest
      match skip after with
      | ':' :: rest =>
        let (value, after) ← valueFrom fuel (skip rest)
        match skip after with
        | '\x7d' :: rest => return ([(.ofList key, value)], rest)
        | ',' :: rest =>
          let (fields, after) ← fieldsFrom fuel (skip rest)
          return ((.ofList key, value) :: fields, after)
        | rest => fail .comma rest
      | rest => fail .colon rest
    | _ => fail .name s

end

def ofList (s : List Char) : Except Fault Json :=
  match s with
  | '\ufeff' :: _ => fail .byteOrderMark s
  | _ => do
    let (value, after) ← valueFrom (2 * s.length + 2) (skip s)
    match skip after with
    | [] => .ok value
    | rest => fail .extra rest

def ofString (s : String) : Except Fault Json := ofList s.toList

def Fault.line (f : Fault) (s : List Char) : Nat := 1 + (s.count '\n' - f.rest.count '\n')

end CurlScribe.Json
