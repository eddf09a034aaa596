import CurlScribe.Yaml.Plain

/-!
Texts as YAML scalars. Lines longer than 80 columns are folded: a single space between words becomes
the end of the line, and between quotation marks a backslash ends it.
-/

namespace CurlScribe.Yaml

def width : Nat := 80

/-- Where a scalar stands: the column it starts in, how far its further lines are indented, and
whether it may have any. -/
structure Place where
  column : Nat
  indent : Nat
  folds : Bool

def newLine (indent : Nat) : List Char := '\n' :: List.replicate indent ' '

def foldsAt (p : Place) (column : Nat) (previous next : Option Char) : Bool :=
  p.folds && width < column && previous.any (· ≠ ' ') && next.any (· ≠ ' ')

def plainFrom (p : Place) (column : Nat) (previous : Option Char) : List Char → List Char
  | [] => []
  | c :: rest =>
    if c = ' ' && foldsAt p column previous rest.head? then
      newLine p.indent ++ plainFrom p p.indent (some c) rest
    else c :: plainFrom p (column + 1) (some c) rest

def apostrophedFrom (p : Place) (column : Nat) (previous : Option Char) : List Char → List Char
  | [] => []
  | c :: rest =>
    if c = ' ' && foldsAt p column previous rest.head? then
      newLine p.indent ++ apostrophedFrom p p.indent (some c) rest
    else if isBreak c then
      (if c = '\n' && !previous.any isBreak then ['\n'] else []) ++ [c]
        ++ (if rest.head?.any isBreak then [] else List.replicate p.indent ' ')
        ++ apostrophedFrom p p.indent (some c) rest
    else if c = '\'' then '\'' :: '\'' :: apostrophedFrom p (column + 2) (some c) rest
    else c :: apostrophedFrom p (column + 1) (some c) rest

def shortEscape? : Char → Option Char
  | '\x00' => some '0'
  | '\x07' => some 'a'
  | '\x08' => some 'b'
  | '\t' => some 't'
  | '\n' => some 'n'
  | '\x0b' => some 'v'
  | '\x0c' => some 'f'
  | '\r' => some 'r'
  | '\x1b' => some 'e'
  | '"' => some '"'
  | '\\' => some '\\'
  | '\x85' => some 'N'
  | '\u2028' => some 'L'
  | '\u2029' => some 'P'
  | _ => none

def escape? (c : Char) : Option (List Char) :=
  match shortEscape? c with
  | some e => some ['\\', e]
  | none =>
    if isDirect c && c.toNat < 0x10000 then none
    else if c.toNat < 0x100 then some ('\\' :: 'x' :: Text.upperHex 2 c.toNat)
    else if c.toNat < 0x10000 then some ('\\' :: 'u' :: Text.upperHex 4 c.toNat)
    else some ('\\' :: 'U' :: Text.upperHex 8 c.toNat)

/-- Ends a line between quotation marks before a character. A space there needs a backslash to
count. -/
def continueBefore (p : Place) (next : Option Char) : List Char :=
  '\\' :: newLine p.indent ++ if next = some ' ' then ['\\'] else []

def columnBefore (p : Place) (next : Option Char) : Nat :=
  if next = some ' ' then p.indent + 1 else p.indent

def quotedFrom (p : Place) (column : Nat) (first afterEscape : Bool) : List Char → List Char
  | [] => []
  | c :: rest =>
    let inside := p.folds && !first && rest ≠ []
    match escape? c with
    | some e =>
      if inside && width + 1 < column + e.length then
        e ++ continueBefore p rest.head?
          ++ quotedFrom p (columnBefore p rest.head?) false true rest
      else e ++ quotedFrom p (column + e.length) false true rest
    | none =>
      if inside && (c = ' ' || afterEscape) && width < column then
        continueBefore p (some c)
          ++ c :: quotedFrom p (columnBefore p (some c) + 1) false false rest
      else c :: quotedFrom p (column + 1) false false rest

def spaceAtBreak : List Char → Bool
  | [] => false
  | c :: rest =>
    (c = ' ' && rest.head?.any isBreak) || (isBreak c && rest.head? = some ' ')
      || spaceAtBreak rest

def isApostrophed (s : List Char) : Bool := s.all isDirect && !spaceAtBreak s

def scalar (p : Place) (s : String) : String :=
  let cs := s.toList
  .ofList <|
    if isPlain s then plainFrom p p.column none cs
    else if isApostrophed cs then '\'' :: apostrophedFrom p (p.column + 1) none cs ++ ['\'']
    else '"' :: quotedFrom p (p.column + 1) true false cs ++ ['"']

end CurlScribe.Yaml
