import CurlScribe.Shell.Quote
import CurlScribe.Text.Case
import CurlScribe.Text.Hex

namespace CurlScribe.Shell

inductive AnsiError
  | unterminated
  | control (c : Char)
  deriving DecidableEq

def simpleEscape? : Char → Option Char
  | 'a' => some '\x07'
  | 'b' => some '\x08'
  | 'e' => some '\x1b'
  | 'E' => some '\x1b'
  | 'f' => some '\x0c'
  | 'n' => some '\n'
  | 'r' => some '\r'
  | 't' => some '\t'
  | 'v' => some '\x0b'
  | '\\' => some '\\'
  | '\'' => some '\''
  | '"' => some '"'
  | '?' => some '?'
  | _ => none

def isOctal (c : Char) : Bool := '0' ≤ c && c ≤ '7'

def codeWidth? : Char → Option Nat
  | 'x' => some 2
  | 'u' => some 4
  | 'U' => some 8
  | _ => none

def codeEscape (letter : Char) (digits : List Char) : List Char :=
  let n := Text.ofHex digits
  if n.isValidChar then [.ofNat n] else '\\' :: letter :: digits

/-- What a backslash, `c` and the text after them stand for, and how much of that text belongs to
the escape. An unknown escape stands for itself. -/
def escape (c : Char) (rest : List Char) : Except AnsiError (List Char × Nat) :=
  match codeWidth? c with
  | some width =>
    let digits := (rest.take width).takeWhile Text.isHex
    if digits = [] then .ok (['\\', c], 0) else .ok (codeEscape c digits, digits.length)
  | none =>
    if isOctal c then
      let digits := (rest.take 2).takeWhile isOctal
      let n := (c :: digits).foldl (fun n d => 8 * n + (d.toNat - 48)) 0
      .ok ([.ofNat (n % 256)], digits.length)
    else if c = 'c' then
      match rest with
      | [] => .ok (['\\', 'c'], 0)
      | d :: _ =>
        match Text.upperChar? d with
        | some u => .ok ([.ofNat (u.toNat ^^^ 64)], 1)
        | none => .error (.control d)
    else .ok ((simpleEscape? c).elim ['\\', c] ([·]), 0)

def decodeFrom : Nat → List Char → Except AnsiError (List Char)
  | _, [] => .ok []
  | skip + 1, _ :: rest => decodeFrom skip rest
  | 0, c :: rest =>
    if c = '\\' then
      match rest with
      | [] => .ok ['\\']
      | d :: rest' => do
        let (text, more) ← escape d rest'
        return text ++ (← decodeFrom more rest')
    else (c :: ·) <$> decodeFrom 0 rest

def decodeAnsi (body : String) : Except AnsiError String :=
  .ofList <$> decodeFrom 0 body.toList

/-- Where the reader stands: outside all quotations, inside one, or inside a `$'...'` string
whose body so far is kept in reverse. -/
inductive Region
  | bare
  | single
  | double
  | ansi (body : List Char)

def expandFrom : Region → List Char → Except AnsiError (List Char)
  | .ansi _, [] => .error .unterminated
  | _, [] => .ok []
  | .ansi body, c :: rest =>
    if c = '\\' then
      match rest with
      | [] => .error .unterminated
      | d :: rest' => expandFrom (.ansi (d :: '\\' :: body)) rest'
    else if c = '\'' then do
      let text ← decodeFrom 0 body.reverse
      return quoteList text ++ (← expandFrom .bare rest)
    else expandFrom (.ansi (c :: body)) rest
  | .single, c :: rest => (c :: ·) <$> expandFrom (if c = '\'' then .bare else .single) rest
  | .double, c :: rest =>
    if c = '\\' then
      match rest with
      | [] => .ok ['\\']
      | d :: rest' => ('\\' :: d :: ·) <$> expandFrom .double rest'
    else (c :: ·) <$> expandFrom (if c = '"' then .bare else .double) rest
  | .bare, '$' :: '\'' :: rest => expandFrom (.ansi []) rest
  | .bare, c :: rest =>
    if c = '\\' then
      match rest with
      | [] => .ok ['\\']
      | d :: rest' => ('\\' :: d :: ·) <$> expandFrom .bare rest'
    else
      (c :: ·) <$>
        expandFrom (if c = '\'' then .single else if c = '"' then .double else .bare) rest

def expandAnsi (command : String) : Except AnsiError String :=
  .ofList <$> expandFrom .bare command.toList

end CurlScribe.Shell
