import CurlScribe.Number.Limit
import CurlScribe.Text.Basic
import CurlScribe.Text.Case
import CurlScribe.Text.Quoted
import CurlScribe.Url.Address

namespace CurlScribe

structure Url where
  scheme : List Char
  authority : List Char
  path : List Char
  query : List Char
  fragment : List Char

namespace Url

inductive Fault
  | brackets
  | futureAddress
  | bracketedIPv4
  | notAnAddress (host : String)
  | lookalike (authority : String)
  | portNotNumber (port : String)
  | portRange
  | longPort (digits : Nat)
  deriving DecidableEq

def Fault.message : Fault → String
  | .brackets => "Invalid IPv6 URL"
  | .futureAddress => "IPvFuture address is invalid"
  | .bracketedIPv4 => "An IPv4 address cannot be in brackets"
  | .notAnAddress host => Text.shown host ++ " does not appear to be an IPv4 or IPv6 address"
  | .lookalike authority =>
    "netloc '" ++ authority ++ "' contains invalid characters under NFKC normalization"
  | .portNotNumber port => "Port could not be cast to integer value as " ++ Text.shown port
  | .portRange => "Port out of range 0-65535"
  | .longPort digits => Numeral.tooLong digits

def isSchemeChar (c : Char) : Bool := c.isAlphanum || c = '+' || c = '-' || c = '.'

def cutScheme (s : List Char) : List Char × List Char :=
  match Text.cutList ':' s with
  | (c :: name, some rest) =>
    if c.isAlpha && (c :: name).all isSchemeChar then ((c :: name).map Char.toLower, rest)
    else ([], s)
  | _ => ([], s)

def endsAuthority (c : Char) : Bool := c = '/' || c = '?' || c = '#'

def cutAuthority : List Char → List Char × List Char
  | '/' :: '/' :: rest =>
    (rest.takeWhile (!endsAuthority ·), rest.dropWhile (!endsAuthority ·))
  | s => ([], s)

def hostPart (authority : List Char) : List Char := (Text.cutLastList '@' authority).2

def hostPort (authority : List Char) : List Char × Option (List Char) :=
  match Text.cutList '[' (hostPart authority) with
  | (_, some bracketed) =>
    let (host, after) := Text.cutList ']' bracketed
    (host, after.bind (Text.cutList ':' · |>.2))
  | (host, none) => Text.cutList ':' host

/-- Characters outside ASCII whose compatibility forms have a delimiter in them. -/
def lookalikes : List Char :=
  ['\u2047', '\u2048', '\u2049', '\u2100', '\u2101', '\u2105', '\u2106', '\u2a74', '\ufe13',
   '\ufe16', '\ufe55', '\ufe56', '\ufe5f', '\ufe6b', '\uff03', '\uff0f', '\uff1a', '\uff1f',
   '\uff20']

/-- Nothing may stand around the brackets but a port. -/
def bracketsFit (authority : List Char) : Bool :=
  match Text.cutList '[' (hostPart authority) with
  | (before, some bracketed) =>
    before = [] && (Text.cutList ']' bracketed).2.all (·.head?.all (· = ':'))
  | (_, none) => true

def checkAddress (host : List Char) : Except Fault Unit :=
  if host.head? = some 'v' then
    if isFutureAddress host then .ok () else .error .futureAddress
  else if isIPv4 host then .error .bracketedIPv4
  else if isIPv6 host then .ok ()
  else .error (.notAnAddress (.ofList host))

def checkBrackets (authority : List Char) : Except Fault Unit :=
  match authority.contains '[', authority.contains ']' with
  | false, false => .ok ()
  | true, true =>
    if bracketsFit authority then checkAddress (hostPort authority).1 else .error .brackets
  | _, _ => .error .brackets

def checkLookalikes (authority : List Char) : Except Fault Unit :=
  if authority.any lookalikes.contains then .error (.lookalike (.ofList authority)) else .ok ()

def isLeading (c : Char) : Bool := c.toNat ≤ 0x20

def isLineOrTab (c : Char) : Bool := c = '\t' || c = '\r' || c = '\n'

/-- The URL in a text. Controls and spaces before it, and tabs and line breaks in it, are
dropped. -/
def ofList (s : List Char) : Except Fault Url := do
  let s := (s.dropWhile isLeading).filter (!isLineOrTab ·)
  let (scheme, s) := cutScheme s
  let (authority, s) := cutAuthority s
  checkBrackets authority
  checkLookalikes authority
  let (s, fragment) := Text.cutList '#' s
  let (path, query) := Text.cutList '?' s
  return ⟨scheme, authority, path, query.getD [], fragment.getD []⟩

def ofString (s : String) : Except Fault Url := ofList s.toList

def host? (u : Url) : Option String :=
  match (hostPort u.authority).1 with
  | [] => none
  | host =>
    let (name, zone) := Text.cutList '%' host
    some (Text.lower (.ofList name) ++ zone.elim "" ("%" ++ .ofList ·))

def port? (u : Url) : Except Fault (Option Nat) :=
  match (hostPort u.authority).2 with
  | none => .ok none
  | some [] => .ok none
  | some digits =>
    if !digits.all Char.isDigit then .error (.portNotNumber (.ofList digits))
    else if Numeral.maxDigits < digits.length then .error (.longPort digits.length)
    else
      let port := digits.foldl (fun n d => 10 * n + (d.toNat - 48)) 0
      if port ≤ 65535 then .ok (some port) else .error .portRange

end Url

end CurlScribe
