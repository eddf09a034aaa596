import CurlScribe.Text.Basic
import CurlScribe.Text.Hex

namespace CurlScribe.Url

def isOctet (s : List Char) : Bool :=
  s ≠ [] && s.length ≤ 3 && s.all Char.isDigit && (s.head? ≠ some '0' || s.length == 1)
    && s.foldl (fun n d => 10 * n + (d.toNat - 48)) 0 ≤ 255

def isIPv4 (s : List Char) : Bool :=
  let octets := Text.splitList '.' s
  octets.length == 4 && octets.all isOctet

def isHextet (s : List Char) : Bool := s ≠ [] && s.length ≤ 4 && s.all Text.isHex

def hextets? : List (List Char) → Option Nat
  | [] => some 0
  | [s] => if isHextet s then some 1 else if isIPv4 s then some 2 else none
  | s :: rest => if isHextet s then (· + 1) <$> hextets? rest else none

def groups (s : List Char) : List (List Char) := if s = [] then [] else Text.splitList ':' s

def isHextets (s : List Char) : Bool :=
  match Text.cutOnList [':', ':'] s with
  | (_, none) => hextets? (groups s) = some 8
  | (left, some right) =>
    (groups left).all isHextet
      && ((hextets? (groups right)).any fun n => (groups left).length + n ≤ 7)

def isIPv6 (s : List Char) : Bool :=
  match Text.cutList '%' s with
  | (address, none) => isHextets address
  | (address, some zone) => zone ≠ [] && !zone.contains '%' && isHextets address

def isFutureAddress (s : List Char) : Bool :=
  match Text.cutList '.' s with
  | ('v' :: version, some rest) => version ≠ [] && version.all Text.isHex && rest ≠ []
  | _ => false

end CurlScribe.Url
