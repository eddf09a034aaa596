import CurlScribe.Text.Hex
import CurlScribe.Text.Utf8

/-!
Percent-encoding. Encoding escapes the UTF-8 bytes of all but the unreserved characters; decoding
takes escapes of two hexadecimal digits and leaves every other percent sign as it is.
-/

namespace CurlScribe.Url

def isUnreserved (c : Char) : Bool := c.isAlphanum || c = '_' || c = '.' || c = '-' || c = '~'

def percentByte (b : UInt8) : List Char := '%' :: Text.upperHex 2 b.toNat

def percentChar (c : Char) : List Char :=
  if isUnreserved c then [c] else (String.utf8EncodeChar c).flatMap percentByte

def percentEncode (s : List Char) : List Char := s.flatMap percentChar

def escapedByte? : List Char → Option UInt8
  | a :: b :: _ => return .ofNat (16 * (← Text.hexValue? a) + (← Text.hexValue? b))
  | _ => none

def bytesFrom : Nat → List Char → List UInt8
  | _, [] => []
  | more + 1, _ :: rest => bytesFrom more rest
  | 0, c :: rest =>
    if c = '%' then
      match escapedByte? rest with
      | some b => b :: bytesFrom 2 rest
      | none => String.utf8EncodeChar c ++ bytesFrom 0 rest
    else String.utf8EncodeChar c ++ bytesFrom 0 rest

def percentDecode (s : List Char) : List Char := Text.decodeUtf8 (bytesFrom 0 s)

end CurlScribe.Url
