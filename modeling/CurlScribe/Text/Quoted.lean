import CurlScribe.Text.Hex
import CurlScribe.Text.Printable

namespace CurlScribe.Text

def quoteMark (s : List Char) : Char := if s.contains '\'' && !s.contains '"' then '"' else '\''

def shownChar (q c : Char) : List Char :=
  if c = q || c = '\\' then ['\\', c]
  else if c = '\t' then ['\\', 't']
  else if c = '\n' then ['\\', 'n']
  else if c = '\r' then ['\\', 'r']
  else if isPrintable c then [c]
  else if c.toNat < 0x100 then '\\' :: 'x' :: hex 2 c.toNat
  else if c.toNat < 0x10000 then '\\' :: 'u' :: hex 4 c.toNat
  else '\\' :: 'U' :: hex 8 c.toNat

def shownList (s : List Char) : List Char :=
  quoteMark s :: s.flatMap (shownChar (quoteMark s)) ++ [quoteMark s]

def shown (s : String) : String := .ofList (shownList s.toList)

end CurlScribe.Text
