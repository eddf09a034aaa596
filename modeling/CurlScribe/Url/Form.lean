import CurlScribe.Text.Basic
import CurlScribe.Url.Percent

/-!
Fields of a form: names and values with equals signs inside them and ampersands between them. They
are percent-encoded, except that a plus sign stands for a space.
-/

namespace CurlScribe.Url

def formChar (c : Char) : List Char := if c = ' ' then ['+'] else percentChar c

def formEncode (s : String) : String := .ofList (s.toList.flatMap formChar)

def plusToSpace (c : Char) : Char := if c = '+' then ' ' else c

def formDecode (s : List Char) : String := .ofList (percentDecode (s.map plusToSpace))

def encodeFields (fields : List (String × String)) : String :=
  Text.joined "&" (fields.map fun (name, value) => formEncode name ++ "=" ++ formEncode value)

def field? (piece : List Char) : Option (String × String) :=
  match Text.cutList '=' piece with
  | ([], _) => none
  | (_, none) => none
  | (name, some value) => some (formDecode name, formDecode value)

def formFields? (s : String) : Option (List (String × String)) :=
  if s = "" then none else (Text.splitList '&' s.toList).mapM field?

def queryFields (query : String) : List (String × String) :=
  ((Text.splitList '&' query.toList).filter (· ≠ [])).map fun piece =>
    let (name, value) := Text.cutList '=' piece
    (formDecode name, formDecode (value.getD []))

def addQuery (url query : String) : String :=
  if query = "" then url
  else
    let (base, fragment) := Text.cut '#' url
    let joint :=
      if !Text.hasChar '?' base then "?"
      else if Text.endsWith "?" base || Text.endsWith "&" base then ""
      else "&"
    base ++ joint ++ query ++ fragment.elim "" ("#" ++ ·)

end CurlScribe.Url
