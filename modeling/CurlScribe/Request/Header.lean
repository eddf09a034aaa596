import CurlScribe.Arguments.Basic
import CurlScribe.Request.Basic
import CurlScribe.Request.Notice
import CurlScribe.Text.Blank

namespace CurlScribe.Request

/-- What a header line says. A name without a value only keeps curl's own header away, and a
semicolon behind the name stands for an empty value. -/
inductive HeaderLine
  | field (name value : String)
  | removal (name : String)
  | file
  | malformed
  deriving DecidableEq

namespace HeaderLine

def ofString (raw : String) : HeaderLine :=
  if Text.startsWith "@" raw then file
  else
    match Text.cut ':' raw with
    | (name, some value) =>
      if Text.trim value = "" then removal (Text.trim name)
      else field (Text.trim name) (Text.trim value)
    | (_, none) =>
      match (Text.trimEnd raw.toList).reverse with
      | ';' :: name => field (Text.trim (.ofList name.reverse)) ""
      | _ => malformed

def field? : HeaderLine → Option (String × String)
  | field name value => some (name, value)
  | _ => none

def name? : HeaderLine → Option String
  | field name _ => some name
  | removal name => some name
  | _ => none

def notice? (raw : String) : HeaderLine → Option Notice
  | file => some (.headersFromFile raw)
  | malformed => some (.malformedHeader raw)
  | _ => none

end HeaderLine

def isMultipartType : String × String → Bool
  | (name, value) =>
    Text.lower name = "content-type" && Text.startsWith "multipart/form-data" (Text.lower value)

def withoutMultipartType (headers : List (String × String)) : List (String × String) :=
  headers.filter (!isMultipartType ·)

def multipartTypeNotices (headers : List (String × String)) : List Notice :=
  (headers.filter fun h => isMultipartType h && Text.contains "boundary=" (Text.lower h.2)).map
    fun _ => .boundaryDropped

end CurlScribe.Request

namespace CurlScribe.Arguments

open Request

def headerLines (a : Arguments) : List HeaderLine := (a.texts "header").map .ofString

def headerNotices (a : Arguments) : List Request.Notice :=
  (a.texts "header").filterMap fun raw => (HeaderLine.ofString raw).notice? raw

def customHeaders (a : Arguments) : List (String × String) :=
  a.headerLines.filterMap HeaderLine.field?

def spokenOf (a : Arguments) (name : String) : Bool :=
  a.headerLines.any fun line => line.name?.any (Text.lower · = name)

def referer? (a : Arguments) : Option String :=
  (a.text? "referer").bind fun referer =>
    let value := if Text.endsWith ";auto" referer then Text.dropEnd 5 referer else referer
    if value = "" then none else some value

def unlessSpokenOf (a : Arguments) (name : String) (value : Option String) :
    List (String × String) :=
  if a.spokenOf (Text.lower name) then [] else (value.map (name, ·)).toList

def jsonType? (a : Arguments) : Option String :=
  if a.has "json" then some "application/json" else none

def headers (a : Arguments) : List (String × String) :=
  a.unlessSpokenOf "User-Agent" (a.text? "user-agent")
    ++ a.unlessSpokenOf "Referer" a.referer?
    ++ a.customHeaders
    ++ a.unlessSpokenOf "Content-Type" a.jsonType?
    ++ a.unlessSpokenOf "Accept" a.jsonType?

end CurlScribe.Arguments
