import CurlScribe.Arguments.Basic
import CurlScribe.Request.Basic
import CurlScribe.Request.Notice
import CurlScribe.Url.Form

namespace CurlScribe.Request

def dataFlags : List String :=
  ["data", "data-ascii", "data-binary", "data-raw", "data-urlencode", "json"]

def formDataFlags : List String := ["data", "data-ascii", "data-raw", "data-urlencode"]

inductive Segment
  | text (text : String)
  | file (path : String)
  deriving DecidableEq

namespace Segment

def text? : Segment → Option String
  | text s => some s
  | file _ => none

def file? : Segment → Option String
  | text _ => none
  | file path => some path

/-- A text to be encoded: all of it, or what is behind the equals sign, or a file's contents. -/
def ofUrlencode (value : String) : Segment :=
  let encode (s : String) : String := .ofList (Url.percentEncode s.toList)
  match Text.cut '=' value with
  | ("", some content) => text (encode content)
  | (name, some content) => text (name ++ "=" ++ encode content)
  | (_, none) =>
    match Text.cut '@' value with
    | (_, some path) => file path
    | (_, none) => text (encode value)

def ofFlag : String × String → Segment
  | ("data-raw", value) => text value
  | ("data-urlencode", value) => ofUrlencode value
  | (_, value) =>
    match Text.afterStart? "@" value with
    | some path => file path
    | none => text value

end Segment

def texts (pieces : List (String × String)) : List String :=
  pieces.filterMap fun p => (Segment.ofFlag p).text?

def files (pieces : List (String × String)) : List String :=
  pieces.filterMap fun p => (Segment.ofFlag p).file?

def encodedFileNotices (pieces : List (String × String)) : List Notice :=
  (pieces.filter fun p => p.1 = "data-urlencode" && (Segment.ofFlag p).file?.isSome).map
    fun p => .fileNotEncoded p.2

def joinedData (pieces : List (String × String)) : String :=
  Text.joined (if pieces.all (·.1 = "json") then "" else "&") (texts pieces)

def onlyFile? (pieces : List (String × String)) : Option String :=
  match texts pieces, files pieces with
  | [], [path] => some path
  | _, _ => none

def mayBeForm (pieces headers : List (String × String)) : Bool :=
  pieces.all (formDataFlags.contains ·.1)
    && (lastHeader? headers "content-type").all fun t => Text.startsWith formType (Text.lower t)

def dataBody (pieces headers : List (String × String)) : Body :=
  match onlyFile? pieces with
  | some path => .raw "" (some path)
  | none =>
    let data := joinedData pieces
    match if mayBeForm pieces headers then Url.formFields? data else none with
    | some fields => .urlencoded data fields
    | none => .raw data none

def dataNotices (pieces : List (String × String)) : List Notice :=
  encodedFileNotices pieces
    ++ if (onlyFile? pieces).isSome then [] else (files pieces).map .fileDropped

def queryNotices (pieces : List (String × String)) : List Notice :=
  encodedFileNotices pieces ++ (files pieces).map .fileNotInQuery

end CurlScribe.Request
