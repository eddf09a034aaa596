import CurlScribe.Request.Basic
import CurlScribe.Request.Notice
import CurlScribe.Text.Blank

namespace CurlScribe.Request

def formFlags : List String := ["form", "form-string"]

def unquoted (s : String) : String :=
  .ofList ((s.toList.dropWhile (· = '"')).reverse.dropWhile (· = '"')).reverse

def parameter (s : String) : String × String :=
  let (key, value) := Text.cut '=' s
  (Text.lower (Text.trim key), unquoted (Text.trim (value.getD "")))

def parameter? (name : String) (parameters : List String) : Option String :=
  (((parameters.map parameter).filter (·.1 = name)).getLast?).map (·.2)

def filePart (name : String) (fromFile : Bool) (content : String) : Part :=
  let (path, parameters) :=
    match Text.split ';' content with
    | [] => ("", [])
    | path :: parameters => (path, parameters)
  { name
    file := some path
    filename := parameter? "filename" parameters
    contentType := parameter? "type" parameters
    fromFile }

def formPart (name content : String) : Part :=
  match content.toList with
  | '@' :: rest => filePart name false (.ofList rest)
  | '<' :: rest => filePart name true (.ofList rest)
  | _ =>
    let (text, type) := Text.cutOn ";type=" content
    { name, value := some text, contentType := type.filter (· ≠ "") }

def part? : String × String → Option Part
  | (flag, value) =>
    match Text.cut '=' value with
    | ("", _) => none
    | (_, none) => none
    | (name, some content) =>
      if flag = "form-string" then some { name, value := some content }
      else some (formPart name content)

def isKnownParameter (name : String) : Bool := name = "" || name = "type" || name = "filename"

def unknownParameters (content : String) : List String :=
  if Text.startsWith "@" content || Text.startsWith "<" content then
    ((Text.split ';' content).drop 1).filter fun s => !isKnownParameter (parameter s).1
  else []

def partNotices : String × String → List Notice
  | (flag, value) =>
    if (part? (flag, value)).isNone then [.malformedPart flag value]
    else if flag = "form-string" then []
    else (unknownParameters ((Text.cut '=' value).2.getD "")).map .unsupportedParameter

def formParts (values : List (String × String)) : List Part := values.filterMap part?

def formNotices (values : List (String × String)) : List Notice := values.flatMap partNotices

end CurlScribe.Request
