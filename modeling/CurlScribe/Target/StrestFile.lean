import CurlScribe.Target.Header
import CurlScribe.Target.JsonDocument
import CurlScribe.Yaml.Basic

namespace CurlScribe.StrestFile

def named (items : List (String × Yaml)) : Yaml :=
  .list (items.map fun (name, value) => .mapping [("name", .text name), ("value", value)])

def texts (items : List (String × String)) : Yaml :=
  named (items.map fun (name, value) => (name, .text value))

def field (wanted : Bool) (key : String) (value : Yaml) : List (String × Yaml) :=
  if wanted then [(key, value)] else []

def headers (r : Request) : List (String × String) := r.headers ++ r.cookieHeaders ++ r.bearerHeader

def mimeType (r : Request) : Yaml := .ofOption r.contentType?

def partValue (p : Part) : Except Target.Fault (String × Yaml) :=
  match p.file with
  | some _ => .error .partFromFile
  | none => .ok (p.name, .ofOption p.value)

def postData (r : Request) : Except Target.Fault (List (String × Yaml)) :=
  if r.uploadFile.isSome then .error .uploadOfFile
  else
    match r.body with
    | .none => .ok []
    | .urlencoded _ fields => .ok [("mimeType", mimeType r), ("params", texts fields)]
    | .raw data none => .ok [("mimeType", mimeType r), ("text", .text data)]
    | .raw _ (some _) => .error .bodyFromFile
    | .multipart parts => do
      let params ← parts.mapM partValue
      return [("mimeType", .text "multipart/form-data"), ("params", named params)]

def request (r : Request) (query : String) (data : List (String × Yaml)) : Yaml :=
  .mapping ([("url", .text (JsonDocument.bareUrl r.url)), ("method", .text r.method.name)]
    ++ field (headers r ≠ []) "headers" (texts (headers r))
    ++ field (query ≠ "") "queryString" (texts (Url.queryFields query))
    ++ field (!data.isEmpty) "postData" (.mapping data))

def login (user password : String) : Yaml :=
  .mapping [("basic", .mapping [("username", .text user), ("password", .text password)])]

def auth (r : Request) : List (String × Yaml) :=
  match r.auth with
  | .basic user password => [("auth", login user password)]
  | .digest user password => [("auth", login user password)]
  | _ => []

def document (r : Request) (query : String) (data : List (String × Yaml)) :
    List (String × Yaml) :=
  [("version", .int 2),
   ("requests", .mapping [("curl_converter",
     .mapping ([("request", request r query data)] ++ auth r
       ++ field r.tls.insecure "allowInsecure" (.bool true)))])]

def write (r : Request) : Noted Target.Notice Target.Fault String := do
  .note (Target.strest.featureNotices r)
  let u ← .ofExcept ((Url.ofString r.url).mapError .badUrl)
  let data ← .ofExcept (postData r)
  .note (if r.auth matches .digest _ _ then [.digestAsBasic] else [])
  return Yaml.mappingDocument (document r (.ofList u.query) data)

end CurlScribe.StrestFile
