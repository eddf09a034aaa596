import CurlScribe.Json.Basic
import CurlScribe.Number.Shortest
import CurlScribe.Target.Fields
import CurlScribe.Target.Header
import CurlScribe.Url.Form

namespace CurlScribe.JsonDocument

def values : List Json → Json
  | [value] => value
  | many => .array many

/-- Pairs as an object that has each key once. -/
def group (items : List (String × Json)) : Json :=
  .object ((Fields.ofItems items).map fun (key, _) => (key, values (Fields.values key items)))

def texts (items : List (String × String)) : Json :=
  group (items.map fun (key, value) => (key, .string value))

def field (wanted : Bool) (key : String) (value : Json) : List (String × Json) :=
  if wanted then [(key, value)] else []

def text? (key : String) (value : Option String) : List (String × Json) :=
  (value.map fun s => (key, Json.string s)).toList

def user (user password : String) : Json :=
  .object [("user", .string user), ("password", .string password)]

def bareUrl (url : String) : String := (Text.cut '#' (Text.cut '?' url).1).1

def partValue (p : Part) : Json :=
  match p.file with
  | some path => .string ("<" ++ path)
  | none => .ofOption p.value

def uploads (parts : List Part) : List (String × String) :=
  parts.filterMap fun p =>
    match p.source with
    | .upload path => some (p.name, path)
    | _ => none

def partFields (parts : List Part) : List (String × Json) :=
  let fields := (parts.filter (!·.isUpload)).map fun p => (p.name, partValue p)
  field (uploads parts ≠ []) "files" (texts (uploads parts))
    ++ field (!fields.isEmpty) "data" (group fields)

def bodyFields (r : Request) : List (String × Json) :=
  match r.body with
  | .none => []
  | .urlencoded _ fields => [("data", texts fields)]
  | .raw data none => [("data", .string data)]
  | .raw _ (some path) => [("data", .object [("file", .string path)])]
  | .multipart parts => partFields parts

def authFields (r : Request) : List (String × Json) :=
  match r.auth with
  | .none => []
  | .basic name password => [("auth", user name password)]
  | .digest name password => [("auth", user name password), ("auth_type", .string "digest")]
  | .bearer token =>
    [("auth", .object [("token", .string token)]), ("auth_type", .string "bearer")]

def transferFields (r : Request) : List (String × Json) :=
  text? "cookie_jar" r.cookieJar ++ field r.tls.insecure "insecure" (.bool true)
    ++ text? "cert" r.tls.cert ++ text? "key" r.tls.key ++ text? "cacert" r.tls.cacert
    ++ text? "proxy" r.proxy
    ++ (r.proxyAuth.map fun (name, password) => ("proxy_auth", user name password)).toList
    ++ field r.followRedirects "follow_redirects" (.bool true)
    ++ (r.maxRedirects.map fun n => ("max_redirects", Json.number (toString n))).toList
    ++ (r.timeout.map fun t => ("timeout", Json.number t.text)).toList
    ++ (r.connectTimeout.map fun t => ("connect_timeout", Json.number t.text)).toList
    ++ text? "http_version" (r.httpVersion.map (·.name))
    ++ field r.compressed "compressed" (.bool true)

def document (r : Request) (query : String) : Json :=
  .object ([("url", .string (bareUrl r.url)), ("raw_url", .string r.url),
      ("method", .string (Text.lower r.method.name))]
    ++ field (query ≠ "") "queries" (texts (Url.queryFields query))
    ++ field (r.cookies ≠ []) "cookies" (texts r.cookies)
    ++ field (r.headers ≠ []) "headers" (texts r.headers)
    ++ bodyFields r ++ text? "upload_file" r.uploadFile ++ authFields r ++ transferFields r)

def write (r : Request) : Noted Target.Notice Target.Fault String := do
  .note (Target.json.featureNotices r)
  let u ← .ofExcept ((Url.ofString r.url).mapError .badUrl)
  return (document r (.ofList u.query)).render 0 ++ "\n"

end CurlScribe.JsonDocument
