import CurlScribe.Target.Fields
import CurlScribe.Target.Header
import CurlScribe.Yaml.Basic

namespace CurlScribe.AnsiblePlaybook

def text? (key : String) (value : Option String) : List (String × Yaml) :=
  (value.map fun s => (key, Yaml.text s)).toList

def field (wanted : Bool) (key : String) (value : Yaml) : List (String × Yaml) :=
  if wanted then [(key, value)] else []

def texts (items : List (String × String)) : Yaml :=
  .mapping (items.map fun (key, value) => (key, .text value))

def headers (r : Request) : List (String × String) :=
  Fields.ofItems (r.mergedHeaders ++ r.cookieHeaders ++ r.bearerHeader
    ++ if r.body matches .raw _ _ then r.typeHeader else [])

def lookupFile (path : Option String) : String :=
  "\x7b\x7b lookup('file', '" ++ path.getD "None" ++ "') \x7d\x7d"

def partValue (p : Part) : Yaml :=
  match p.source, filled? p.contentType with
  | .contents path, _ => texts [("content", lookupFile path)]
  | .upload path, none => texts [("filename", path)]
  | .upload path, some type => texts [("filename", path), ("mime_type", type)]
  | .text value, some type => .mapping [("content", .ofOption value), ("mime_type", .text type)]
  | .text value, none => .ofOption value

def multipart (parts : List Part) : Yaml :=
  .mapping (Fields.ofItems (parts.map fun p => (p.name, partValue p)))

def body (r : Request) : List (String × Yaml) :=
  match r.body with
  | .none => []
  | .urlencoded text _ => [("body_format", .text "form-urlencoded"), ("body", .text text)]
  | .raw data none => [("body", .text data)]
  | .raw _ (some path) => [("src", .text path)]
  | .multipart parts => [("body_format", .text "form-multipart"), ("body", multipart parts)]

def content (r : Request) : List (String × Yaml) :=
  match r.uploadFile with
  | none => body r
  | some path => Fields.put "src" (.text path) (body r)

def login (user password : String) : List (String × Yaml) :=
  [("url_username", .text user), ("url_password", .text password)]

def auth (r : Request) : List (String × Yaml) :=
  match r.auth with
  | .basic user password => login user password ++ [("force_basic_auth", .bool true)]
  | .digest user password => login user password
  | _ => []

def seconds (time : Binary64) : Int := max 1 time.round

def settings (r : Request) : List (String × Yaml) :=
  [("url", .text r.url), ("method", .text r.method.name)] ++ content r
    ++ field (headers r ≠ []) "headers" (texts (headers r))
    ++ auth r
    ++ field r.tls.insecure "validate_certs" (.bool false)
    ++ text? "client_cert" r.tls.cert ++ text? "client_key" r.tls.key
    ++ text? "ca_path" r.tls.cacert
    ++ field r.followRedirects "follow_redirects" (.text "all")
    ++ (r.timeout.map fun t => ("timeout", Yaml.int (seconds t))).toList
    ++ field r.compressed "decompress" (.bool true)
    ++ [("return_content", .bool true)]

def task (r : Request) (host : Option String) : Yaml :=
  .mapping [("name", .ofOption host), ("uri", .mapping (settings r)),
    ("register", .text "result")]

def partNotices (r : Request) : List Target.Notice :=
  match r.body with
  | .multipart parts => (Fields.repeated [] (parts.map (·.name))).map .fieldTwiceInAnsible
  | _ => []

def write (r : Request) : Noted Target.Notice Target.Fault String := do
  .note (Target.ansible.featureNotices r ++ r.mergeNotices .ansible)
  if r.body matches .raw _ (some "-") then .fail .bodyFromInput
  .note (partNotices r)
  if r.uploadFile = some "-" then .fail .uploadFromInput
  let u ← .ofExcept ((Url.ofString r.url).mapError .badUrl)
  return Yaml.listDocument [task r u.host?]

end CurlScribe.AnsiblePlaybook
