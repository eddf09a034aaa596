import CurlScribe.Number.Shortest
import CurlScribe.Target.Code
import CurlScribe.Target.Header
import CurlScribe.Text.Quoted
import CurlScribe.Url.Form

namespace CurlScribe.RequestsScript

open Code (lit)

def item (key : String) (value : Code) : Code := "    " ++ lit key ++ ": " ++ value ++ ","

def pairItem (key : String) (value : Code) : Code := "    (" ++ lit key ++ ", " ++ value ++ "),"

def dict (name : String) (items : List (String × Code)) : Code :=
  name ++ " = \x7b\n" ++ Code.joined "" (items.map fun (k, v) => item k v ++ "\n") ++ "\x7d"

def pairs (name : String) (items : List (String × Code)) : Code :=
  name ++ " = [\n" ++ Code.joined "" (items.map fun (k, v) => pairItem k v ++ "\n") ++ "]"

def table (name : String) (items : List (String × Code)) : Code :=
  if (items.map (·.1)).Nodup then dict name items else pairs name items

def literals (items : List (String × String)) : List (String × Code) :=
  items.map fun (key, value) => (key, lit value)

inductive Data
  | none
  | upload (path : String)
  | form (fields : List (String × String))
  | text (text : String)
  | input
  | file (path : String)
  | parts (parts : List Part)

/-- A form is passed as its fields only if the library makes the very text of them. -/
def data (r : Request) : Data :=
  match r.uploadFile with
  | some path => .upload path
  | none =>
    match r.body with
    | .none => .none
    | .urlencoded text fields => if Url.encodeFields fields = text then .form fields else .text text
    | .raw data none => .text data
    | .raw _ (some path) => if path = "-" then .input else .file path
    | .multipart parts => .parts parts

def openFile (path : String) : Code := Code.call "open" [lit path, "'rb'"]

def filename (p : Part) : Code :=
  match p.source with
  | .upload path => lit (p.filename.getD (baseName path))
  | _ => "None"

def content (p : Part) : Code :=
  match p.source with
  | .text value => Code.orNull "None" value
  | .upload path => openFile path
  | .contents path => Code.call "open" [Code.orNull "None" path] ++ ".read()"

def part (p : Part) : Code :=
  Code.call "" ([filename p, content p] ++ Code.literal? (filled? p.contentType))

def dataBlock : Data → List Code
  | .none => []
  | .upload _ => []
  | .form fields => [table "data" (literals fields)]
  | .text text => ["data = " ++ lit text]
  | .input => ["data = sys.stdin.buffer.read()"]
  | .file path => ["with " ++ openFile path ++ " as f:\n    data = f.read()"]
  | .parts parts => [table "files" (parts.map fun p => (p.name, part p))]

def dataArgument : Data → List Code
  | .none => []
  | .upload path => ["data=" ++ openFile path]
  | .parts _ => ["files=files"]
  | _ => ["data=data"]

def headers (r : Request) : List (String × String) :=
  r.mergedHeaders ++ (if r.body matches .raw _ _ then r.typeHeader else []) ++ r.bearerHeader

def proxyUrl? (r : Request) : Option String :=
  (filled? r.proxy).map fun proxy =>
    match r.proxyAuth with
    | none => proxy
    | some (user, password) =>
      match Text.cutLastOn "://" proxy with
      | (none, host) => user ++ ":" ++ password ++ "@" ++ host
      | (some scheme, host) => scheme ++ "://" ++ user ++ ":" ++ password ++ "@" ++ host

def authArgument (r : Request) : List Code :=
  match r.auth with
  | .basic user password => ["auth=" ++ Code.call "" [lit user, lit password]]
  | .digest user password => ["auth=" ++ Code.call "HTTPDigestAuth" [lit user, lit password]]
  | _ => []

def certArgument (r : Request) : List Code :=
  match r.tls.cert, r.tls.key with
  | some cert, some key => ["cert=" ++ Code.call "" [lit cert, lit key]]
  | some cert, none => ["cert=" ++ lit cert]
  | none, _ => []

def verifyArgument (r : Request) : List Code :=
  if r.tls.insecure then ["verify=False"]
  else
    match r.tls.cacert with
    | some path => ["verify=" ++ lit path]
    | none => []

def timeoutArgument (r : Request) : List Code :=
  match r.connectTimeout, r.timeout with
  | some c, some t => ["timeout=(" ++ c.text ++ ", " ++ t.text ++ ")"]
  | some c, none => ["timeout=(" ++ c.text ++ ", None)"]
  | none, some t => ["timeout=" ++ t.text]
  | none, none => []

def redirectsArgument (r : Request) : List Code :=
  Code.when (r.followRedirects && r.method.name = "HEAD") "allow_redirects=True"

def arguments (r : Request) : List Code :=
  [lit r.url]
    ++ Code.when (r.cookies ≠ []) "cookies=cookies"
    ++ Code.when (headers r ≠ []) "headers=headers"
    ++ dataArgument (data r) ++ authArgument r
    ++ Code.when (proxyUrl? r).isSome "proxies=proxies"
    ++ certArgument r ++ verifyArgument r ++ timeoutArgument r ++ redirectsArgument r

def shortcuts : List String := ["GET", "POST", "PUT", "DELETE", "HEAD", "PATCH", "OPTIONS"]

def function (r : Request) : Code :=
  if shortcuts.contains r.method.name then "requests." ++ Text.lower r.method.name ++ "("
  else "requests.request(" ++ lit r.method.name ++ ", "

def call (r : Request) : Code :=
  "response = " ++ function r ++ Code.joined ", " (arguments r) ++ ")"

def imports (r : Request) : Code :=
  Code.lines (Code.when (data r matches .input) "import sys"
    ++ Code.when true "import requests"
    ++ Code.when (r.auth matches .digest _ _) "from requests.auth import HTTPDigestAuth")

def proxies (url : String) : Code := dict "proxies" (literals [("http", url), ("https", url)])

def code (r : Request) : Code :=
  Code.blocks ([imports r]
    ++ Code.when (r.cookies ≠ []) (dict "cookies" (literals r.cookies))
    ++ Code.when (headers r ≠ []) (dict "headers" (literals (headers r)))
    ++ dataBlock (data r) ++ (proxyUrl? r).toList.map proxies ++ [call r]) ++ "\n"

def notices (r : Request) : List Target.Notice :=
  Target.python.featureNotices r ++ r.mergeNotices .python
    ++ (if (proxyUrl? r).isNone && r.proxyAuth.isSome then [.proxyUserAlone] else [])
    ++ (if r.tls.cert.isNone && r.tls.key.isSome then [.keyAlone] else [])

def write (r : Request) : Noted Target.Notice Target.Fault String := do
  .note (notices r)
  return (code r).text Text.shown

end CurlScribe.RequestsScript
