import CurlScribe.Json.Basic
import CurlScribe.Target.Header
import CurlScribe.Target.ObjectLiteral

namespace CurlScribe.FetchCall

open Code (lit)
open ObjectLiteral (object field literals)

inductive Platform
  | browser
  | node
  deriving DecidableEq

def Platform.target : Platform → Target
  | .browser => .javascript
  | .node => .node

def fileInput : Code := "document.querySelector('input[type=file]').files[0]"

def file (path : String) : Platform → Code
  | .browser => fileInput
  | .node => ObjectLiteral.readFile path

def fileText (path : Option String) : Platform → Code
  | .browser => "await " ++ fileInput ++ ".text()"
  | .node => ObjectLiteral.readText path

def partUpload (p : Part) (path : String) : Platform → Code
  | .browser => fileInput
  | .node =>
    Code.joined ", "
      (Code.call "fileFromSync" (lit path :: Code.literal? (filled? p.contentType))
        :: Code.literal? (filled? p.filename))

def partValue (platform : Platform) (p : Part) : Code :=
  match p.source with
  | .text value => Code.orNull "null" value
  | .upload path => partUpload p path platform
  | .contents path => fileText path platform

def appendPart (platform : Platform) (p : Part) : Code :=
  Code.call "form.append" [lit p.name, partValue platform p] ++ ";"

inductive Content
  | none
  | file (path : String)
  | text (text : String)
  | form (parts : List Part)

def content (r : Request) : Content :=
  match r.uploadFile with
  | some path => .file path
  | none =>
    match r.body with
    | .none => .none
    | .urlencoded text _ => .text text
    | .raw data none => .text data
    | .raw _ (some path) => .file path
    | .multipart parts => .form parts

def contentField (platform : Platform) : Content → List (String × Code)
  | .none => []
  | .file path => [("body", FetchCall.file path platform)]
  | .text text => [("body", lit text)]
  | .form _ => [("body", "form")]

def basicHeader (platform : Platform) (user password : String) : Code :=
  let credentials := lit (user ++ ":" ++ password)
  match platform with
  | .browser => "'Basic ' + " ++ Code.call "btoa" [credentials]
  | .node => "'Basic ' + " ++ Code.call "Buffer.from" [credentials] ++ ".toString('base64')"

def headers (platform : Platform) (r : Request) : List (String × Code) :=
  literals (r.mergedHeaders ++ r.typeHeader ++ r.cookieHeaders ++ r.bearerHeader)
    ++ match r.auth with
      | .basic user password => [("Authorization", basicHeader platform user password)]
      | _ => []

def hasAgent (platform : Platform) (r : Request) : Bool := platform = .node && r.tls.insecure

def options (platform : Platform) (r : Request) (ms : Option Int) : List (String × Code) :=
  field (r.method.name ≠ "GET") "method" (lit r.method.name)
    ++ field (headers platform r ≠ []) "headers" (object 2 (headers platform r))
    ++ contentField platform (content r)
    ++ (ms.map fun n => ("signal", Code.call "AbortSignal.timeout" [toString n])).toList
    ++ field (hasAgent platform r) "agent" ObjectLiteral.trustingAgent

def call (platform : Platform) (r : Request) (ms : Option Int) : Code :=
  let options := options platform r ms
  Code.call "fetch" (lit r.url :: Code.when (options ≠ []) (object 1 options)) ++ ";"

def preamble (platform : Platform) : Content → List Code
  | .form parts =>
    [Code.lines (("const form = new FormData();" : String) :: parts.map (appendPart platform))]
  | _ => []

def readsFile : Content → Bool
  | .file _ => true
  | .form parts => parts.any (·.source matches .contents _)
  | _ => false

def fetchImport : Content → Code
  | .form parts =>
    if parts.any (·.isUpload) then
      "import fetch, \x7b FormData, fileFromSync \x7d from 'node-fetch';"
    else "import fetch, \x7b FormData \x7d from 'node-fetch';"
  | _ => "import fetch from 'node-fetch';"

def imports (platform : Platform) (r : Request) : List Code :=
  match platform with
  | .browser => []
  | .node =>
    [Code.lines (fetchImport (content r)
      :: Code.when (readsFile (content r)) "import fs from 'fs';"
      ++ Code.when r.tls.insecure "import https from 'https';")]

def code (platform : Platform) (r : Request) (ms : Option Int) : Code :=
  Code.blocks (imports platform r ++ preamble platform (content r) ++ [call platform r ms]) ++ "\n"

def partFile? (p : Part) : Option String :=
  match p.source with
  | .text _ => none
  | .upload path => some path
  | .contents path => some (path.getD "None")

def files : Content → List String
  | .file path => [path]
  | .form parts => parts.filterMap partFile?
  | _ => []

def browserNotices (r : Request) : List Target.Notice :=
  (if r.cookies = [] then [] else [.cookieInBrowser])
    ++ (files (content r)).map .fileInBrowser

def notices (platform : Platform) (r : Request) : List Target.Notice :=
  platform.target.featureNotices r ++ r.mergeNotices platform.target
    ++ if platform = .browser then browserNotices r else []

def write (platform : Platform) (r : Request) : Noted Target.Notice Target.Fault String := do
  .note (notices platform r)
  let ms ← .ofExcept (r.timeout.mapM milliseconds)
  return (code platform r ms).text (Json.quoted true)

end CurlScribe.FetchCall
