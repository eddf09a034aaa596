import CurlScribe.Json.Basic
import CurlScribe.Target.FetchCall
import CurlScribe.Target.Proxy

namespace CurlScribe.AxiosCall

open Code (lit)
open FetchCall (Content content)
open ObjectLiteral (object field literals)

def readStream (path : String) : Code := Code.call "fs.createReadStream" [lit path]

def uploadOptions (p : Part) : List (String × Code) :=
  ((filled? p.filename).map fun name => ("filename", lit name)).toList
    ++ ((filled? p.contentType).map fun type => ("contentType", lit type)).toList

def partValue (p : Part) : Code :=
  match p.file with
  | none => Code.orNull "null" p.value
  | some path =>
    if p.fromFile then "fs.readFileSync(" ++ lit path ++ ", 'utf8')"
    else
      Code.joined ", "
        (readStream path :: Code.when (uploadOptions p ≠ []) (object 1 (uploadOptions p)))

def appendPart (p : Part) : Code :=
  Code.call "form.append" [lit p.name, partValue p] ++ ";"

def headers (r : Request) : List (String × Code) :=
  literals (r.mergedHeaders ++ r.typeHeader ++ r.cookieHeaders ++ r.bearerHeader)

def data (r : Request) : List (String × Code) :=
  match r.uploadFile with
  | some path => [("data", readStream path)]
  | none =>
    match content r with
    | .none => []
    | .text text => [("data", lit text)]
    | .file path => [("data", ObjectLiteral.readFile path)]
    | .form _ => [("data", "form")]

def login (level : Nat) (user password : String) : Code :=
  object level (literals [("username", user), ("password", password)])

def auth (r : Request) : List (String × Code) :=
  match r.auth with
  | .basic user password => [("auth", login 2 user password)]
  | _ => []

def defaultPort (scheme : String) : Nat :=
  if scheme = "http" then 80 else if scheme = "https" then 443 else 1080

def proxy (r : Request) (p : ProxyAddress) : Code :=
  object 2 ([("protocol", lit p.scheme), ("host", lit p.host),
    ("port", (toString (p.port.getD (defaultPort p.scheme)) : String))]
    ++ (r.proxyAuth.map fun (user, password) => ("auth", login 3 user password)).toList)

def config (r : Request) (ms : Option Int) (address : Option ProxyAddress) :
    List (String × Code) :=
  [("method", lit (Text.lower r.method.name)), ("url", lit r.url)]
    ++ field (headers r ≠ []) "headers" (object 2 (headers r))
    ++ data r ++ auth r
    ++ (ms.map fun n => ("timeout", (toString n : Code))).toList
    ++ (if r.followRedirects then
        (r.maxRedirects.map fun n => ("maxRedirects", (toString n : Code))).toList
      else [])
    ++ field r.tls.insecure "httpsAgent" ObjectLiteral.trustingAgent
    ++ (address.map fun p => ("proxy", proxy r p)).toList

def preamble (r : Request) : List Code :=
  match content r with
  | .form parts =>
    [Code.lines (("const form = new FormData();" : String) :: parts.map appendPart)]
  | _ => []

def usesFiles : Content → Bool
  | .file _ => true
  | .form parts => parts.any (·.file.isSome)
  | _ => false

def imports (r : Request) : Code :=
  Code.lines (Code.when true "import axios from 'axios';"
    ++ Code.when (content r matches .form _) "import FormData from 'form-data';"
    ++ Code.when (usesFiles (content r)) "import fs from 'fs';"
    ++ Code.when r.tls.insecure "import https from 'https';")

def code (r : Request) (ms : Option Int) (address : Option ProxyAddress) : Code :=
  Code.blocks ([imports r] ++ preamble r
    ++ ["const response = await " ++ Code.call "axios" [object 1 (config r ms address)] ++ ";"])
    ++ "\n"

def portNotices (r : Request) (address : Option ProxyAddress) : List Target.Notice :=
  match r.proxy, address with
  | some proxy, some p => if p.goodPort then [] else [.proxyPortDefault proxy]
  | _, _ => []

def write (r : Request) : Noted Target.Notice Target.Fault String := do
  .note (Target.nodeAxios.featureNotices r ++ r.mergeNotices .nodeAxios)
  let ms ← .ofExcept (r.timeout.mapM milliseconds)
  let address ← .ofExcept (r.proxy.mapM ProxyAddress.ofString)
  .note (portNotices r address ++ r.proxyUserNotices)
  return (code r ms address).text (Json.quoted true)

end CurlScribe.AxiosCall
