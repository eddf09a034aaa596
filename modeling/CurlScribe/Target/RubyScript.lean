import CurlScribe.Number.Shortest
import CurlScribe.Target.Code
import CurlScribe.Target.Header
import CurlScribe.Target.Proxy

namespace CurlScribe.RubyScript

open Code (lit line)

def readFile (path : String) : Code :=
  if path = "-" then "STDIN.read" else Code.call "File.read" [lit path]

def openFile (path : String) : Code :=
  if path = "-" then "STDIN" else Code.call "File.open" [lit path]

def classes : List (String × String) :=
  [("GET", "Get"), ("HEAD", "Head"), ("POST", "Post"), ("PUT", "Put"), ("DELETE", "Delete"),
   ("PATCH", "Patch"), ("OPTIONS", "Options"), ("TRACE", "Trace")]

def requestLine (r : Request) : Code :=
  match classes.lookup r.method.name with
  | some name => "req = " ++ Code.call ("Net::HTTP::" ++ name ++ ".new") ["uri"]
  | none =>
    "req = " ++ Code.call "Net::HTTPGenericRequest.new"
      [lit r.method.name, if r.hasBody || r.uploadFile.isSome then "true" else "false", "true",
       "uri"]

def headerLine : HeaderStatement → Code
  | .replace name value => "req[" ++ lit name ++ "] = " ++ lit value
  | .append name value => Code.call "req.add_field" [lit name, lit value]

def headers (r : Request) : List HeaderStatement := headerStatements [] r.allHeaders

def authLines (r : Request) : List Code :=
  match r.auth with
  | .basic user password => ["req.basic_auth " ++ lit user ++ ", " ++ lit password]
  | _ => []

def hash (entries : List Code) : List Code :=
  Code.when (entries ≠ []) ("\x7b " ++ Code.joined ", " entries ++ " \x7d")

def entry (name : String) (value : Option String) : List Code :=
  (value.map fun v => name ++ ": " ++ lit v).toList

def part (p : Part) : Code :=
  let type := entry "content_type" (filled? p.contentType)
  let items : List Code :=
    match p.source with
    | .contents path => [path.elim ("nil" : Code) readFile]
    | .text value => Code.orNull "nil" value :: hash type
    | .upload path => openFile path :: hash (entry "filename" (filled? p.filename) ++ type)
  "[" ++ Code.joined ", " (lit p.name :: items) ++ "]"

def bodyLines (r : Request) : List Code :=
  match r.uploadFile with
  | some path => ["req.body = " ++ readFile path]
  | none =>
    match r.body with
    | .none => []
    | .urlencoded text _ => ["req.body = " ++ lit text]
    | .raw data none => ["req.body = " ++ lit data]
    | .raw _ (some path) => ["req.body = " ++ readFile path]
    | .multipart parts =>
      line "req.set_form(" ++ line "  [" ++ parts.map (fun p => "    " ++ part p ++ ",")
        ++ line "  ]," ++ line "  'multipart/form-data'" ++ line ")"

def option (wanted : Bool) (name : String) (value : Code) : List Code :=
  Code.when wanted ("  " ++ name ++ ": " ++ value ++ ",")

def fileOption (name function : String) (path : Option String) : List Code :=
  (path.map fun path =>
    "  " ++ name ++ ": " ++ Code.call function [Code.call "File.read" [lit path]] ++ ",").toList

def optionLines (r : Request) : List Code :=
  option true "use_ssl" "uri.scheme == 'https'"
    ++ option r.tls.insecure "verify_mode" "OpenSSL::SSL::VERIFY_NONE"
    ++ fileOption "cert" "OpenSSL::X509::Certificate.new" r.tls.cert
    ++ fileOption "key" "OpenSSL::PKey.read" r.tls.key
    ++ (r.tls.cacert.map fun path => "  ca_file: " ++ lit path ++ ",").toList
    ++ (r.timeout.map fun t => ("  read_timeout: " ++ t.text ++ "," : Code)).toList
    ++ (r.connectTimeout.map fun t => ("  open_timeout: " ++ t.text ++ "," : Code)).toList

def usesOpenSsl (r : Request) : Bool := r.tls.insecure || r.tls.cert.isSome || r.tls.key.isSome

def proxyArguments (r : Request) (address : Option ProxyAddress) : List Code :=
  match address with
  | none => []
  | some p =>
    [lit p.host, (toString (p.port.getD 1080) : String)]
      ++ match r.proxyAuth with
        | none => []
        | some (user, password) => [lit user, lit password]

def startLine (r : Request) (address : Option ProxyAddress) : Code :=
  "res = " ++ Code.call "Net::HTTP.start"
    (line "uri.hostname" ++ line "uri.port" ++ proxyArguments r address ++ line "req_options")
    ++ " do |http|"

def requireLines (r : Request) : List Code :=
  line "require 'net/http'" ++ Code.when (usesOpenSsl r) "require 'openssl'"

def code (r : Request) (address : Option ProxyAddress) : Code :=
  Code.lines (requireLines r) ++ "\n\n"
    ++ Code.lines (line ("uri = " ++ Code.call "URI" [lit r.url]) ++ line (requestLine r)
      ++ (headers r).map headerLine ++ authLines r
      ++ Code.when (bodyLines r ≠ []) [] ++ bodyLines r
      ++ line [] ++ line "req_options = \x7b" ++ optionLines r ++ line "\x7d"
      ++ line (startLine r address) ++ line "  http.request(req)" ++ line "end")
    ++ "\n"

def schemeNotices (p : ProxyAddress) : List Target.Notice :=
  if p.scheme = "http" || p.scheme = "https" then [] else [.proxyAsHttp p.scheme]

def proxyNotices (r : Request) (address : Option ProxyAddress) : List Target.Notice :=
  match r.proxy, address with
  | some proxy, some p =>
    schemeNotices p ++ if p.goodPort then [] else [.proxyPortAssumed proxy]
  | _, _ => r.proxyUserNotices

def write (r : Request) : Noted Target.Notice Target.Fault String := do
  .note (Target.ruby.featureNotices r)
  .ofExcept r.checkParts
  let address ← .ofExcept (r.proxy.mapM ProxyAddress.ofString)
  .note (proxyNotices r address)
  return (code r address).text apostrophed

end CurlScribe.RubyScript
