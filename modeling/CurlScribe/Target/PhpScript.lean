import CurlScribe.Target.Code
import CurlScribe.Target.Fields
import CurlScribe.Target.Header

namespace CurlScribe.PhpScript

open Code (lit)

def file (path : String) : Code := lit (if path = "-" then "php://stdin" else path)

def option (name : String) (value : Code) : String × Code := ("CURLOPT_" ++ name, value)

def literal? (name : String) (value : Option String) : List (String × Code) :=
  (value.map fun v => option name (lit v)).toList

def constant (wanted : Bool) (name value : String) : List (String × Code) :=
  if wanted then [option name value] else []

def versionName : HttpVersion → String
  | .v10 => "CURL_HTTP_VERSION_1_0"
  | .v11 => "CURL_HTTP_VERSION_1_1"
  | .v2 => "CURL_HTTP_VERSION_2_0"
  | .v2Prior => "CURL_HTTP_VERSION_2_PRIOR_KNOWLEDGE"
  | .v3 => "CURL_HTTP_VERSION_3"

def methodOptions (r : Request) : List (String × Code) :=
  if r.method.name = "HEAD" then [option "NOBODY" "true"]
  else if r.method.name = "GET" then []
  else [option "CUSTOMREQUEST" (lit r.method.name)]

def array (items : List Code) : Code :=
  "[\n" ++ Code.joined "" (items.map fun item => "    " ++ item ++ ",\n") ++ "]"

def headerLine (header : String × String) : String := header.1 ++ ": " ++ header.2

def headerOptions (r : Request) : List (String × Code) :=
  if r.headers = [] then []
  else [option "HTTPHEADER" (array (r.headers.map fun h => lit (headerLine h)))]

def cookieOptions (r : Request) : List (String × Code) :=
  (if r.cookies = [] then [] else [option "COOKIE" (lit r.cookieHeader)])
    ++ literal? "COOKIEJAR" r.cookieJar

def authOptions (r : Request) : List (String × Code) :=
  match r.auth with
  | .none => []
  | .basic user password => [option "USERPWD" (lit (user ++ ":" ++ password))]
  | .digest user password =>
    [option "USERPWD" (lit (user ++ ":" ++ password)), option "HTTPAUTH" "CURLAUTH_DIGEST"]
  | .bearer token => [option "HTTPAUTH" "CURLAUTH_BEARER", option "XOAUTH2_BEARER" (lit token)]

def upload (p : Part) (path : String) : Code :=
  let type := lit (p.contentType.getD "")
  "new " ++ Code.call "CURLFile" (match filled? p.contentType, filled? p.filename with
    | none, none => [lit path]
    | some _, none => [lit path, type]
    | _, some name => [lit path, type, lit name])

def partValue (p : Part) : Code :=
  match p.source with
  | .text value => Code.orNull "null" value
  | .upload path => upload p path
  | .contents path => Code.call "file_get_contents" [path.elim ("null" : Code) file]

def multipart (parts : List Part) : Code :=
  array ((Fields.ofItems (parts.map fun p => (p.name, partValue p))).map fun (name, value) =>
    lit name ++ " => " ++ value)

def bodyOptions (r : Request) : List (String × Code) :=
  match r.uploadFile with
  | some path =>
    [option "UPLOAD" "true", option "INFILE" (Code.call "fopen" [file path, "'r'"])]
      ++ if path = "-" then [] else [option "INFILESIZE" (Code.call "filesize" [lit path])]
  | none =>
    match r.body with
    | .none => []
    | .urlencoded text _ => [option "POSTFIELDS" (lit text)]
    | .raw data none => [option "POSTFIELDS" (lit data)]
    | .raw _ (some path) =>
      [option "POSTFIELDS" (Code.call "file_get_contents" [file path])]
    | .multipart parts => [option "POSTFIELDS" (multipart parts)]

def transferOptions (r : Request) (ms connectMs : Option Int) : List (String × Code) :=
  literal? "PROXY" r.proxy
    ++ literal? "PROXYUSERPWD" (r.proxyAuth.map fun (user, password) => user ++ ":" ++ password)
    ++ constant r.tls.insecure "SSL_VERIFYPEER" "false"
    ++ constant r.tls.insecure "SSL_VERIFYHOST" "false"
    ++ literal? "SSLCERT" r.tls.cert ++ literal? "SSLKEY" r.tls.key
    ++ literal? "CAINFO" r.tls.cacert
    ++ constant r.followRedirects "FOLLOWLOCATION" "true"
    ++ (r.maxRedirects.map fun n => option "MAXREDIRS" (toString n)).toList
    ++ (ms.map fun n => option "TIMEOUT_MS" (toString n)).toList
    ++ (connectMs.map fun n => option "CONNECTTIMEOUT_MS" (toString n)).toList
    ++ constant r.compressed "ENCODING" "''"
    ++ (r.httpVersion.map fun v => option "HTTP_VERSION" (versionName v)).toList

def options (r : Request) (ms connectMs : Option Int) : List (String × Code) :=
  [option "URL" (lit r.url)] ++ methodOptions r ++ [option "RETURNTRANSFER" "true"]
    ++ headerOptions r ++ cookieOptions r ++ authOptions r ++ bodyOptions r
    ++ transferOptions r ms connectMs

def setLine (o : String × Code) : Code :=
  Code.call "curl_setopt" ["$ch", o.1, o.2] ++ ";\n"

def code (r : Request) (ms connectMs : Option Int) : Code :=
  "<?php\n$ch = curl_init();\n" ++ Code.joined "" ((options r ms connectMs).map setLine)
    ++ "\n$response = curl_exec($ch);\n\ncurl_close($ch);\n"

def partNotices (seen : List String) : List Part → List Target.Notice
  | [] => []
  | p :: rest =>
    (if seen.contains p.name then [.fieldTwiceInPhp p.name] else [])
      ++ (if p.source matches .text _ && (filled? p.contentType).isSome then
          [.partTypeInPhp p.name]
        else [])
      ++ partNotices (p.name :: seen) rest

def bodyNotices (r : Request) : List Target.Notice :=
  match r.uploadFile, r.body with
  | none, .multipart parts => partNotices [] parts
  | _, _ => []

def write (r : Request) : Noted Target.Notice Target.Fault String := do
  .note (Target.php.featureNotices r ++ bodyNotices r)
  .ofExcept r.checkParts
  let ms ← .ofExcept (r.timeout.mapM milliseconds)
  let connectMs ← .ofExcept (r.connectTimeout.mapM milliseconds)
  return (code r ms connectMs).text apostrophed

end CurlScribe.PhpScript
