import CurlScribe.Flag.Curl
import CurlScribe.Noted
import CurlScribe.Request.Credentials
import CurlScribe.Request.Data
import CurlScribe.Request.Form
import CurlScribe.Request.Header
import CurlScribe.Request.Location
import CurlScribe.Request.Transfer

/-!
The request that arguments describe. Only a missing or malformed URL, or a number of redirects
beyond all bounds, keeps there from being one; whatever else cannot be followed draws a notice.
-/

namespace CurlScribe.Request

inductive Payload
  | none
  | data (pieces : List (String × String))
  | forms (values : List (String × String))

def handledFlags : List String :=
  ["url", "request", "head", "get", "globoff", "upload-file", "header", "user-agent", "referer",
   "user", "auth-scheme", "oauth2-bearer", "cookie", "cookie-jar", "insecure", "cert", "key",
   "cacert", "proxy-user", "location", "location-trusted", "max-redirs", "max-time",
   "connect-timeout", "compressed", "http-version"] ++ dataFlags ++ formFlags ++ proxyFlags

def silentFlags : List String := (Flag.ofOutput ++ Flag.own).map (·.name)

def spelling (name : String) : String :=
  ((FlagTable.curl.find? name).bind (·.spellings.head?)).getD (Flag.longSpelling name)

def isGlob (c : Char) : Bool := c = '\x7b' || c = '\x7d' || c = '[' || c = ']'

def afterHost (url : String) : List Char :=
  ((Text.cutList '/' ((Text.cutOn "://" url).2.getD "").toList).2).getD []

end CurlScribe.Request

namespace CurlScribe.Arguments

open Request

variable (a : Arguments)

def urls : List String := a.texts "url" ++ a.operands

def locationNotices (l : Location) : List Request.Notice :=
  (if l.credentials.isSome then
      [if (a.text? "user").isSome then .credentialsRemoved else .credentialsMoved]
    else [])
    ++ if !a.isOn "globoff" && (afterHost l.url).any isGlob then [.globbing] else []

def location : Noted Request.Notice Request.Fault Location :=
  match a.urls with
  | [] => .fail .noUrl
  | url :: others => do
    .note (if others = [] then [] else [.severalUrls (others.length + 1) url])
    let l ← .ofExcept (locate url)
    .note (a.locationNotices l)
    return l

def unsupportedNotices : List Request.Notice :=
  (a.names.filter fun name => !handledFlags.contains name && !silentFlags.contains name).map
    (.unsupported <| spelling ·)

/-- Of data and forms, what was given last is sent. -/
def payload : Payload :=
  match a.lastOf? (dataFlags ++ formFlags) with
  | none => .none
  | some flag =>
    if formFlags.contains flag then .forms (a.textsOf formFlags) else .data (a.textsOf dataFlags)

def payloadNotices : List Request.Notice :=
  let both := a.textsOf dataFlags ≠ [] ∧ a.textsOf formFlags ≠ []
  match a.payload with
  | .none => []
  | .data _ => if both then [.dataOverForm] else []
  | .forms _ =>
    (if both then [.formOverData] else []) ++ if a.isOn "get" then [.formOverGet] else []

def sentHeaders : List (String × String) :=
  match a.payload with
  | .forms _ => withoutMultipartType a.headers
  | _ => a.headers

/-- The body. Data goes into the URL instead if a GET was asked for. -/
def body : Body :=
  match a.payload with
  | .none => .none
  | .data pieces => if a.isOn "get" then .none else dataBody pieces a.headers
  | .forms values => .multipart (formParts values)

def bodyNotices : List Request.Notice :=
  match a.payload with
  | .none => []
  | .data pieces => if a.isOn "get" then queryNotices pieces else dataNotices pieces
  | .forms values => formNotices values ++ multipartTypeNotices a.headers

def sentUrl (url : String) : String :=
  match a.payload with
  | .data pieces => if a.isOn "get" then Url.addQuery url (joinedData pieces) else url
  | _ => url

def uploadFile : Option String := if a.body = .none then a.text? "upload-file" else none

def uploadNotices : List Request.Notice :=
  if (a.text? "upload-file").isSome && a.body ≠ .none then [.bodyOverUpload] else []

def getsData : Bool := a.isOn "get" && !(a.body matches .multipart _)

def impliedMethod : Method :=
  if a.getsData then if a.isOn "head" then .head else .get
  else if a.uploadFile.isSome then .put
  else if a.body ≠ .none then .post
  else if a.isOn "head" then .head
  else .get

def explicitMethod : Option Method := (a.text? "request").bind Method.ofString?

def method : Method := a.explicitMethod.getD a.impliedMethod

def methodNotices : List Request.Notice :=
  if a.explicitMethod.isNone && !a.getsData && a.body ≠ .none && a.isOn "head" then [.bodyOverHead]
  else []

def requestTo (l : Location) : Request where
  method := a.method
  url := a.sentUrl l.url
  headers := a.sentHeaders
  body := a.body
  auth := a.auth l.credentials a.sentHeaders
  cookies := a.cookies
  cookieJar := a.text? "cookie-jar"
  tls := a.tls
  proxy := a.proxy
  proxyAuth := a.proxyAuth
  followRedirects := a.isOn "location" || a.isOn "location-trusted"
  timeout := a.number? Numeral.finite? "max-time"
  connectTimeout := a.number? Numeral.finite? "connect-timeout"
  compressed := a.isOn "compressed"
  httpVersion := (a.text? "http-version").bind HttpVersion.ofString?
  uploadFile := a.uploadFile

def request : Noted Request.Notice Request.Fault Request := do
  let l ← a.location
  .note (a.unsupportedNotices ++ a.headerNotices ++ a.payloadNotices ++ a.bodyNotices
    ++ a.uploadNotices ++ a.authNotices l.credentials a.sentHeaders ++ a.methodNotices
    ++ a.cookieNotices ++ a.proxyNotices ++ a.numberNotices Numeral.integer? "max-redirs")
  let redirects ← .ofExcept a.maxRedirects
  .note (a.numberNotices Numeral.finite? "max-time"
    ++ a.numberNotices Numeral.finite? "connect-timeout")
  return { a.requestTo l with maxRedirects := redirects }

end CurlScribe.Arguments
