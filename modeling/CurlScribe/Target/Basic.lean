import CurlScribe.Noted
import CurlScribe.Request.Basic
import CurlScribe.Url.Split

namespace CurlScribe

inductive Target
  | ansible
  | go
  | javascript
  | json
  | node
  | nodeAxios
  | php
  | python
  | ruby
  | strest
  deriving DecidableEq

namespace Target

def all : List Target :=
  [ansible, go, javascript, json, node, nodeAxios, php, python, ruby, strest]

def key : Target → String
  | ansible => "ansible"
  | go => "go"
  | javascript => "javascript"
  | json => "json"
  | node => "node"
  | nodeAxios => "node-axios"
  | php => "php"
  | python => "python"
  | ruby => "ruby"
  | strest => "strest"

def aliases : List (String × Target) :=
  [("browser", javascript), ("javascript-axios", nodeAxios), ("node-fetch", node)]

def keys : List String := all.map key ++ aliases.map (·.1)

def ofKey? (k : String) : Option Target := (aliases.lookup k).or (all.find? (·.key = k))

end Target

inductive Feature
  | cookieJar
  | proxy
  | proxyAuth
  | insecure
  | cert
  | cacert
  | followRedirects
  | maxRedirects
  | timeout
  | connectTimeout
  | compressed
  | httpVersion
  | uploadFile
  | digest
  deriving DecidableEq

namespace Feature

def all : List Feature :=
  [cookieJar, proxy, proxyAuth, insecure, cert, cacert, followRedirects, maxRedirects, timeout,
   connectTimeout, compressed, httpVersion, uploadFile, digest]

def isUsedBy (r : Request) : Feature → Bool
  | cookieJar => r.cookieJar.isSome
  | proxy => r.proxy.isSome
  | proxyAuth => r.proxyAuth.isSome
  | insecure => r.tls.insecure
  | cert => r.tls.cert.isSome || r.tls.key.isSome
  | cacert => r.tls.cacert.isSome
  | followRedirects => r.followRedirects
  | maxRedirects => r.maxRedirects.isSome
  | timeout => r.timeout.isSome
  | connectTimeout => r.connectTimeout.isSome
  | compressed => r.compressed
  | httpVersion => r.httpVersion.any (· ≠ .v11)
  | uploadFile => r.uploadFile.isSome
  | digest => r.auth matches .digest _ _

def description : Feature → String
  | cookieJar => "saving cookies to a cookie jar (-c/--cookie-jar)"
  | proxy => "proxies (-x/--proxy)"
  | proxyAuth => "proxy credentials (-U/--proxy-user)"
  | insecure => "skipping certificate verification (-k/--insecure)"
  | cert => "client certificates (-E/--cert, --key)"
  | cacert => "custom CA certificates (--cacert)"
  | followRedirects => "following redirects (-L/--location)"
  | maxRedirects => "limiting redirects (--max-redirs)"
  | timeout => "timeouts (-m/--max-time)"
  | connectTimeout => "connect timeouts (--connect-timeout)"
  | compressed => "compressed responses (--compressed)"
  | httpVersion => "choosing the HTTP version"
  | uploadFile => "uploading files (-T/--upload-file)"
  | digest => "digest authentication (--digest)"

end Feature

namespace Target

def supported : Target → List Feature
  | ansible =>
    [.insecure, .cert, .cacert, .followRedirects, .timeout, .compressed, .uploadFile, .digest]
  | go =>
    [.proxy, .proxyAuth, .insecure, .followRedirects, .timeout, .compressed, .uploadFile]
  | javascript => [.followRedirects, .timeout, .compressed, .uploadFile]
  | json => Feature.all
  | node => [.followRedirects, .timeout, .compressed, .uploadFile, .insecure]
  | nodeAxios =>
    [.proxy, .proxyAuth, .insecure, .followRedirects, .maxRedirects, .timeout, .compressed,
     .uploadFile]
  | php => Feature.all
  | python =>
    [.proxy, .proxyAuth, .insecure, .cert, .cacert, .followRedirects, .timeout, .connectTimeout,
     .compressed, .uploadFile, .digest]
  | ruby =>
    [.proxy, .proxyAuth, .insecure, .cert, .cacert, .timeout, .connectTimeout, .compressed,
     .uploadFile]
  | strest => [.insecure, .digest]

inductive Fault
  | bodyFromInput
  | uploadFromInput
  | uploadOfFile
  | bodyFromFile
  | partFromFile
  | voidPart (name : String)
  | badUrl (reason : Url.Fault)
  | tooLong (time : Binary64)
  deriving DecidableEq

def Fault.message : Fault → String
  | .bodyFromInput => "the uri module can't read the request body from standard input"
  | .uploadFromInput => "the uri module can't upload a file from standard input"
  | .uploadOfFile => "a strest file can't send the contents of a local file"
  | .bodyFromFile => "a strest file can't send a body read from a file or standard input"
  | .partFromFile => "a strest file can't upload local files"
  | .voidPart name => "the form field " ++ name ++ " has no value"
  | .badUrl reason => reason.message
  | .tooLong _ => "cannot convert float infinity to integer"

inductive Notice
  | unsupported (target : Target) (feature : Feature)
  | headersJoined (target : Target) (name : String)
  | proxyUserAlone
  | keyAlone
  | cookieInBrowser
  | fileInBrowser (path : String)
  | proxyPortDefault (proxy : String)
  | proxyPortAssumed (proxy : String)
  | proxyAsHttp (scheme : String)
  | partTypeInGo (name : String)
  | partTypeInPhp (name : String)
  | fieldTwiceInPhp (name : String)
  | fieldTwiceInAnsible (name : String)
  | digestAsBasic
  deriving DecidableEq

def Notice.message : Notice → String
  | .unsupported target feature =>
    target.key ++ " doesn't support " ++ feature.description ++ ", it was ignored"
  | .headersJoined target name =>
    target.key ++ " can't send the " ++ name ++ " header twice; the values were joined with ', '"
  | .proxyUserAlone => "--proxy-user was given without a proxy, it was ignored"
  | .keyAlone => "--key was given without --cert, it was ignored"
  | .cookieInBrowser =>
    "browsers don't let fetch() set the Cookie header; it is only sent outside a browser"
  | .fileInBrowser path =>
    "a browser can't read " ++ (if path = "-" then "standard input" else path)
      ++ " from disk; the code takes the file from a file <input> instead"
  | .proxyPortDefault proxy =>
    "the proxy port in " ++ proxy ++ " isn't a number, the default port is used"
  | .proxyPortAssumed proxy =>
    "the proxy port in " ++ proxy ++ " isn't a number, port 1080 is used"
  | .proxyAsHttp scheme =>
    "net/http only speaks to HTTP proxies, the " ++ scheme ++ " proxy is used as one"
  | .partTypeInGo name =>
    "the Content-Type of form field " ++ name ++ " isn't supported in Go, it was ignored"
  | .partTypeInPhp name =>
    "the Content-Type of form field " ++ name ++ " can't be set in PHP, it was ignored"
  | .fieldTwiceInPhp name =>
    "a PHP array can't hold the form field " ++ name ++ " twice; only the last one is kept"
  | .fieldTwiceInAnsible name =>
    "the uri module can't send the form field " ++ name ++ " twice; only the last one is kept"
  | .digestAsBasic => "strest only does basic auth; the digest credentials are sent as basic auth"

def featureNotices (t : Target) (r : Request) : List Notice :=
  (Feature.all.filter fun f => !t.supported.contains f && f.isUsedBy r).map (.unsupported t)

end Target

def Request.checkParts (r : Request) : Except Target.Fault Unit :=
  match r.uploadFile, r.body with
  | none, .multipart parts =>
    match parts.find? (·.isVoid) with
    | some p => .error (.voidPart p.name)
    | none => .ok ()
  | _, _ => .ok ()

end CurlScribe
