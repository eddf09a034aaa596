import CurlScribe.Json.Basic
import CurlScribe.Target.Code
import CurlScribe.Target.Header
import CurlScribe.Target.Proxy

namespace CurlScribe.GoProgram

open Code (lit line)

def fatal : List Code := ["\tif err != nil \x7b", "\t\tlog.Fatal(err)", "\t\x7d"]

def step (name : String) (value : Code) : List Code :=
  ("\t" ++ name ++ ", err := " ++ value) :: fatal

def guarded (step : Code) : List Code :=
  ["\tif " ++ step ++ "; err != nil \x7b", "\t\tlog.Fatal(err)", "\t\x7d"]

def proxyText (proxy : String) (user : Option (String × String)) : String :=
  match user with
  | none => proxyUrl proxy
  | some (user, password) =>
    let (scheme, rest) := Text.cutOn "://" (proxyUrl proxy)
    scheme ++ "://" ++ user ++ ":" ++ password ++ "@" ++ rest.getD ""

def proxyLines (r : Request) : List Code :=
  match r.proxy with
  | none => []
  | some proxy => step "proxyURL" (Code.call "url.Parse" [lit (proxyText proxy r.proxyAuth)])

def transportFields (r : Request) : List Code :=
  Code.when r.tls.insecure "\t\tTLSClientConfig: &tls.Config\x7bInsecureSkipVerify: true\x7d,"
    ++ Code.when r.proxy.isSome "\t\tProxy: http.ProxyURL(proxyURL),"

def transportLines (r : Request) : List Code :=
  if transportFields r = [] then []
  else
    line "\ttransport := &http.Transport\x7b" ++ transportFields r ++ line "\t\x7d"

def clientFields (r : Request) (ms : Option Int) : List Code :=
  Code.when (transportFields r ≠ []) "Transport: transport"
    ++ (ms.map fun n => ("Timeout: " ++ toString n ++ " * time.Millisecond" : Code)).toList

def clientLines (r : Request) (ms : Option Int) : List Code :=
  proxyLines r ++ transportLines r
    ++ ["\tclient := &http.Client\x7b" ++ Code.joined ", " (clientFields r ms) ++ "\x7d"]

def openLines (name path : String) : List Code :=
  if path = "-" then ["\t" ++ name ++ " := os.Stdin"]
  else step name (Code.call "os.Open" [lit path]) ++ line ("\tdefer " ++ name ++ ".Close()")

def partLines (p : Part) (n : Nat) : List Code :=
  let number := toString n
  match p.source with
  | .text value =>
    guarded ("err := " ++ Code.call "writer.WriteField" [lit p.name, Code.orNull "null" value])
  | .contents path =>
    step ("content" ++ number) (Code.call "os.ReadFile" [Code.orNull "null" path])
      ++ guarded ("err := "
        ++ Code.call "writer.WriteField" [lit p.name, "string(content" ++ number ++ ")"])
  | .upload path =>
    step ("part" ++ number) (Code.call "writer.CreateFormFile"
        [lit p.name, lit ((filled? p.filename).getD (baseName path))])
      ++ openLines ("file" ++ number) path
      ++ guarded ("_, err := " ++ Code.call "io.Copy" ["part" ++ number, "file" ++ number])

inductive Content
  | none
  | file (path : String)
  | text (text : String)
  | form (parts : List Part)

def content (r : Request) : Content :=
  match r.uploadFile with
  | some path => .file path
  | none =>
    match r.body with
    | .none => .none
    | .urlencoded text _ => .text text
    | .raw data none => .text data
    | .raw _ (some path) => .file path
    | .multipart parts => .form parts

def contentLines : Content → List Code
  | .none => []
  | .file path => openLines "data" path
  | .text text => ["\tvar data = " ++ Code.call "strings.NewReader" [lit text]]
  | .form parts =>
    line "\tform := new(bytes.Buffer)" ++ line "\twriter := multipart.NewWriter(form)"
      ++ (parts.zipIdx.flatMap fun (p, n) => partLines p n) ++ line "\twriter.Close()"

def reader : Content → Code
  | .none => "nil"
  | .file _ => "data"
  | .text _ => "data"
  | .form _ => "form"

def headerLine : HeaderStatement → Code
  | .replace name value => "\t" ++ Code.call "req.Header.Set" [lit name, lit value]
  | .append name value => "\t" ++ Code.call "req.Header.Add" [lit name, lit value]

def headers (r : Request) : List HeaderStatement := headerStatements [] r.allHeaders

def authLines (r : Request) : List Code :=
  match r.auth with
  | .basic user password => ["\t" ++ Code.call "req.SetBasicAuth" [lit user, lit password]]
  | _ => []

def requestLines (r : Request) : List Code :=
  step "req"
      (Code.call "http.NewRequest" [lit r.method.name, lit r.url, reader (content r)])
    ++ (headers r).map headerLine
    ++ Code.when (r.body matches .multipart _)
      "\treq.Header.Set(\"Content-Type\", writer.FormDataContentType())"
    ++ authLines r

def responseLines : List Code :=
  step "resp" "client.Do(req)" ++ line "\tdefer resp.Body.Close()"
    ++ step "bodyText" "io.ReadAll(resp.Body)" ++ line "\tfmt.Printf(\"%s\\n\", bodyText)"

def usesFiles : Content → Bool
  | .file _ => true
  | .form parts => parts.any fun p => !(p.source matches .text _)
  | _ => false

def imports (r : Request) : List String :=
  (["fmt", "io", "log", "net/http"]
    ++ (if r.tls.insecure then ["crypto/tls"] else [])
    ++ (if r.proxy.isSome then ["net/url"] else [])
    ++ (if r.timeout.isSome then ["time"] else [])
    ++ (if usesFiles (content r) then ["os"] else [])
    ++ (if content r matches .text _ then ["strings"] else [])
    ++ (if content r matches .form _ then ["bytes", "mime/multipart"] else [])).mergeSort (· ≤ ·)

def importLine (package : String) : Code := "\t\"" ++ package ++ "\""

def code (r : Request) (ms : Option Int) : Code :=
  "package main\n\nimport (\n" ++ Code.lines ((imports r).map importLine)
    ++ "\n)\n\nfunc main() \x7b\n"
    ++ Code.lines (clientLines r ms ++ contentLines (content r) ++ requestLines r ++ responseLines)
    ++ "\n\x7d\n"

def partNotices : Content → List Target.Notice
  | .form parts =>
    (parts.filter fun p => p.isUpload && (filled? p.contentType).isSome).map (.partTypeInGo ·.name)
  | _ => []

def write (r : Request) : Noted Target.Notice Target.Fault String := do
  .note (Target.go.featureNotices r ++ r.proxyUserNotices)
  let ms ← .ofExcept (r.timeout.mapM milliseconds)
  .note (partNotices (content r))
  return (code r ms).text (Json.quoted false)

end CurlScribe.GoProgram
