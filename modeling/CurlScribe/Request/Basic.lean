import CurlScribe.Number.Binary64
import CurlScribe.Text.Basic
import CurlScribe.Text.Case

namespace CurlScribe

structure Method where
  name : String
  nonempty : name ≠ ""
  deriving DecidableEq

namespace Method

def ofString? (name : String) : Option Method := if h : name = "" then none else some ⟨name, h⟩

def get : Method := ⟨"GET", by decide⟩

def head : Method := ⟨"HEAD", by decide⟩

def post : Method := ⟨"POST", by decide⟩

def put : Method := ⟨"PUT", by decide⟩

end Method

inductive HttpVersion
  | v10
  | v11
  | v2
  | v2Prior
  | v3
  deriving DecidableEq

namespace HttpVersion

def name : HttpVersion → String
  | v10 => "1.0"
  | v11 => "1.1"
  | v2 => "2"
  | v2Prior => "2-prior-knowledge"
  | v3 => "3"

def ofString? (s : String) : Option HttpVersion := [v10, v11, v2, v2Prior, v3].find? (·.name = s)

end HttpVersion

/-- A part of a form. The path `-` is standard input. -/
structure Part where
  name : String
  value : Option String := none
  file : Option String := none
  filename : Option String := none
  contentType : Option String := none
  fromFile : Bool := false
  deriving DecidableEq

inductive Part.Source
  | text (value : Option String)
  | upload (path : String)
  | contents (path : Option String)
  deriving DecidableEq

namespace Part

def source (p : Part) : Source :=
  if p.fromFile then .contents p.file
  else
    match p.file with
    | some path => .upload path
    | none => .text p.value

def isUpload (p : Part) : Bool := p.source matches .upload _

def isVoid (p : Part) : Bool := p.source matches .text none || p.source matches .contents none

end Part

/-- The body of a request. A raw one is sent as it is, or read from a file; an urlencoded one has
the fields of a form in it. -/
inductive Body
  | none
  | raw (data : String) (file : Option String)
  | urlencoded (text : String) (fields : List (String × String))
  | multipart (parts : List Part)
  deriving DecidableEq

inductive Auth
  | none
  | basic (user password : String)
  | bearer (token : String)
  | digest (user password : String)
  deriving DecidableEq

structure Tls where
  insecure : Bool := false
  cert : Option String := none
  key : Option String := none
  cacert : Option String := none
  deriving DecidableEq

structure Request where
  method : Method
  url : String
  headers : List (String × String) := []
  body : Body := .none
  auth : Auth := .none
  cookies : List (String × String) := []
  cookieJar : Option String := none
  tls : Tls := {}
  proxy : Option String := none
  proxyAuth : Option (String × String) := none
  followRedirects : Bool := false
  maxRedirects : Option Int := none
  timeout : Option Binary64 := none
  connectTimeout : Option Binary64 := none
  compressed : Bool := false
  httpVersion : Option HttpVersion := none
  uploadFile : Option String := none
  deriving DecidableEq

def formType : String := "application/x-www-form-urlencoded"

def lastHeader? (headers : List (String × String)) (name : String) : Option String :=
  (headers.findRev? fun (key, _) => Text.lower key = Text.lower name).map (·.2)

namespace Request

def header? (r : Request) (name : String) : Option String := lastHeader? r.headers name

def hasHeader (r : Request) (name : String) : Bool := (r.header? name).isSome

def bodyType? (r : Request) : Option String :=
  match r.body with
  | .raw _ _ => some formType
  | .urlencoded _ _ => some formType
  | _ => none

def contentType? (r : Request) : Option String := (r.header? "content-type").or r.bodyType?

def impliedType? (r : Request) : Option String :=
  if r.hasHeader "content-type" then none else r.bodyType?

def hasBody (r : Request) : Bool := r.body ≠ .none

def cookieHeader (r : Request) : String :=
  Text.joined "; " (r.cookies.map fun (name, value) => name ++ "=" ++ value)

end Request

end CurlScribe
