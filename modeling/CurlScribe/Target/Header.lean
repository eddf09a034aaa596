import CurlScribe.Target.Basic

namespace CurlScribe

def addHeader : List (String × String) → String × String → List (String × String)
  | [], header => [header]
  | (first, value) :: rest, (name, more) =>
    if Text.lower first = Text.lower name then (first, value ++ ", " ++ more) :: rest
    else (first, value) :: addHeader rest (name, more)

def mergeHeaders (headers : List (String × String)) : List (String × String) :=
  headers.foldl addHeader []

def repeatedNames (seen : List String) : List (String × String) → List String
  | [] => []
  | (name, _) :: rest =>
    if seen.contains (Text.lower name) then name :: repeatedNames seen rest
    else repeatedNames (Text.lower name :: seen) rest

namespace Request

def mergedHeaders (r : Request) : List (String × String) := mergeHeaders r.headers

def mergeNotices (t : Target) (r : Request) : List Target.Notice :=
  (repeatedNames [] r.headers).map (.headersJoined t)

def typeHeader (r : Request) : List (String × String) :=
  (r.impliedType?.map ("Content-Type", ·)).toList

def cookieHeaders (r : Request) : List (String × String) :=
  if r.cookies = [] then [] else [("Cookie", r.cookieHeader)]

def bearerHeader (r : Request) : List (String × String) :=
  match r.auth with
  | .bearer token => [("Authorization", "Bearer " ++ token)]
  | _ => []

def allHeaders (r : Request) : List (String × String) :=
  r.headers ++ r.typeHeader ++ r.cookieHeaders ++ r.bearerHeader

def proxyUserNotices (r : Request) : List Target.Notice :=
  if r.proxy.isNone && r.proxyAuth.isSome then [.proxyUserAlone] else []

end Request

inductive HeaderStatement
  | replace (name value : String)
  | append (name value : String)
  deriving DecidableEq

/-- Statements that give each name all of its values. `seen` has the names so far in lower case. -/
def headerStatements (seen : List String) : List (String × String) → List HeaderStatement
  | [] => []
  | (name, value) :: rest =>
    if seen.contains (Text.lower name) then .append name value :: headerStatements seen rest
    else .replace name value :: headerStatements (Text.lower name :: seen) rest

def baseName (path : String) : String := (Text.cutLast '/' path).2

def filled? (s : Option String) : Option String := s.filter (· ≠ "")

def milliseconds (time : Binary64) : Except Target.Fault Int :=
  match time.times? 1000 with
  | some ms => .ok ms.round
  | none => .error (.tooLong time)

end CurlScribe
