import CurlScribe.Request.Notice
import CurlScribe.Url.Percent

namespace CurlScribe.Request

structure Location where
  url : String
  credentials : Option (String × String)

def isForbidden (c : Char) : Bool := c.toNat ≤ 0x20 || c = '\x7f'

def hasScheme (s : List Char) : Bool :=
  let (scheme, rest) := Url.cutScheme s
  scheme ≠ [] && ['/', '/'].isPrefixOf rest

def withScheme (s : List Char) : List Char := if hasScheme s then s else "http://".toList ++ s

def withoutCredentials (u : Url) (s : List Char) : List Char :=
  u.scheme ++ "://".toList ++ Url.hostPart u.authority
    ++ s.drop (u.scheme.length + 3 + u.authority.length)

def credentials? (u : Url) : Option (String × String) :=
  (Text.cutLastList '@' u.authority).1.map fun userinfo =>
    let (user, password) := Text.cutList ':' userinfo
    (.ofList (Url.percentDecode user), .ofList (Url.percentDecode (password.getD [])))

/-- The location that a text gives. It must have a host and, if any, a good port. -/
def locate (raw : String) : Except Fault Location := do
  if raw = "" || raw.toList.any isForbidden then .error (.malformedUrl raw none)
  let s := withScheme raw.toList
  let u ← (Url.ofList s).mapError (.malformedUrl raw ∘ some)
  let _ ← u.port?.mapError (.malformedUrl raw ∘ some)
  if u.scheme = [] || u.host? = none then .error (.malformedUrl raw none)
  match credentials? u with
  | none => return ⟨.ofList s, none⟩
  | some c => return ⟨.ofList (withoutCredentials u s), some c⟩

end CurlScribe.Request
