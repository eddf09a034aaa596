import CurlScribe.Arguments.Basic
import CurlScribe.Number.Numeral
import CurlScribe.Request.Basic
import CurlScribe.Request.Credentials
import CurlScribe.Request.Notice
import CurlScribe.Text.Blank

namespace CurlScribe.Request

/-- The cookies in a text, with semicolons between them. Without an equals sign it is no cookies but
the path of a file. -/
def cookiesIn (raw : String) : List (String × String) :=
  if Text.hasChar '=' raw then
    (((Text.split ';' raw).map Text.trim).filter (· ≠ "")).map fun cookie =>
      let (name, value) := Text.cut '=' cookie
      (Text.trim name, Text.trim (value.getD ""))
  else []

def proxySchemes : List (String × String) :=
  [("socks4", "socks4"), ("socks4a", "socks4a"), ("socks5", "socks5"),
   ("socks5-hostname", "socks5h")]

def proxyFlags : List String := "proxy" :: proxySchemes.map (·.1)

def underScheme (scheme s : String) : String :=
  let (before, after) := Text.cutOn "://" s
  scheme ++ "://" ++ after.getD before

/-- A number of redirects is of use only as far as binary64 numbers reach. -/
def isTooLarge (n : Int) : Bool := (Binary64.ofRatio? false n.natAbs 1).isNone

end CurlScribe.Request

namespace CurlScribe.Arguments

open Request

variable (a : Arguments)

def cookies : List (String × String) := (a.texts "cookie").flatMap cookiesIn

def cookieNotices : List Request.Notice :=
  ((a.texts "cookie").filter (!Text.hasChar '=' ·)).map .cookiesFromFile

def proxy : Option String :=
  (a.lastOf? proxyFlags).bind fun flag =>
    (a.text? flag).map fun value =>
      match proxySchemes.lookup flag with
      | none => value
      | some scheme => underScheme scheme value

def proxyNotices : List Request.Notice :=
  match a.lastOf? proxyFlags with
  | some flag => if 1 < (proxyFlags.filter a.has).length then [.severalProxies flag] else []
  | none => []

def proxyAuth : Option (String × String) := (a.text? "proxy-user").map userPassword

def number? (read : String → Option α) (flag : String) : Option α := (a.text? flag).bind read

def numberNotices (read : String → Option α) (flag : String) : List Request.Notice :=
  match a.text? flag with
  | some value => if (read value).isNone then [.notANumber flag value] else []
  | none => []

def maxRedirects : Except Request.Fault (Option Int) :=
  match a.number? Numeral.integer? "max-redirs" with
  | some n => if isTooLarge n then .error (.tooLarge n) else .ok (some n)
  | none => .ok none

def tls : Tls where
  insecure := a.isOn "insecure"
  cert := a.text? "cert"
  key := a.text? "key"
  cacert := a.text? "cacert"

end CurlScribe.Arguments
