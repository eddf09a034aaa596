import CurlScribe.Arguments.Basic
import CurlScribe.Request.Basic
import CurlScribe.Request.Notice

namespace CurlScribe.Request

def hasAuthorization (headers : List (String × String)) : Bool :=
  headers.any (Text.lower ·.1 = "authorization")

def unsupportedSchemes : List String := ["ntlm", "ntlm-wb", "negotiate", "anyauth"]

def userPassword (s : String) : String × String :=
  let (user, password) := Text.cut ':' s
  (user, password.getD "")

end CurlScribe.Request

namespace CurlScribe.Arguments

open Request

variable (a : Arguments) (inUrl : Option (String × String)) (headers : List (String × String))

def user? : Option (String × String) :=
  match a.text? "user" with
  | some user => some (userPassword user)
  | none => inUrl

def userAuth : Auth :=
  match a.user? inUrl with
  | none => .none
  | some (user, password) =>
    if a.text? "auth-scheme" = some "digest" then .digest user password else .basic user password

def flagAuth : Auth :=
  match a.text? "oauth2-bearer" with
  | some token => .bearer token
  | none => a.userAuth inUrl

def auth : Auth := if hasAuthorization headers then .none else a.flagAuth inUrl

def userNotices : List Request.Notice :=
  match a.text? "user" with
  | some user => if Text.hasChar ':' user then [] else [.noPassword user]
  | none => []

def schemeNotices : List Request.Notice :=
  match a.user? inUrl, a.text? "auth-scheme" with
  | some _, some scheme =>
    if unsupportedSchemes.contains scheme then [.schemeAsBasic scheme] else []
  | _, _ => []

def authNotices : List Request.Notice :=
  a.userNotices ++ a.schemeNotices inUrl
    ++ (if (a.text? "oauth2-bearer").isSome && a.userAuth inUrl ≠ .none then [.bearerOverUser]
      else [])
    ++ (if hasAuthorization headers && a.flagAuth inUrl ≠ .none then [.headerOverAuth] else [])

end CurlScribe.Arguments
