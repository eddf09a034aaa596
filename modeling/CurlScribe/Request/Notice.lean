import CurlScribe.Text.Quoted
import CurlScribe.Url.Split

namespace CurlScribe.Request

inductive Fault
  | noUrl
  | malformedUrl (url : String) (reason : Option Url.Fault)
  | tooLarge (number : Int)
  deriving DecidableEq

def Fault.message : Fault → String
  | .noUrl => "no URL provided"
  | .malformedUrl url none => "malformed URL: " ++ Text.shown url
  | .malformedUrl url (some reason) => "malformed URL " ++ Text.shown url ++ ": " ++ reason.message
  | .tooLarge _ => "int too large to convert to float"

inductive Notice
  | severalUrls (count : Nat) (used : String)
  | credentialsRemoved
  | credentialsMoved
  | globbing
  | unsupported (spelling : String)
  | headersFromFile (raw : String)
  | malformedHeader (raw : String)
  | formOverData
  | dataOverForm
  | formOverGet
  | fileNotEncoded (value : String)
  | fileNotInQuery (path : String)
  | fileDropped (path : String)
  | malformedPart (flag value : String)
  | unsupportedParameter (parameter : String)
  | boundaryDropped
  | bodyOverUpload
  | noPassword (user : String)
  | schemeAsBasic (scheme : String)
  | bearerOverUser
  | headerOverAuth
  | bodyOverHead
  | cookiesFromFile (raw : String)
  | severalProxies (used : String)
  | notANumber (flag value : String)
  deriving DecidableEq

namespace Notice

def isAmbiguity : Notice → Bool
  | formOverData | dataOverForm | formOverGet => true
  | bodyOverUpload | bearerOverUser | bodyOverHead => true
  | severalProxies _ => true
  | _ => false

def message : Notice → String
  | severalUrls count used =>
    "found " ++ toString count ++ " URLs, only the first one is used: " ++ used
  | credentialsRemoved => "credentials in the URL were removed from it; --user was used instead"
  | credentialsMoved => "credentials in the URL were moved out of it and sent as basic auth"
  | globbing =>
    "URL globbing (\x7b...\x7d and [...]) isn't supported, the URL is used literally"
  | unsupported spelling => spelling ++ " isn't supported and was ignored"
  | headersFromFile raw => "reading headers from a file isn't supported: -H " ++ raw
  | malformedHeader raw => "ignoring malformed header: " ++ Text.shown raw
  | formOverData => "both --data and --form were given; --form was given last and is used"
  | dataOverForm => "both --data and --form were given; --data was given last and is used"
  | formOverGet => "-G/--get can't send --form fields in the URL; ignoring -G"
  | fileNotEncoded value =>
    "--data-urlencode " ++ value ++ ": the file's contents are sent without URL encoding"
  | fileNotInQuery path =>
    "-G/--get can't put the contents of " ++ path ++ " in the URL; it was dropped"
  | fileDropped path =>
    "data read from " ++ path ++ " can't be combined with other --data values; it was dropped"
  | malformedPart flag value =>
    "ignoring malformed --" ++ flag ++ " value: " ++ Text.shown value
  | unsupportedParameter parameter => "ignoring unsupported --form parameter: " ++ parameter
  | boundaryDropped =>
    "dropped the Content-Type header's hand-written multipart boundary; "
      ++ "the generated code lets the HTTP library pick one"
  | bodyOverUpload => "-T/--upload-file can't be combined with --data or --form; ignoring -T"
  | noPassword user =>
    "no password given for user " ++ Text.shown user
      ++ "; curl would prompt for one, an empty password is used"
  | schemeAsBasic scheme =>
    "--" ++ scheme ++ " authentication isn't supported, using basic auth instead"
  | bearerOverUser =>
    "both --oauth2-bearer and user credentials were given; the bearer token is used"
  | headerOverAuth =>
    "an explicit Authorization header was given; it is used instead of --user/--oauth2-bearer"
  | bodyOverHead => "-I/--head can't be combined with a request body; sending a POST instead"
  | cookiesFromFile raw => "reading cookies from a file isn't supported: -b " ++ raw
  | severalProxies used =>
    "several proxy options were given; --" ++ used ++ " was given last and is used"
  | notANumber flag value => "--" ++ flag ++ " expects a number, ignoring " ++ Text.shown value

end Notice

end CurlScribe.Request
