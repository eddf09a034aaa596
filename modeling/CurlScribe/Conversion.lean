import CurlScribe.Arguments.Scan
import CurlScribe.Flag.Curl
import CurlScribe.Request.Build
import CurlScribe.Shell.Command
import CurlScribe.Target.AnsiblePlaybook
import CurlScribe.Target.AxiosCall
import CurlScribe.Target.FetchCall
import CurlScribe.Target.GoProgram
import CurlScribe.Target.JsonDocument
import CurlScribe.Target.PhpScript
import CurlScribe.Target.RequestsScript
import CurlScribe.Target.RubyScript
import CurlScribe.Target.StrestFile

namespace CurlScribe

inductive Warning
  | arguments (notice : Arguments.Notice)
  | request (notice : Request.Notice)
  | target (notice : Target.Notice)
  deriving DecidableEq

namespace Warning

inductive Kind
  | deprecatedFlag
  | unknownFlag
  | loss
  | ambiguity
  deriving DecidableEq

def kind : Warning → Kind
  | arguments (.deprecated _) => .deprecatedFlag
  | arguments (.unknown _) => .unknownFlag
  | request notice => if notice.isAmbiguity then .ambiguity else .loss
  | target _ => .loss

def message : Warning → String
  | arguments (.deprecated remark) => remark
  | arguments (.unknown spelling) => Arguments.unknownMessage spelling
  | request notice => notice.message
  | target notice => notice.message

end Warning

inductive Failure
  | language (key : String)
  | command (e : Shell.CommandError)
  | arguments (f : Arguments.Fault)
  | request (f : Request.Fault)
  | target (t : Target) (f : Target.Fault)
  deriving DecidableEq

namespace Failure

/-- Whether the failure is none that the program has words for. -/
def isUnforeseen : Failure → Bool
  | command (.ansi (.control _)) => true
  | arguments (.notAText _) => true
  | request (.tooLarge _) => true
  | target _ (.badUrl _) => true
  | target _ (.tooLong _) => true
  | target _ (.voidPart _) => true
  | _ => false

def message : Failure → String
  | language key =>
    "unexpected --language: \"" ++ key ++ "\"\nmust be one of: " ++ Text.joined ", " Target.keys
  | command e => e.message
  | arguments f => f.message
  | request f => f.message
  | target _ (.badUrl reason) => reason.message
  | target t f => t.key ++ ": " ++ f.message

end Failure

def Target.ofKey (key : String) : Except Failure Target :=
  match Target.ofKey? key with
  | some t => .ok t
  | none => .error (.language key)

def Target.write : Target → Request → Noted Target.Notice Target.Fault String
  | .ansible => AnsiblePlaybook.write
  | .go => GoProgram.write
  | .javascript => FetchCall.write .browser
  | .json => JsonDocument.write
  | .node => FetchCall.write .node
  | .nodeAxios => AxiosCall.write
  | .php => PhpScript.write
  | .python => RequestsScript.write
  | .ruby => RubyScript.write
  | .strest => StrestFile.write

namespace Conversion

def arguments (flags : FlagTable) (lenient : Bool) (tokens : List String) :
    Noted Warning Failure Arguments :=
  ((Arguments.parse flags lenient tokens).mapNotes .arguments).mapError .arguments

def request (a : Arguments) : Noted Warning Failure Request :=
  (a.request.mapNotes .request).mapError .request

def code (t : Target) (r : Request) : Noted Warning Failure String :=
  ((t.write r).mapNotes .target).mapError (.target t)

def ofArguments (t : Target) (a : Arguments) : Noted Warning Failure String := do
  let r ← request a
  code t r

def ofTokens (t : Target) (lenient : Bool) (tokens : List String) :
    Noted Warning Failure String := do
  let a ← arguments .curl lenient tokens
  ofArguments t a

def ofText (t : Target) (text : String) : Noted Warning Failure String := do
  let tokens ← .ofExcept ((Shell.arguments text).mapError .command)
  ofTokens t false tokens

end Conversion

end CurlScribe
