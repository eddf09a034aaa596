import CurlScribe.Conversion
import CurlScribe.Text.ControlSequence

namespace CurlScribe.CommandLine

def version : String := "curlconverter 4.3.0 (curl 7.82.0)"

structure Invocation where
  arguments : List String
  input : String := ""
  language : Option String := none

structure Outcome where
  status : Nat
  output : String
  messages : List String
  trace : Option Failure := none

def defaultLanguage (i : Invocation) : String := (i.language.filter (· ≠ "")).getD "python"

def choiceLine (i : Invocation) (t : Target) : String :=
  "  " ++ t.key ++ if t.key = defaultLanguage i then " (the default)" else ""

def usage (i : Invocation) : String :=
  Text.joined "\n" (["Usage: curlconverter [--language <language>] [-] [curl_options...]", "",
      "language: the language to convert the curl command to. The choices are"]
    ++ Target.all.map (choiceLine i)
    ++ ["", "-: read curl command from stdin", "",
      "curl_options: these should be passed exactly as they would be passed to curl.",
      "  see 'curl --help' or 'curl --manual' for which options are allowed here", ""])

/-- The arguments for the flags. Of those before the first operand, the first `--` is left out. -/
def passedOn : List String → List String
  | [] => []
  | a :: rest =>
    if a = "--" then rest
    else if Text.startsWith "-" a && a ≠ "-" then a :: passedOn rest
    else a :: rest

def normalized : List Char → List Char
  | [] => []
  | '\r' :: '\n' :: rest => '\n' :: normalized rest
  | '\r' :: rest => '\n' :: normalized rest
  | c :: rest => c :: normalized rest

def messageLines (label text : String) : List String :=
  (Text.split '\n' text).map (label ++ ": " ++ ·)

def warningLines (warnings : List Warning) : List String :=
  warnings.flatMap fun w => messageLines "warning" (Text.trim w.message)

/-- The program with a failure; the warnings before it may explain it. -/
def failed (before : List String) (warnings : List Warning) (verbose : Bool) (f : Failure) :
    Except Failure Outcome :=
  if f.isUnforeseen then .error f
  else .ok {
    status := 2
    output := ""
    messages := before ++ warningLines warnings
      ++ if verbose then [] else messageLines "error" f.message
    trace := if verbose then some f else none }

def wholeCommandLines (urls : List String) : List String :=
  if urls.any (Text.startsWith "curl ") then
    ["warning: Passing a whole curl command as a single argument?",
     "warning: Pass options to curlconverter as if it was curl instead:",
     "warning: curlconverter 'curl example.com' -> curlconverter example.com"]
  else []

def ownFlags : List String := Flag.own.map (·.name)

def conversion (i : Invocation) (t : Target) (a : Arguments) : Noted Warning Failure String :=
  if a.isOn "stdin" then do
    .ofExcept (a.checkStdinAlone.mapError .arguments)
    Conversion.ofText t (.ofList (normalized i.input.toList))
  else Conversion.ofArguments t (a.without ownFlags)

def hints (a : Arguments) : List String :=
  if a.isOn "stdin" then [] else wholeCommandLines a.urls

def convert (i : Invocation) (warnings : List Warning) (a : Arguments) : Except Failure Outcome :=
  let verbose := a.isOn "verbose"
  let language := ((a.text? "language").filter (· ≠ "")).getD (defaultLanguage i)
  match Target.ofKey language with
  | .error f => failed [] warnings verbose f
  | .ok t =>
    let c := conversion i t a
    match c.result with
    | .error f => failed (hints a) (warnings ++ c.notes) verbose f
    | .ok code => .ok {
        status := 0
        output := code
        messages := hints a ++ if verbose then warningLines (warnings ++ c.notes) else [] }

def isVerbose (arguments : List String) : Bool :=
  arguments.contains "--verbose" || arguments.contains "-v"

def runRaw (i : Invocation) : Except Failure Outcome :=
  let arguments := passedOn i.arguments
  let parsed := Conversion.arguments .program false arguments
  match parsed.result with
  | .error f => failed [] parsed.notes (isVerbose arguments) f
  | .ok a =>
    if a.isOn "help" then .ok ⟨0, usage i, [], none⟩
    else if a.isOn "version" then .ok ⟨0, version ++ "\n", [], none⟩
    else if arguments = [] then .ok ⟨2, usage i, [], none⟩
    else convert i parsed.notes a

def readsInput (arguments : List String) : Bool :=
  match (Conversion.arguments .program false (passedOn arguments)).result with
  | .error _ => false
  | .ok a => a.isOn "stdin"

/-- How the program ends, unless by a failure that it has no words for. -/
def run (i : Invocation) : Except Failure Outcome :=
  (runRaw i).map fun o =>
    { o with
      output := Text.ControlSequence.remove o.output
      messages := o.messages.map Text.ControlSequence.remove }

end CurlScribe.CommandLine
