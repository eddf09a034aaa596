import CurlScribe.Shell.AnsiC
import CurlScribe.Shell.Words
import CurlScribe.Text.Blank
import CurlScribe.Text.Quoted

namespace CurlScribe.Shell

inductive CommandError
  | noCommand
  | ansi (e : AnsiError)
  | unfinished (e : Unfinished)
  | otherCommand (name : String)
  deriving DecidableEq

def CommandError.message : CommandError → String
  | .noCommand => "no curl command given"
  | .ansi .unterminated => "unterminated $'' string"
  | .ansi (.control c) => "no control character for " ++ Text.shown (.singleton c)
  | .unfinished e => "could not split curl command: " ++ e.message
  | .otherCommand name =>
    "command should begin with \"curl\" but instead begins with " ++ Text.shown name

/-- A backslash before the end of a line joins it to the next one. -/
def joinLines : List Char → List Char
  | [] => []
  | '\\' :: '\n' :: rest => ' ' :: joinLines rest
  | '\\' :: '\r' :: '\n' :: rest => ' ' :: joinLines rest
  | c :: rest => c :: joinLines rest

def commandNames : List String := ["curl", "curl.exe"]

def arguments (text : String) : Except CommandError (List String) := do
  let command := joinLines (Text.trim text).toList
  if command = [] then .error .noCommand
  let expanded ← (expandFrom .bare command).mapError .ansi
  let words ← (wordsFrom .between expanded).mapError .unfinished
  match words.map String.ofList with
  | [] => .error .noCommand
  | name :: rest => if name ∈ commandNames then .ok rest else .error (.otherCommand name)

end CurlScribe.Shell
