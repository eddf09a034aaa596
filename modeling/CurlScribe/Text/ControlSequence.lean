/-!
Control sequences of terminals: an escape character and a bracket, then parameters, then
intermediate characters, then a final one.
-/

namespace CurlScribe.Text.ControlSequence

def isParameter (c : Char) : Bool := '0' ≤ c && c ≤ '?'

def isIntermediate (c : Char) : Bool := ' ' ≤ c && c ≤ '/'

def isFinal (c : Char) : Bool := '@' ≤ c && c ≤ '~'

def length? : List Char → Option Nat
  | '[' :: rest =>
    let parameters := rest.takeWhile isParameter
    let rest := rest.dropWhile isParameter
    let intermediates := rest.takeWhile isIntermediate
    match rest.dropWhile isIntermediate with
    | c :: _ =>
      if isFinal c then some (parameters.length + intermediates.length + 2) else none
    | [] => none
  | _ => none

/-- The text without its control sequences, of the last of which `more` characters are to be
skipped yet. -/
def removeFrom : Nat → List Char → List Char
  | _, [] => []
  | more + 1, _ :: rest => removeFrom more rest
  | 0, c :: rest =>
    match if c = '\x1b' then length? rest else none with
    | some n => removeFrom n rest
    | none => c :: removeFrom 0 rest

def remove (s : String) : String := .ofList (removeFrom 0 s.toList)

end CurlScribe.Text.ControlSequence
