import CurlScribe.Json.Read
import CurlScribe.Target.Basic

namespace CurlScribe

abbrev Check := String → Except String (Option String)

/-- The first fault of a text. An integer that is too long is none, but the reader gives up on
it. -/
def Json.check : Check := fun code =>
  match Json.ofString code with
  | .ok _ => .ok none
  | .error f =>
    match f.cause with
    | .longInteger digits => .error (Numeral.tooLong digits)
    | cause =>
      .ok (some ("JSONDecodeError: " ++ cause.message ++ " (line "
        ++ toString (f.line code.toList) ++ ")"))

def Target.check (python yaml : Check) (language : String) : Check :=
  if language = Target.json.key then Json.check
  else if language = Target.python.key then python
  else if language = Target.ansible.key ∨ language = Target.strest.key then yaml
  else fun _ => .ok none

end CurlScribe
