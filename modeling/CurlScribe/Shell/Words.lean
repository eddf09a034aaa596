/-!
The words of a shell command: white space separates them, a backslash takes the next character
literally, apostrophes enclose literal text, and between quotation marks a backslash only escapes a
quotation mark or a backslash.
-/

namespace CurlScribe.Shell

inductive Unfinished
  | quotation
  | escape
  deriving DecidableEq

def Unfinished.message : Unfinished → String
  | .quotation => "No closing quotation"
  | .escape => "No escaped character"

inductive Place
  | between
  | bare
  | single
  | double
  deriving DecidableEq

def isSeparator (c : Char) : Bool := c = ' ' || c = '\t' || c = '\r' || c = '\n'

def push (c : Char) : List (List Char) → List (List Char)
  | [] => [[c]]
  | word :: words => (c :: word) :: words

def wordsFrom : Place → List Char → Except Unfinished (List (List Char))
  | .between, [] => .ok []
  | .bare, [] => .ok [[]]
  | .single, [] => .error .quotation
  | .double, [] => .error .quotation
  | .between, c :: rest =>
    if isSeparator c then wordsFrom .between rest
    else if c = '\'' then wordsFrom .single rest
    else if c = '"' then wordsFrom .double rest
    else if c = '\\' then
      match rest with
      | [] => .error .escape
      | d :: rest' => push d <$> wordsFrom .bare rest'
    else push c <$> wordsFrom .bare rest
  | .bare, c :: rest =>
    if isSeparator c then ([] :: ·) <$> wordsFrom .between rest
    else if c = '\'' then wordsFrom .single rest
    else if c = '"' then wordsFrom .double rest
    else if c = '\\' then
      match rest with
      | [] => .error .escape
      | d :: rest' => push d <$> wordsFrom .bare rest'
    else push c <$> wordsFrom .bare rest
  | .single, c :: rest =>
    if c = '\'' then wordsFrom .bare rest else push c <$> wordsFrom .single rest
  | .double, c :: rest =>
    if c = '"' then wordsFrom .bare rest
    else if c = '\\' then
      match rest with
      | [] => .error .escape
      | d :: rest' =>
        if d = '"' || d = '\\' then push d <$> wordsFrom .double rest'
        else (push '\\' <| push d ·) <$> wordsFrom .double rest'
    else push c <$> wordsFrom .double rest

def words (s : String) : Except Unfinished (List String) :=
  (·.map .ofList) <$> wordsFrom .between s.toList

end CurlScribe.Shell
