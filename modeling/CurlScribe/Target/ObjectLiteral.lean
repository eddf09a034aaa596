import CurlScribe.Target.Code
import CurlScribe.Text.Word

namespace CurlScribe.ObjectLiteral

open Code (lit)

def startsIdentifier (c : Char) : Bool := c.isAlpha || c = '_' || c = '$'

def isIdentifier (s : String) : Bool :=
  match s.toList with
  | [] => false
  | c :: rest => startsIdentifier c && rest.all fun c => Text.isWord c || c = '$'

def key (s : String) : Code := if isIdentifier s then s else lit s

def indent (level : Nat) : String := Text.spaces (4 * level)

def entry (level : Nat) (field : String × Code) : Code :=
  indent level ++ key field.1 ++ ": " ++ field.2

def object (level : Nat) (fields : List (String × Code)) : Code :=
  if fields = [] then "\x7b\x7d"
  else
    "\x7b\n" ++ Code.joined ",\n" (fields.map (entry level)) ++ "\n" ++ indent (level - 1) ++ "\x7d"

def field (wanted : Bool) (name : String) (value : Code) : List (String × Code) :=
  if wanted then [(name, value)] else []

def literals (fields : List (String × String)) : List (String × Code) :=
  fields.map fun (name, value) => (name, lit value)

def trustingAgent : Code := "new https.Agent(\x7b rejectUnauthorized: false \x7d)"

def source (path : String) : Code := if path = "-" then "0" else lit path

def readFile (path : String) : Code := "fs.readFileSync(" ++ source path ++ ")"

def readText (path : Option String) : Code :=
  "fs.readFileSync(" ++ path.elim ("null" : Code) source ++ ", 'utf8')"

end CurlScribe.ObjectLiteral
