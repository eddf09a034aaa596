import CurlScribe.Text.Basic

namespace CurlScribe

inductive Fragment
  | code (text : String)
  | literal (value : String)
  deriving DecidableEq

abbrev Code := List Fragment

instance : Coe String Code := ⟨([.code ·])⟩

namespace Code

def lit (value : String) : Code := [.literal value]

def fragmentText (quote : String → String) : Fragment → String
  | .code text => text
  | .literal value => quote value

def text (quote : String → String) (c : Code) : String :=
  Text.joined "" (c.map (fragmentText quote))

def line (c : Code) : List Code := [c]

def when (wanted : Bool) (c : Code) : List Code := if wanted then [c] else []

def orNull (null : String) (s : Option String) : Code := s.elim (null : Code) lit

def literal? (s : Option String) : List Code := (s.map lit).toList

def joined (sep : String) : List Code → Code
  | [] => []
  | [c] => c
  | c :: rest => c ++ .code sep :: joined sep rest

def call (function : String) (arguments : List Code) : Code :=
  function ++ "(" ++ joined ", " arguments ++ ")"

def lines (l : List Code) : Code := joined "\n" l

def blocks (l : List Code) : Code := joined "\n\n" l

end Code

def apostrophed (s : String) : String :=
  .ofList ('\'' :: (s.toList.flatMap fun c => if c = '\'' || c = '\\' then ['\\', c] else [c])
    ++ ['\''])

end CurlScribe
