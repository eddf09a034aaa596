import CurlScribe.Yaml.Scalar

namespace CurlScribe

inductive Yaml
  | null
  | bool : Bool → Yaml
  | int : Int → Yaml
  | text : String → Yaml
  | list : List Yaml → Yaml
  | mapping : List (String × Yaml) → Yaml

namespace Yaml

def ofOption (s : Option String) : Yaml := s.elim .null .text

def keyLimit : Nat := 122

def isSimpleKey (key : String) : Bool :=
  key ≠ "" && key.length ≤ keyLimit && !key.toList.any isBreak

def simpleKey (key : String) : String := scalar ⟨0, 0, false⟩ key

def placeIn (indent column : Nat) : Place := ⟨column, indent + 2, true⟩

def lines (indent : Nat) (l : List String) : String := Text.joined ("\n" ++ Text.spaces indent) l

mutual

/-- A value behind an indicator at the given indentation; `column` is the one after the indicator.
Behind a simple key a collection starts on a new line, a list as far to the left as the key. -/
def value (indent column : Nat) (afterKey : Bool) : Yaml → String
  | .null => " null"
  | .bool b => if b then " true" else " false"
  | .int n => " " ++ toString n
  | .text s => " " ++ scalar (placeIn indent (column + 1)) s
  | .list items =>
    if items.isEmpty then " []"
    else if afterKey then "\n" ++ Text.spaces indent ++ lines indent (itemTexts indent items)
    else " " ++ lines (indent + 2) (itemTexts (indent + 2) items)
  | .mapping entries =>
    if entries.isEmpty then " \x7b\x7d"
    else
      (if afterKey then "\n" ++ Text.spaces (indent + 2) else " ")
        ++ lines (indent + 2) (entryTexts (indent + 2) entries)

def itemTexts (indent : Nat) : List Yaml → List String
  | [] => []
  | item :: rest => ("-" ++ value indent (indent + 1) false item) :: itemTexts indent rest

def entryTexts (indent : Nat) : List (String × Yaml) → List String
  | [] => []
  | (key, v) :: rest =>
    (if isSimpleKey key then
      simpleKey key ++ ":" ++ value indent (indent + (simpleKey key).length + 1) true v
    else
      "? " ++ scalar (placeIn indent (indent + 2)) key ++ "\n" ++ Text.spaces indent ++ ":"
        ++ value indent (indent + 1) false v) :: entryTexts indent rest

end

def listDocument (items : List Yaml) : String := lines 0 (itemTexts 0 items) ++ "\n"

def mappingDocument (entries : List (String × Yaml)) : String :=
  lines 0 (entryTexts 0 entries) ++ "\n"

end Yaml

end CurlScribe
