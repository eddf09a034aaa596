import CurlScribe.Text.Hex

namespace CurlScribe

inductive Json
  | null
  | bool : Bool → Json
  | number : String → Json
  | string : String → Json
  | array : List Json → Json
  | object : List (String × Json) → Json

namespace Json

def unitEscape (n : Nat) : List Char := '\\' :: 'u' :: Text.hex 4 n

/-- One character between quotation marks. If only ASCII may be written, the others become escapes
of their UTF-16 units. -/
def stringChar (ascii : Bool) (c : Char) : List Char :=
  if c = '"' then ['\\', '"']
  else if c = '\\' then ['\\', '\\']
  else if c = '\n' then ['\\', 'n']
  else if c = '\r' then ['\\', 'r']
  else if c = '\t' then ['\\', 't']
  else if c = '\x08' then ['\\', 'b']
  else if c = '\x0c' then ['\\', 'f']
  else if c.toNat < 0x20 then unitEscape c.toNat
  else if !ascii || c.toNat < 0x7f then [c]
  else if c.toNat < 0x10000 then unitEscape c.toNat
  else
    unitEscape (0xd800 + (c.toNat - 0x10000) / 0x400)
      ++ unitEscape (0xdc00 + (c.toNat - 0x10000) % 0x400)

def quotedList (ascii : Bool) (s : List Char) : List Char :=
  '"' :: s.flatMap (stringChar ascii) ++ ['"']

def quoted (ascii : Bool) (s : String) : String := .ofList (quotedList ascii s.toList)

def margin (level : Nat) : String := .ofList (List.replicate (4 * level) ' ')

def block (level : Nat) (opening closing : String) (entries : List String) : String :=
  if entries = [] then opening ++ closing
  else
    opening ++ "\n"
      ++ String.intercalate ",\n" (entries.map (margin (level + 1) ++ ·))
      ++ "\n" ++ margin level ++ closing

mutual

def render (level : Nat) : Json → String
  | .null => "null"
  | .bool b => if b then "true" else "false"
  | .number text => text
  | .string s => quoted false s
  | .array items => block level "[" "]" (renderItems (level + 1) items)
  | .object fields => block level "\x7b" "\x7d" (renderFields (level + 1) fields)

def renderItems (level : Nat) : List Json → List String
  | [] => []
  | item :: rest => render level item :: renderItems level rest

def renderFields (level : Nat) : List (String × Json) → List String
  | [] => []
  | (key, value) :: rest =>
    (quoted false key ++ ": " ++ render level value) :: renderFields level rest

end

mutual

def compact : Json → String
  | .null => "null"
  | .bool b => if b then "true" else "false"
  | .number text => text
  | .string s => quoted true s
  | .array items => "[" ++ String.intercalate "," (compactItems items) ++ "]"
  | .object fields => "\x7b" ++ String.intercalate "," (compactFields fields) ++ "\x7d"

def compactItems : List Json → List String
  | [] => []
  | item :: rest => compact item :: compactItems rest

def compactFields : List (String × Json) → List String
  | [] => []
  | (key, value) :: rest => (quoted true key ++ ":" ++ compact value) :: compactFields rest

end

def text (s : String) : Json := .string s

def ofOption (s : Option String) : Json := s.elim .null .string

def field? (key : String) : Json → Option Json
  | .object fields => fields.lookup key
  | _ => none

end Json

end CurlScribe
