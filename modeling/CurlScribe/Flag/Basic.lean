namespace CurlScribe

inductive Flag.Kind
  | toggle
  | text
  | list
  | choice
  deriving DecidableEq

/-- A flag. Its long names come without dashes, the first one being the primary, and each short name
is a letter. A switch is a spelling that selects a choice by itself. -/
structure Flag where
  name : String
  kind : Flag.Kind
  long : List String := []
  short : List String := []
  negatable : Bool := false
  choices : List String := []
  switches : List (String × String) := []
  deprecated : List (String × String) := []
  deriving DecidableEq

namespace Flag

def longSpelling (word : String) : String := "--" ++ word

def shortSpelling (letter : String) : String := "-" ++ letter

def spellings (f : Flag) : List String := f.long.map longSpelling ++ f.short.map shortSpelling

def takesValue (f : Flag) (spelling : String) : Bool :=
  f.kind ≠ .toggle && (f.switches.lookup spelling).isNone

inductive Claim
  | name (name : String)
  | long (word : String)
  | short (letter : String)
  deriving DecidableEq

def claims (f : Flag) : List Claim :=
  .name f.name :: f.long.map .long ++ f.short.map .short

end Flag

end CurlScribe
