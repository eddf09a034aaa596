import CurlScribe.Text.Quoted

namespace CurlScribe

inductive Setting
  | toggle (on : Bool)
  | word (text : String)
  deriving DecidableEq

namespace Setting

def shown : Setting → String
  | toggle on => if on then "True" else "False"
  | word text => Text.shown text

def text? : Setting → Option String
  | toggle _ => none
  | word text => some text

end Setting

/-- One use of a flag. A flag that collects keeps the settings of all its occurrences, any other
only the last. -/
structure Occurrence where
  name : String
  collects : Bool
  setting : Setting
  deriving DecidableEq

structure Arguments where
  occurrences : List Occurrence
  operands : List String
  deriving DecidableEq

namespace Arguments

inductive Value
  | toggle (on : Bool)
  | word (text : String)
  | list (texts : List String)
  deriving DecidableEq

def order (a : Arguments) : List String := a.occurrences.map (·.name)

def firsts [DecidableEq α] : List α → List α
  | [] => []
  | x :: rest => x :: (firsts rest).filter (· ≠ x)

def names (a : Arguments) : List String := firsts a.order

def has (a : Arguments) (name : String) : Bool := a.order.contains name

def named (a : Arguments) (name : String) : List Occurrence :=
  a.occurrences.filter (·.name = name)

def texts (a : Arguments) (name : String) : List String :=
  (a.named name).filterMap (·.setting.text?)

def last? (a : Arguments) (name : String) : Option Setting :=
  (a.named name).getLast?.map (·.setting)

def text? (a : Arguments) (name : String) : Option String := (a.last? name).bind (·.text?)

def isOn (a : Arguments) (name : String) : Bool := a.last? name = some (.toggle true)

def value? (a : Arguments) (name : String) : Option Value :=
  (a.named name).getLast?.map fun o =>
    if o.collects then .list (a.texts name)
    else
      match o.setting with
      | .toggle on => .toggle on
      | .word text => .word text

def textsOf (a : Arguments) (names : List String) : List (String × String) :=
  (a.occurrences.filter (names.contains ·.name)).filterMap fun o =>
    o.setting.text?.map (o.name, ·)

def lastOf? (a : Arguments) (names : List String) : Option String :=
  (a.order.filter names.contains).getLast?

def without (a : Arguments) (names : List String) : Arguments :=
  ⟨a.occurrences.filter (!names.contains ·.name), a.operands⟩

end Arguments

end CurlScribe
