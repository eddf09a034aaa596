import CurlScribe.Arguments.Basic
import CurlScribe.Flag.Table
import CurlScribe.Noted

/-!
Reading arguments against a table of flags. A token is a long flag with or without a value behind an
equals sign, a cluster of letters, or an operand; a flag without its value takes the next token,
whatever it is. After `--` all is operands.
-/

namespace CurlScribe.Arguments

inductive Fault
  | unknown (spelling : String)
  | ambiguous (word : String) (candidates : List String)
  | takesNoValue (spelling : String)
  | missingValue (spelling : String)
  | notAChoice (spelling : String) (given : Setting) (choices : List String)
  | stdinNotAlone (extra : List String)
  | notAText (name : String)
  deriving DecidableEq

def unknownMessage (spelling : String) : String := "option " ++ spelling ++ ": is unknown"

def Fault.message : Fault → String
  | .unknown spelling => unknownMessage spelling
  | .ambiguous word candidates =>
    "option --" ++ word ++ ": is ambiguous (could be "
      ++ Text.joined ", " (candidates.map Flag.longSpelling) ++ ")"
  | .takesNoValue spelling => "option " ++ spelling ++ ": does not take a value"
  | .missingValue spelling => "option " ++ spelling ++ ": requires parameter"
  | .notAChoice spelling given choices =>
    "option " ++ spelling ++ ": unsupported value " ++ given.shown ++ " (expected one of "
      ++ Text.joined ", " choices ++ ")"
  | .stdinNotAlone extra =>
    "if you pass --stdin or -, you can't also pass " ++ Text.joined ", " extra
  | .notAText name => "option " ++ name ++ ": expected a text"

inductive Notice
  | deprecated (remark : String)
  | unknown (spelling : String)
  deriving DecidableEq

inductive Event
  | option (occurrence : Occurrence)
  | operand (text : String)
  | notice (notice : Notice)
  deriving DecidableEq

namespace Event

def occurrence? : Event → Option Occurrence
  | option o => some o
  | _ => none

def operand? : Event → Option String
  | operand text => some text
  | _ => none

def notice? : Event → Option Notice
  | notice n => some n
  | _ => none

end Event

def ofEvents (events : List Event) : Arguments :=
  ⟨events.filterMap Event.occurrence?, events.filterMap Event.operand?⟩

def setting (f : Flag) (spelling : String) (given : Setting) : Except Fault Setting :=
  if f.kind = .choice then
    match f.switches.lookup spelling with
    | some c => .ok (.word c)
    | none =>
      if f.choices.map .word |>.contains given then .ok given
      else .error (.notAChoice spelling given f.choices)
  else .ok given

def store (f : Flag) (spelling : String) (given : Setting) : Noted Event Fault Unit := do
  .note ((f.deprecated.lookup spelling).toList.map (.notice <| .deprecated ·))
  let value ← .ofExcept (setting f spelling given)
  .note [.option ⟨f.name, f.kind = .list, value⟩]

def unknown (lenient : Bool) (spelling : String) : Noted Event Fault Unit :=
  if lenient then .note [.notice (.unknown spelling)] else .fail (.unknown spelling)

structure Spelled where
  flag : Flag
  spelling : String

/-- The flag that a long name stands for, and whether it is negated. An exact name comes before a
negated one, and that before the beginning of a name. -/
def resolve (t : FlagTable) (word : String) : Except Fault (Option (Spelled × Bool)) :=
  match t.long? word with
  | some f => .ok (some (⟨f, Flag.longSpelling word⟩, false))
  | none =>
    let negated := (Text.afterStart? "no-" word).bind fun rest =>
      (t.long? rest).bind fun f =>
        if f.kind = .toggle ∧ f.negatable then some (⟨f, Flag.longSpelling rest⟩, true) else none
    match negated with
    | some hit => .ok (some hit)
    | none =>
      match t.complete word with
      | .none => .ok none
      | .unique long f => .ok (some (⟨f, Flag.longSpelling long⟩, false))
      | .ambiguous candidates => .error (.ambiguous word candidates)

def long (t : FlagTable) (lenient : Bool) (word : String) (value : Option String) :
    Noted Event Fault (Option Spelled) := do
  match ← .ofExcept (resolve t word) with
  | none =>
    unknown lenient (Flag.longSpelling word)
    return none
  | some (⟨f, spelling⟩, negated) =>
    if f.takesValue spelling then
      match value with
      | none => return some ⟨f, spelling⟩
      | some text =>
        store f spelling (.word text)
        return none
    else if value.isSome then .fail (.takesNoValue spelling)
    else
      store f spelling (.toggle !negated)
      return none

/-- Reads letters. One that takes a value takes the letters after it, or waits for a value if there
are none. -/
def cluster (t : FlagTable) (lenient : Bool) : List Char → Noted Event Fault (Option Spelled)
  | [] => return none
  | c :: rest =>
    let spelling := Flag.shortSpelling (.singleton c)
    match t.short? (.singleton c) with
    | none => do
      unknown lenient spelling
      cluster t lenient rest
    | some f =>
      if f.takesValue spelling then
        if rest = [] then return some ⟨f, spelling⟩
        else do
          store f spelling (.word (.ofList rest))
          return none
      else do
        store f spelling (.toggle true)
        cluster t lenient rest

def digest (t : FlagTable) (lenient : Bool) (token : String) :
    Noted Event Fault (Option Spelled) :=
  match token.toList with
  | '-' :: '-' :: name =>
    let (word, value) := Text.cutList '=' name
    long t lenient (.ofList word) (value.map .ofList)
  | '-' :: c :: rest => cluster t lenient (c :: rest)
  | ['-'] =>
    match t.find? "stdin" with
    | some f => do
      store f "-" (.toggle true)
      return none
    | none => do
      .note [.operand token]
      return none
  | _ => do
    .note [.operand token]
    return none

def scan (t : FlagTable) (lenient : Bool) : List String → Noted Event Fault Unit
  | [] => return
  | token :: rest =>
    if token = "--" then .note (rest.map .operand)
    else do
      match ← digest t lenient token with
      | none => scan t lenient rest
      | some ⟨f, spelling⟩ =>
        match rest with
        | [] => .fail (.missingValue spelling)
        | value :: rest => do
          store f spelling (.word value)
          scan t lenient rest

def textless? (a : Arguments) : Option Occurrence :=
  a.occurrences.find? fun o => o.collects && o.setting.text?.isNone

def parse (t : FlagTable) (lenient : Bool) (tokens : List String) :
    Noted Notice Fault Arguments :=
  let read := scan t lenient tokens
  let a := ofEvents read.notes
  ⟨read.notes.filterMap Event.notice?, do
    read.result
    match a.textless? with
    | some o => .error (.notAText o.name)
    | none => return a⟩

def stdinCompanions : List String := ["stdin", "verbose", "language"]

/-- Nothing that describes a request may be given if the command is read from standard input. -/
def checkStdinAlone (a : Arguments) : Except Fault Unit :=
  let extra :=
    (a.names.filter (!stdinCompanions.contains ·)).map Flag.longSpelling ++ a.operands
  if a.isOn "stdin" && extra ≠ [] then .error (.stdinNotAlone extra) else .ok ()

end CurlScribe.Arguments
