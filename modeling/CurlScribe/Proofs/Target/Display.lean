import CurlScribe.Proofs.Target.Fields
import CurlScribe.Proofs.Target.Token

/-!
The values that Python's displays stand for: strings, and tuples, lists and dictionaries of them.
They are read token by token, with a frame for each bracket that is open.
-/

namespace CurlScribe

inductive Token.Encloses : Char → Char → Prop
  | parentheses : Encloses '(' ')'
  | square : Encloses '[' ']'
  | braces : Encloses '\x7b' '\x7d'

/-- What a display stands for. In a dictionary a key that is repeated has its last value. -/
inductive Display
  | text (s : String)
  | tuple (values : List Display)
  | list (values : List Display)
  | dict (entries : List (String × Display))

namespace Display

def items? : Display → Option (List (String × String))
  | dict entries => entries.mapM fun
    | (key, text value) => some (key, value)
    | _ => none
  | list values => values.mapM fun
    | tuple [text key, text value] => some (key, value)
    | _ => none
  | _ => none

structure Frame where
  bracket : Char
  items : List (Option String × Display)
  key : Option String
  value : Option Display

namespace Frame

def opened (bracket : Char) : Frame := ⟨bracket, [], none, none⟩

def give? (v : Display) : Frame → Option Frame
  | ⟨bracket, items, key, none⟩ => some ⟨bracket, items, key, some v⟩
  | _ => none

def colon? : Frame → Option Frame
  | ⟨bracket, items, none, some (.text key)⟩ => some ⟨bracket, items, some key, none⟩
  | _ => none

def comma? : Frame → Option Frame
  | ⟨bracket, items, key, some v⟩ => some ⟨bracket, items ++ [(key, v)], none, none⟩
  | _ => none

def all? : Frame → Option (List (Option String × Display))
  | ⟨_, items, none, none⟩ => some items
  | ⟨_, items, key, some v⟩ => some (items ++ [(key, v)])
  | _ => none

def keyed? : Option String × Display → Option (String × Display)
  | (some key, v) => some (key, v)
  | _ => none

def unkeyed? : Option String × Display → Option Display
  | (none, v) => some v
  | _ => none

def parenthesized? : Frame → Option Display
  | ⟨_, [], none, some v⟩ => some v
  | f => f.all?.bind fun items => (items.mapM unkeyed?).map tuple

def close? (c : Char) (f : Frame) : Option Display :=
  if f.bracket = '(' ∧ c = ')' then f.parenthesized?
  else if f.bracket = '[' ∧ c = ']' then
    f.all?.bind fun items => (items.mapM unkeyed?).map list
  else if f.bracket = '\x7b' ∧ c = '\x7d' then
    f.all?.bind fun items => (items.mapM keyed?).map (dict ∘ Fields.ofItems)
  else none

end Frame

def give? (v : Display) : List Frame → Option (List Frame)
  | f :: below => (f.give? v).map (· :: below)
  | [] => none

def step? : List Frame → Token → Option (List Frame)
  | frames, .literal written =>
    match Text.readShown written with
    | some (s, []) => give? (.text (.ofList s)) frames
    | _ => none
  | f :: below, .mark c =>
    if c = '(' ∨ c = '[' ∨ c = '\x7b' then
      match f.value with
      | none => some (.opened c :: f :: below)
      | some _ => none
    else if c = ':' then f.colon?.map (· :: below)
    else if c = ',' then f.comma?.map (· :: below)
    else (f.close? c).bind (give? · below)
  | _, _ => none

/-- The value of a display that is all of the tokens. -/
def ofTokens? (ts : List Token) : Option Display :=
  match ts.foldlM step? [.opened '='] with
  | some [⟨_, [], none, some v⟩] => some v
  | _ => none

variable {α : Type} {ts us : List Token} {v w : Display} {xs : List α} {key : α → String}
  {tokens : α → List Token} {value : α → Display}

def Reads (ts : List Token) (v : Display) : Prop :=
  ∀ bracket items key below, ts.foldlM step? (⟨bracket, items, key, none⟩ :: below) =
    some (⟨bracket, items, key, some v⟩ :: below)

theorem Reads.ofTokens? (h : Reads ts v) : ofTokens? ts = some v := by
  rw [Display.ofTokens?, Frame.opened, h]

theorem step?_text (s : String) (bracket : Char) (items : List (Option String × Display))
    (key : Option String) (below : List Frame) :
    step? (⟨bracket, items, key, none⟩ :: below) (.literal (Text.shown s).toList) =
      some (⟨bracket, items, key, some (.text s)⟩ :: below) := by
  have hread : Text.readShown (Text.shown s).toList = some (s.toList, []) := by
    simpa using Text.readShown_shown s []
  simp [step?, hread, give?, Frame.give?]

theorem reads_text (s : String) : Reads [.literal (Text.shown s).toList] (.text s) := by
  intro bracket items key below
  rw [List.foldlM_cons, step?_text]
  rfl

theorem reads_enclosed {c d : Char} {f : Frame} (hcd : Token.Encloses c d)
    (hclose : f.close? d = some v)
    (h : ∀ below, ts.foldlM step? (.opened c :: below) = some (f :: below)) :
    Reads (.mark c :: ts ++ [.mark d]) v := by
  intro bracket items key below
  have hopen (below : List Frame) : step? (⟨bracket, items, key, none⟩ :: below) (.mark c) =
      some (.opened c :: ⟨bracket, items, key, none⟩ :: below) := by
    cases hcd <;> rfl
  have hclosed (below : List Frame) :
      step? (f :: below) (.mark d) = (f.close? d).bind (give? · below) := by
    cases hcd <;> rfl
  rw [List.cons_append, List.foldlM_cons, hopen, Option.bind_eq_bind, Option.bind_some,
    List.foldlM_append, h, Option.bind_eq_bind, Option.bind_some, List.foldlM_cons, hclosed, hclose]
  rfl

theorem foldlM_items {c : Char} {item : α → Option String × Display} {below : List Frame}
    (h : ∀ x ∈ xs, ∀ items, (tokens x).foldlM step? (⟨c, items, none, none⟩ :: below) =
      some (⟨c, items ++ [item x], none, none⟩ :: below)) (items : List (Option String × Display)) :
    (xs.flatMap tokens).foldlM step? (⟨c, items, none, none⟩ :: below) =
      some (⟨c, items ++ xs.map item, none, none⟩ :: below) := by
  induction xs generalizing items with
  | nil => simp
  | cons x xs ih =>
    obtain ⟨hx, hxs⟩ := List.forall_mem_cons.1 h
    rw [List.flatMap_cons, List.foldlM_append, hx]
    simp [ih hxs]

def entryTokens (key : String) (ts : List Token) : List Token :=
  .literal (Text.shown key).toList :: .mark ':' :: (ts ++ [.mark ','])

theorem reads_dict (h : ∀ x ∈ xs, Reads (tokens x) (value x)) :
    Reads (.mark '\x7b' :: xs.flatMap (fun x => entryTokens (key x) (tokens x)) ++ [.mark '\x7d'])
      (.dict (Fields.ofItems (xs.map fun x => (key x, value x)))) := by
  have hitem (x) (hx : x ∈ xs) (items : List (Option String × Display)) (below : List Frame) :
      (entryTokens (key x) (tokens x)).foldlM step? (⟨'\x7b', items, none, none⟩ :: below) =
        some (⟨'\x7b', items ++ [(some (key x), value x)], none, none⟩ :: below) := by
    have hvalue : (tokens x ++ [Token.mark ',']).foldlM step?
        (⟨'\x7b', items, some (key x), none⟩ :: below) =
          some (⟨'\x7b', items ++ [(some (key x), value x)], none, none⟩ :: below) := by
      rw [List.foldlM_append, h x hx]
      rfl
    rw [entryTokens, List.foldlM_cons, step?_text]
    exact hvalue
  have hkeyed : (xs.map fun x => (some (key x), value x)).mapM Frame.keyed? =
      some (xs.map fun x => (key x, value x)) := by
    rw [List.mapM_map]
    exact List.mapM_pure
  refine reads_enclosed .braces ?_ fun below =>
    foldlM_items (fun x hx items => hitem x hx items below) []
  simp [Frame.close?, Frame.all?, hkeyed]

theorem reads_list (h : ∀ x ∈ xs, Reads (tokens x) (value x)) :
    Reads (.mark '[' :: xs.flatMap (fun x => tokens x ++ [.mark ',']) ++ [.mark ']'])
      (.list (xs.map value)) := by
  have hitem (x) (hx : x ∈ xs) (items : List (Option String × Display)) (below : List Frame) :
      (tokens x ++ [Token.mark ',']).foldlM step? (⟨'[', items, none, none⟩ :: below) =
        some (⟨'[', items ++ [(none, value x)], none, none⟩ :: below) := by
    rw [List.foldlM_append, h x hx]
    rfl
  have hunkeyed : (xs.map fun x => ((none : Option String), value x)).mapM Frame.unkeyed? =
      some (xs.map value) := by
    rw [List.mapM_map]
    exact List.mapM_pure
  refine reads_enclosed .square ?_ fun below =>
    foldlM_items (fun x hx items => hitem x hx items below) []
  simp [Frame.close?, Frame.all?, hunkeyed]

theorem reads_pair (h : Reads ts v) (h' : Reads us w) :
    Reads (.mark '(' :: (ts ++ .mark ',' :: us) ++ [.mark ')']) (.tuple [v, w]) := by
  have hitems (below : List Frame) :
      (ts ++ Token.mark ',' :: us).foldlM step? (.opened '(' :: below) =
        some (⟨'(', [(none, v)], none, some w⟩ :: below) := by
    rw [List.foldlM_append, Frame.opened, h]
    exact h' _ _ _ _
  exact reads_enclosed .parentheses rfl hitems

section Fields

variable (fields : List (String × String))

def mapping : Display := .dict (Fields.ofItems (fields.map fun field => (field.1, .text field.2)))

def pairs : Display := .list (fields.map fun field => .tuple [.text field.1, .text field.2])

theorem items?_mapping : (mapping fields).items? = some (Fields.ofItems fields) := by
  rw [mapping, Fields.ofItems_map, items?, List.mapM_map]
  exact (List.mapM_pure (f := id)).trans (congrArg _ (List.map_id _))

theorem items?_pairs : (pairs fields).items? = some fields := by
  rw [pairs, items?, List.mapM_map]
  exact (List.mapM_pure (f := id)).trans (congrArg _ (List.map_id fields))

example : ((ofTokens? (Token.ofText "\x7b'a': '1', 'a': \"2'\"\x7d")).bind items? =
      some [("a", "2'")]) ∧
    (ofTokens? (Token.ofText "[('a', '1'), ('a', '\\x32'),]")).bind items? =
      some [("a", "1"), ("a", "2")] := by
  decide +kernel

end Fields

end Display

end CurlScribe
