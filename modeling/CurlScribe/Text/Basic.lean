namespace CurlScribe.Text

def cutList (sep : Char) : List Char → List Char × Option (List Char)
  | [] => ([], none)
  | c :: rest =>
    if c = sep then ([], some rest)
    else ((c :: (cutList sep rest).1), (cutList sep rest).2)

def cutLastList (sep : Char) (s : List Char) : Option (List Char) × List Char :=
  let (after, before) := cutList sep s.reverse
  (before.map List.reverse, after.reverse)

def cutOnList (sep : List Char) : List Char → List Char × Option (List Char)
  | [] => ([], none)
  | c :: rest =>
    match sep.isPrefixOf? (c :: rest) with
    | some after => ([], some after)
    | none => ((c :: (cutOnList sep rest).1), (cutOnList sep rest).2)

def cut (sep : Char) (s : String) : String × Option String :=
  let (before, after) := cutList sep s.toList
  (.ofList before, after.map .ofList)

def cutLast (sep : Char) (s : String) : Option String × String :=
  let (before, after) := cutLastList sep s.toList
  (before.map .ofList, .ofList after)

def cutOn (sep s : String) : String × Option String :=
  let (before, after) := cutOnList sep.toList s.toList
  (.ofList before, after.map .ofList)

def cutLastOn (sep s : String) : Option String × String :=
  let (after, before) := cutOnList sep.toList.reverse s.toList.reverse
  (before.map (.ofList ·.reverse), .ofList after.reverse)

def splitList (sep : Char) : List Char → List (List Char)
  | [] => [[]]
  | c :: rest =>
    if c = sep then [] :: splitList sep rest
    else
      match splitList sep rest with
      | piece :: pieces => (c :: piece) :: pieces
      | [] => [[c]]

def split (sep : Char) (s : String) : List String := (splitList sep s.toList).map .ofList

def startsWith (p s : String) : Bool := p.toList.isPrefixOf s.toList

def afterStart? (p s : String) : Option String := (p.toList.isPrefixOf? s.toList).map .ofList

def endsWith (p s : String) : Bool := p.toList.reverse.isPrefixOf s.toList.reverse

def dropEnd (n : Nat) (s : String) : String := .ofList (s.toList.take (s.toList.length - n))

def contains (p s : String) : Bool := (cutOnList p.toList s.toList).2.isSome

def hasChar (c : Char) (s : String) : Bool := s.toList.contains c

def replaceChar (c : Char) (text : String) (s : String) : String :=
  .ofList (s.toList.flatMap fun d => if d = c then text.toList else [d])

def spaces (n : Nat) : String := .ofList (List.replicate n ' ')

def joined (sep : String) : List String → String
  | [] => ""
  | [s] => s
  | s :: rest => s ++ sep ++ joined sep rest

@[simp] theorem cutList_of_not_mem {sep : Char} {s : List Char} (h : sep ∉ s) :
    cutList sep s = (s, none) := by
  induction s with
  | nil => rfl
  | cons c rest ih =>
    have hc : c ≠ sep := fun e => h (by simp [e])
    simp [cutList, hc, ih fun m => h (.tail _ m)]

@[simp] theorem cutList_append {sep : Char} {s rest : List Char} (h : sep ∉ s) :
    cutList sep (s ++ sep :: rest) = (s, some rest) := by
  induction s with
  | nil => simp [cutList]
  | cons c s ih =>
    have hc : c ≠ sep := fun e => h (by simp [e])
    simp [cutList, hc, ih fun m => h (.tail _ m)]

theorem splitList_ne_nil (sep : Char) (s : List Char) : splitList sep s ≠ [] := by
  cases s with
  | nil => simp [splitList]
  | cons c rest =>
    rw [splitList]
    split
    · simp
    · split <;> simp

end CurlScribe.Text
