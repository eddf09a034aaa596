import CurlScribe.Proofs.Target.Display
import CurlScribe.Proofs.Target.Reading

/-!
Python code as statements, and what they assign to names. A line goes on while a bracket is open.
-/

namespace CurlScribe

namespace Token

def opens : Token → Bool
  | mark c => c = '(' || c = '[' || c = '\x7b'
  | _ => false

def closes : Token → Bool
  | mark c => c = ')' || c = ']' || c = '\x7d'
  | _ => false

def depthBehind (depth : Nat) (t : Token) : Nat :=
  if t.opens then depth + 1 else if t.closes then depth - 1 else depth

/-- The tokens without the line ends in brackets. -/
def logical : Nat → List Token → List Token
  | _, [] => []
  | depth, t :: rest =>
    if t = newline ∧ depth ≠ 0 then logical depth rest
    else t :: logical (depthBehind depth t) rest

def statements (ts : List Token) : List (List Token) := lines (logical 0 ts)

structure IsInline (ts : List Token) : Prop where
  newline : ts.contains newline = false
  depth : ∀ depth, ts.foldl depthBehind depth = depth

variable {α : Type} {ts us : List Token} {xs : List α} {f : α → List Token} {depth : Nat}

theorem logical_append (depth : Nat) (ts us : List Token) :
    logical depth (ts ++ us) = logical depth ts ++ logical (ts.foldl depthBehind depth) us := by
  induction ts generalizing depth with
  | nil => rfl
  | cons t ts ih =>
    rw [List.cons_append, logical, logical, List.foldl_cons]
    split
    · rename_i hline
      rw [ih, hline.1]
      rfl
    · rw [ih, List.cons_append]

theorem logical_of_not_mem (h : newline ∉ ts) (depth : Nat) : logical depth ts = ts := by
  induction ts generalizing depth with
  | nil => rfl
  | cons t ts ih =>
    obtain ⟨ht, hts⟩ := not_or.1 (mt List.mem_cons.2 h)
    rw [logical, if_neg fun hline => ht hline.1.symm, ih hts]

theorem statements_append (h : ts.foldl depthBehind 0 = 0) (us : List Token) :
    statements (ts ++ newline :: us) = statements ts ++ statements us := by
  rw [statements, logical_append, h, logical, if_neg fun hline => hline.2 rfl, lines_append]
  rfl

namespace IsInline

theorem not_mem (h : IsInline ts) : Token.newline ∉ ts := by simpa using h.newline

theorem append (h : IsInline ts) (h' : IsInline us) : IsInline (ts ++ us) :=
  ⟨by rw [List.contains_append, h.newline, h'.newline]; rfl,
    fun depth => by rw [List.foldl_append, h.depth, h'.depth]⟩

theorem flatMap (h : ∀ x ∈ xs, IsInline (f x)) : IsInline (xs.flatMap f) := by
  induction xs with
  | nil => exact ⟨rfl, fun _ => rfl⟩
  | cons x xs ih =>
    obtain ⟨hx, hxs⟩ := List.forall_mem_cons.1 h
    exact hx.append (ih hxs)

theorem enclosed {c d : Char} (hcd : Encloses c d) (h : IsInline ts) :
    IsInline (.mark c :: ts ++ [.mark d]) := by
  refine ⟨?_, fun depth => ?_⟩
  · rw [List.contains_append, List.contains_cons, h.newline]
    cases hcd <;> rfl
  · rw [List.cons_append, List.foldl_cons, List.foldl_append, h.depth]
    cases hcd <;> rfl

theorem assignment (h : IsInline ts) (w : List Char) : IsInline (.word w :: .mark '=' :: ts) :=
  have hstart : IsInline [.word w, .mark '='] := ⟨rfl, fun _ => rfl⟩
  hstart.append h

theorem logical (h : IsInline ts) (depth : Nat) : logical depth ts = ts :=
  logical_of_not_mem h.not_mem depth

theorem statements (h : IsInline ts) : statements ts = [ts] := by
  rw [Token.statements, h.logical, lines_of_not_mem h.not_mem]

end IsInline

theorem logical_rows (h : ∀ x ∈ xs, IsInline (f x)) (hdepth : depth ≠ 0) (us : List Token) :
    logical depth (xs.flatMap (fun x => f x ++ [newline]) ++ us) =
      xs.flatMap f ++ logical depth us := by
  induction xs with
  | nil => rfl
  | cons x xs ih =>
    obtain ⟨hx, hxs⟩ := List.forall_mem_cons.1 h
    rw [List.flatMap_cons, List.flatMap_cons, List.append_assoc, List.append_assoc,
      logical_append, hx.logical, hx.depth, List.singleton_append, logical, if_pos ⟨rfl, hdepth⟩,
      ih hxs, List.append_assoc]

theorem foldl_depthBehind_rows (h : ∀ x ∈ xs, IsInline (f x)) (depth : Nat) :
    (xs.flatMap (fun x => f x ++ [newline])).foldl depthBehind depth = depth := by
  induction xs with
  | nil => rfl
  | cons x xs ih =>
    obtain ⟨hx, hxs⟩ := List.forall_mem_cons.1 h
    rw [List.flatMap_cons, List.foldl_append, List.foldl_append, hx.depth]
    exact ih hxs

theorem newline_mem_step {p : Place} {c : Char} (h : newline ∈ (step p c).1) : c = '\n' := by
  have hbegin (h : newline ∈ (begin c).1) : c = '\n' := by
    unfold begin at h
    split_ifs at h
    · cases h
    · cases h
    · cases h
    · cases List.mem_singleton.1 h
      rfl
  cases p with
  | between => exact hbegin h
  | word w =>
    rw [step] at h
    split at h
    · cases h
    · rcases List.mem_cons.1 h with heq | h
      · unfold wordBefore at heq
        split at heq <;> cases heq
      · exact hbegin h
  | literal q w =>
    rw [step] at h
    split at h
    · cases List.mem_singleton.1 h
    · cases h
  | escape q w => cases h

theorem newline_not_mem_scan {p : Place} {s : List Char} (h : '\n' ∉ s) :
    newline ∉ (scan p s).1 := by
  induction s generalizing p with
  | nil => exact List.not_mem_nil
  | cons c s ih =>
    rw [List.mem_cons, not_or] at h
    rw [scan, List.mem_append, not_or]
    exact ⟨fun hmem => h.1 (newline_mem_step hmem).symm, ih h.2⟩

theorem newline_not_mem_tokens {quote : String → String} {c : Code} (hquote : Delimits quote)
    (h : '\n' ∉ (c.text quote).toList) : newline ∉ c.tokens quote := by
  rw [Code.tokens, ← scan_text hquote, List.mem_append, not_or]
  refine ⟨newline_not_mem_scan h, ?_⟩
  cases (scan .between (c.text quote).toList).2 with
  | word w => exact fun hmem => by cases List.mem_singleton.1 hmem
  | between | literal | escape => exact List.not_mem_nil

end Token

namespace Display

open Token

/-- What a statement assigns to a name, if it does: the value of a display, and none for other
code. -/
def assignment? (name : String) : List Token → Option (Option Display)
  | .word w :: .mark '=' :: ts => if name = .ofList w then some (ofTokens? ts) else none
  | _ => none

def assigned (name : String) (ts : List Token) : List (Option Display) :=
  (statements ts).filterMap (assignment? name)

variable {name own : String} {ts us : List Token}

theorem assigned_congr (h : logical 0 ts = logical 0 us) :
    assigned name ts = assigned name us := by
  rw [assigned, assigned, statements, statements, h]

theorem assigned_append (h : ts.foldl depthBehind 0 = 0) (us : List Token) :
    assigned name (ts ++ newline :: us) = assigned name ts ++ assigned name us := by
  rw [assigned, statements_append h, List.filterMap_append]
  rfl

theorem assigned_assignment (h : IsInline ts) :
    assigned name (.word own.toList :: .mark '=' :: ts) =
      if name = own then [ofTokens? ts] else [] := by
  rw [assigned, (h.assignment _).statements, List.filterMap_cons, assignment?, String.ofList_toList]
  split <;> simp_all

theorem assigned_lastLine (h : newline ∉ ts) (hnone : assignment? name ts = none) :
    assigned name (ts ++ [newline]) = [] := by
  have hlast (depth : Nat) : logical depth [newline] = if depth = 0 then [newline] else [] := by
    cases depth <;> rfl
  have hempty : assignment? name [] = none := rfl
  -- The last line end counts or not, as the brackets are closed or not; nothing stands behind it.
  rw [assigned, statements, logical_append, logical_of_not_mem h, hlast]
  split
  · rw [lines_append, lines_of_not_mem h]
    simp [hnone, lines, hempty]
  · rw [List.append_nil, lines_of_not_mem h]
    simp [hnone]

end Display

namespace Code

open Token Display

variable {name : String} {c d : Code} {cs ds : List Code} {values more : List (Option Display)}

structure IsWhole (c : Code) : Prop where
  isPhrase : IsPhrase Text.shown c
  depth : (c.tokens Text.shown).foldl depthBehind 0 = 0

structure Assigns (name : String) (c : Code) (values : List (Option Display)) : Prop where
  isWhole : IsWhole c
  assigned : Display.assigned name (c.tokens Text.shown) = values

theorem assigns_inline {own : String} {ts : List Token} (hphrase : IsPhrase Text.shown c)
    (htokens : c.tokens Text.shown = .word own.toList :: .mark '=' :: ts) (h : IsInline ts) :
    Assigns name c (if name = own then [ofTokens? ts] else []) :=
  ⟨⟨hphrase, htokens ▸ (h.assignment _).depth 0⟩, htokens ▸ assigned_assignment h⟩

structure Assigning (name : String) (cs : List Code) (values : List (Option Display)) : Prop where
  isWhole : ∀ c ∈ cs, IsWhole c
  assigned : cs.flatMap (Display.assigned name <| tokens Text.shown ·) = values

namespace Assigning

theorem nil : Assigning name [] [] := ⟨List.forall_mem_nil _, rfl⟩

theorem singleton (h : Assigns name c values) : Assigning name [c] values :=
  ⟨List.forall_mem_singleton.2 h.isWhole, (List.flatMap_singleton ..).trans h.assigned⟩

theorem append (h : Assigning name cs values) (h' : Assigning name ds more) :
    Assigning name (cs ++ ds) (values ++ more) :=
  ⟨List.forall_mem_append.2 ⟨h.isWhole, h'.isWhole⟩, by
    rw [List.flatMap_append, h.assigned, h'.assigned]⟩

theorem of_wanted (wanted : Bool) (h : Assigns name c values) :
    Assigning name (Code.when wanted c) (if wanted then values else []) := by
  cases wanted with
  | false => exact nil
  | true => exact singleton h

theorem blocks (h : Assigning name cs values) (d e : Code) :
    Display.assigned name ((Code.blocks (cs ++ [d]) ++ e).tokens Text.shown) =
      values ++ Display.assigned name ((d ++ e).tokens Text.shown) := by
  obtain ⟨hwhole, rfl⟩ := h
  induction cs with
  | nil => rfl
  | cons c cs ih =>
    obtain ⟨hc, hcs⟩ := List.forall_mem_cons.1 hwhole
    have hblocks : Code.blocks (c :: cs ++ [d]) ++ e =
        c ++ (("\n\n" : Code) ++ (Code.blocks (cs ++ [d]) ++ e)) := by
      cases cs <;> simp [Code.blocks, Code.joined]
    have hsep : Separates (("\n\n" : Code) ++ (Code.blocks (cs ++ [d]) ++ e)) :=
      ⟨_, _, _, rfl, rfl, by decide⟩
    have hgap : tokens Text.shown (("\n\n" : Code) ++ (Code.blocks (cs ++ [d]) ++ e)) =
        newline :: newline :: (Code.blocks (cs ++ [d]) ++ e).tokens Text.shown :=
      tokens_append (.inl rfl)
    have hempty : ([] : List Token).foldl depthBehind 0 = 0 := rfl
    rw [hblocks, tokens_append (.inr ⟨hc.isPhrase, hsep⟩), hgap, assigned_append hc.depth,
      List.flatMap_cons, List.append_assoc, ← ih hcs]
    exact congrArg _ (assigned_append hempty _)

end Assigning

end Code

end CurlScribe
