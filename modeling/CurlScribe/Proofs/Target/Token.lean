import CurlScribe.Proofs.Target.Apostrophed
import CurlScribe.Proofs.Target.Quoted
import CurlScribe.Proofs.Text.Shown

/-!
Program text as tokens, so that names in it are told apart from what stands in string literals. Code
is read fragment by fragment, and its literals need not be looked into.
-/

namespace CurlScribe

/-- A piece of program text. -/
inductive Token
  | word (name : List Char)
  | label (name : List Char)
  | literal (written : List Char)
  | mark (c : Char)
  deriving DecidableEq

namespace Token

def newline : Token := .mark '\n'

def isWordChar (c : Char) : Bool :=
  c.isAlphanum || c = '_' || c = '$' || c = '.' || 0x80 ≤ c.toNat

inductive Place
  | between
  | word (before : List Char)
  | literal (quote : Char) (before : List Char)
  | escape (quote : Char) (before : List Char)

def begin (c : Char) : List Token × Place :=
  if isWordChar c then ([], .word [c])
  else if c = '\'' || c = '"' then ([], .literal c [c])
  else if c = ' ' || c = '\t' then ([], .between)
  else ([.mark c], .between)

def wordBefore (before : List Char) (c : Char) : Token :=
  if c = ':' then .label before.reverse else .word before.reverse

def step : Place → Char → List Token × Place
  | .between, c => begin c
  | .word w, c =>
    if isWordChar c then ([], .word (c :: w)) else (wordBefore w c :: (begin c).1, (begin c).2)
  | .literal q w, c =>
    if c = q then ([.literal (c :: w).reverse], .between)
    else ([], if c = '\\' then .escape q (c :: w) else .literal q (c :: w))
  | .escape q w, c => ([], .literal q (c :: w))

def scan : Place → List Char → List Token × Place
  | p, [] => ([], p)
  | p, c :: rest => ((step p c).1 ++ (scan (step p c).2 rest).1, (scan (step p c).2 rest).2)

def Place.last : Place → List Token
  | .word w => [.word w.reverse]
  | _ => []

def Place.isEnd : Place → Bool
  | .between | .word _ => true
  | _ => false

def ofText (s : String) : List Token :=
  (scan .between s.toList).1 ++ (scan .between s.toList).2.last

def lines : List Token → List (List Token)
  | [] => [[]]
  | t :: rest => if t = newline then [] :: lines rest else (lines rest).modifyHead (t :: ·)

theorem lines_ne_nil (ts : List Token) : lines ts ≠ [] := by
  induction ts with
  | nil => exact List.cons_ne_nil _ _
  | cons t ts ih =>
    rw [lines]
    split
    · exact List.cons_ne_nil _ _
    · exact mt List.modifyHead_eq_nil_iff.1 ih

theorem lines_append (ts us : List Token) : lines (ts ++ newline :: us) = lines ts ++ lines us := by
  induction ts with
  | nil => exact if_pos rfl
  | cons t ts ih =>
    obtain ⟨first, others, hlines⟩ := List.exists_cons_of_ne_nil (lines_ne_nil ts)
    rw [List.cons_append, lines, lines, ih, hlines]
    split <;> rfl

theorem lines_of_not_mem {ts : List Token} (h : newline ∉ ts) : lines ts = [ts] := by
  induction ts with
  | nil => rfl
  | cons t ts ih =>
    obtain ⟨ht, hts⟩ := not_or.1 (mt List.mem_cons.2 h)
    rw [lines, if_neg (Ne.symm ht), ih hts]
    rfl

theorem lines_flatMap {tss : List (List Token)} (h : ∀ ts ∈ tss, newline ∉ ts)
    (rest : List Token) :
    lines (tss.flatMap (· ++ [newline]) ++ rest) = tss ++ lines rest := by
  induction tss with
  | nil => rfl
  | cons ts tss ih =>
    obtain ⟨hts, htss⟩ := List.forall_mem_cons.1 h
    rw [List.flatMap_cons, List.append_assoc, List.append_assoc, List.singleton_append,
      lines_append, lines_of_not_mem hts, ih htss, List.singleton_append, List.cons_append]

theorem flatten_lines (ts : List Token) : (lines ts).flatten = ts.filter (· ≠ newline) := by
  induction ts with
  | nil => rfl
  | cons t ts ih =>
    obtain ⟨first, others, hlines⟩ := List.exists_cons_of_ne_nil (lines_ne_nil ts)
    rw [hlines] at ih
    rw [lines, hlines]
    split
    · simp_all
    · simp_all

theorem scan_append (p : Place) (s t : List Char) : scan p (s ++ t) =
    ((scan p s).1 ++ (scan (scan p s).2 t).1, (scan (scan p s).2 t).2) := by
  induction s generalizing p with
  | nil => rfl
  | cons c s ih => simp only [List.cons_append, scan, ih, List.append_assoc]

end Token

def Delimits (quote : String → String) : Prop :=
  ∀ s, Token.scan .between (quote s).toList = ([.literal (quote s).toList], .between)

section Delimits

open Token

/-- Whether characters in a literal leave the reader in the literal. -/
def StaysIn (q : Char) (written : List Char) : Prop :=
  ∀ before, scan (.literal q before) written = ([], .literal q (written.reverse ++ before))

theorem StaysIn.append {q : Char} {s t : List Char} (hs : StaysIn q s) (ht : StaysIn q t) :
    StaysIn q (s ++ t) := by
  intro before
  rw [scan_append, hs, ht, List.reverse_append, List.append_assoc]
  rfl

theorem StaysIn.flatMap {q : Char} {f : Char → List Char} (h : ∀ c, StaysIn q (f c))
    (s : List Char) : StaysIn q (s.flatMap f) := by
  induction s with
  | nil => exact fun _ => rfl
  | cons c s ih =>
    rw [List.flatMap_cons]
    exact (h c).append ih

theorem staysIn_plain {q : Char} {s : List Char} (h : ∀ c ∈ s, c ≠ q ∧ c ≠ '\\') :
    StaysIn q s := by
  induction s with
  | nil => exact fun _ => rfl
  | cons c s ih =>
    intro before
    obtain ⟨⟨hq, hbackslash⟩, hs⟩ := List.forall_mem_cons.1 h
    have hrest := ih hs (c :: before)
    simp [scan, step, hq, hbackslash, hrest]

theorem staysIn_escape {q : Char} {s : List Char} (hq : q ≠ '\\') (h : ∀ c ∈ s, c ≠ q ∧ c ≠ '\\')
    (c : Char) : StaysIn q ('\\' :: c :: s) := by
  intro before
  have hrest := staysIn_plain h (c :: '\\' :: before)
  simp [scan, step, hq.symm, hrest]

theorem scan_enclosed {q : Char} {written : List Char} (hq : q = '\'' ∨ q = '"')
    (h : StaysIn q written) : scan .between (q :: written ++ [q]) =
      ([.literal (q :: written ++ [q])], .between) := by
  have hbegin : begin q = ([], .literal q [q]) := by rcases hq with rfl | rfl <;> rfl
  have hopen : scan .between [q] = ([], .literal q [q]) := by simp [scan, step, hbegin]
  rw [← List.singleton_append, List.append_assoc, scan_append, hopen, scan_append, h]
  simp [scan, step]

theorem delimits_apostrophed : Delimits apostrophed := by
  intro s
  rw [toList_apostrophed, ← List.cons_append]
  refine scan_enclosed (.inl rfl) (.flatMap (fun c => ?_) _)
  unfold apostrophedChar
  split
  · exact staysIn_escape (by decide) (by simp) c
  · rename_i hc
    exact staysIn_plain (by simpa using hc)

theorem plain_of_mem_hex {q c : Char} {k n : Nat} (hq : q = '\'' ∨ q = '"')
    (h : c ∈ Text.hex k n) : c ≠ q ∧ c ≠ '\\' := by
  have hhex := Text.isHex_of_mem_hex c h
  refine ⟨?_, ?_⟩
  · rintro rfl
    rcases hq with rfl | rfl <;> revert hhex <;> decide
  · rintro rfl
    revert hhex
    decide

theorem staysIn_unitEscape (n : Nat) : StaysIn '"' (Json.unitEscape n) :=
  staysIn_escape (by decide) (fun _ => plain_of_mem_hex (.inr rfl)) 'u'

theorem delimits_quoted (ascii : Bool) : Delimits (Json.quoted ascii) := by
  intro s
  rw [Json.quoted, String.toList_ofList, Json.quotedList]
  refine scan_enclosed (.inr rfl) (.flatMap (fun c => ?_) _)
  have hwritten := Json.writtenAs_stringChar ascii c
  generalize Json.stringChar ascii c = text at hwritten ⊢
  cases hwritten with
  | letter _ => exact staysIn_escape (by decide) (by simp) _
  | unit _ => exact staysIn_unitEscape _
  | plain hquote hbackslash _ _ => exact staysIn_plain (by simpa using ⟨hquote, hbackslash⟩)
  | surrogates _ _ => exact (staysIn_unitEscape _).append (staysIn_unitEscape _)

theorem delimits_shown : Delimits Text.shown := by
  intro s
  have hmark := Text.quoteMark_eq s.toList
  rw [Text.shown, String.toList_ofList, Text.shownList]
  generalize Text.quoteMark s.toList = q at hmark ⊢
  have hq : q ≠ '\\' := by rcases hmark with rfl | rfl <;> decide
  refine scan_enclosed hmark (.flatMap (fun c => ?_) _)
  have hletter (c : Char) : StaysIn q ['\\', c] := staysIn_escape hq (by simp) c
  have hdigits (letter : Char) (k : Nat) : StaysIn q ('\\' :: letter :: Text.hex k c.toNat) :=
    staysIn_escape hq (fun _ => plain_of_mem_hex hmark) letter
  unfold Text.shownChar
  split_ifs with hmarked
  · exact hletter c
  · exact hletter 't'
  · exact hletter 'n'
  · exact hletter 'r'
  · exact staysIn_plain (by simpa using hmarked)
  · exact hdigits 'x' 2
  · exact hdigits 'u' 4
  · exact hdigits 'U' 8

end Delimits

namespace Token

variable {quote : String → String}

def readFragment (quote : String → String) : Place → Fragment → List Token × Place
  | p, .code s => scan p s.toList
  | .between, .literal s => ([.literal (quote s).toList], .between)
  | p, .literal s => scan p (quote s).toList

def read (quote : String → String) : Place → Code → List Token × Place
  | p, [] => ([], p)
  | p, fragment :: rest =>
    ((readFragment quote p fragment).1 ++ (read quote (readFragment quote p fragment).2 rest).1,
      (read quote (readFragment quote p fragment).2 rest).2)

theorem scan_fragmentText (h : Delimits quote) (p : Place) (fragment : Fragment) :
    scan p (Code.fragmentText quote fragment).toList = readFragment quote p fragment := by
  cases fragment with
  | code s => rfl
  | literal s =>
    cases p with
    | between => exact h s
    | _ => rfl

theorem scan_text (h : Delimits quote) (p : Place) (c : Code) :
    scan p (c.text quote).toList = read quote p c := by
  rw [Code.toList_text]
  induction c generalizing p with
  | nil => rfl
  | cons fragment rest ih =>
    rw [List.flatMap_cons, scan_append, scan_fragmentText h, ih]
    rfl

theorem read_append (p : Place) (c d : Code) : read quote p (c ++ d) =
    ((read quote p c).1 ++ (read quote (read quote p c).2 d).1,
      (read quote (read quote p c).2 d).2) := by
  induction c generalizing p with
  | nil => rfl
  | cons fragment rest ih => simp only [List.cons_append, read, ih, List.append_assoc]

end Token

end CurlScribe
