import CurlScribe.Proofs.Number.Shortest
import CurlScribe.Proofs.Target.Token

/-!
How code is read that is put together of lines, or of phrases on a line. Nothing is lost where two of
them meet.
-/

namespace CurlScribe

open Token

namespace Code

variable {quote : String → String} {c d : Code} {tss : List (List Token)}

def tokens (quote : String → String) (c : Code) : List Token :=
  (Token.read quote .between c).1 ++ (Token.read quote .between c).2.last

section Lines

def IsLine (quote : String → String) (c : Code) : Prop :=
  (Token.read quote .between c).2.isEnd = true ∧ (c.tokens quote).contains newline = false

instance : Decidable (IsLine quote c) := inferInstanceAs (Decidable (_ ∧ _))

def AreLines (quote : String → String) (c : Code) (tss : List (List Token)) : Prop :=
  Token.read quote .between c = (tss.flatMap (· ++ [newline]), .between) ∧
    ∀ ts ∈ tss, ts.contains newline = false

theorem read_break {p : Place} (h : p.isEnd = true) :
    Token.read quote p ("\n" : Code) = (p.last ++ [newline], .between) := by
  cases p with
  | between | word => rfl
  | literal | escape => cases h

theorem IsLine.areLines (h : IsLine quote c) :
    AreLines quote (c ++ ("\n" : Code)) [c.tokens quote] := by
  refine ⟨?_, List.forall_mem_singleton.2 h.2⟩
  rw [List.flatMap_singleton, tokens, read_append, read_break h.1, List.append_assoc]

theorem AreLines.append {uss : List (List Token)} (h : AreLines quote c tss)
    (hd : AreLines quote d uss) : AreLines quote (c ++ d) (tss ++ uss) := by
  refine ⟨?_, List.forall_mem_append.2 ⟨h.2, hd.2⟩⟩
  rw [read_append, h.1, hd.1, List.flatMap_append]

theorem areLines_lines {cs : List Code} (h : ∀ c ∈ cs, IsLine quote c) (hne : cs ≠ []) :
    AreLines quote (Code.lines cs ++ ("\n" : Code)) (cs.map (tokens quote)) := by
  induction cs with
  | nil => exact absurd rfl hne
  | cons c cs ih =>
    obtain ⟨hc, hcs⟩ := List.forall_mem_cons.1 h
    cases cs with
    | nil => exact hc.areLines
    | cons d cs =>
      have hlines : Code.lines (c :: d :: cs) ++ ("\n" : Code) =
          c ++ ("\n" : Code) ++ (Code.lines (d :: cs) ++ ("\n" : Code)) := by
        simp [Code.lines, Code.joined]
      rw [hlines]
      exact hc.areLines.append (ih hcs (List.cons_ne_nil _ _))

theorem AreLines.lines_ofText (hquote : Delimits quote) (h : AreLines quote c tss) :
    Token.lines (ofText (c.text quote)) = tss ++ [[]] := by
  have hfree : ∀ ts ∈ tss, newline ∉ ts := by simpa using h.2
  rw [ofText, scan_text hquote, h.1]
  exact lines_flatMap hfree []

theorem areLines_cut {s t : String} : AreLines quote (c ++ .code (s ++ t) :: d) tss ↔
    AreLines quote (c ++ .code s :: .code t :: d) tss := by
  have hread (p : Place) : Token.read quote p (.code (s ++ t) :: d) =
      Token.read quote p (.code s :: .code t :: d) := by
    simp only [Token.read, readFragment, String.toList_append, scan_append, List.append_assoc]
  rw [AreLines, AreLines, read_append, read_append, hread]

end Lines

section Phrases

/-- Whether code ends neither in a literal nor in a word. -/
def IsClosed (quote : String → String) (c : Code) : Prop :=
  (Token.read quote .between c).2 = .between

/-- Whether no literal in code goes on behind it. -/
def IsPhrase (quote : String → String) (c : Code) : Prop :=
  (Token.read quote .between c).2.isEnd = true

def Separates (c : Code) : Prop :=
  ∃ first rest after, c = .code (.ofList (first :: rest)) :: after ∧
    isWordChar first = false ∧ first ≠ ':'

theorem IsClosed.isPhrase (h : IsClosed quote c) : IsPhrase quote c := by
  rw [IsPhrase, h]
  rfl

theorem read_separated {p : Place} (hp : p.isEnd = true) (hd : Separates d) :
    Token.read quote p d =
      (p.last ++ (Token.read quote .between d).1, (Token.read quote .between d).2) := by
  obtain ⟨first, rest, after, rfl, hfirst, hcolon⟩ := hd
  cases p with
  | between => rfl
  | word w =>
    simp [Token.read, readFragment, scan, step, hfirst, wordBefore, hcolon, Place.last]
  | literal | escape => cases hp

theorem read_apart (h : IsClosed quote c ∨ IsPhrase quote c ∧ Separates d) :
    (c ++ d).tokens quote = c.tokens quote ++ d.tokens quote ∧
      (Token.read quote .between (c ++ d)).2 = (Token.read quote .between d).2 := by
  rcases h with h | ⟨hc, hd⟩
  · rw [tokens, read_append, h, tokens, h, tokens]
    exact ⟨by simp [Place.last], rfl⟩
  · rw [tokens, read_append, read_separated hc hd, tokens, tokens]
    exact ⟨by simp, rfl⟩

variable (h : IsClosed quote c ∨ IsPhrase quote c ∧ Separates d)

include h

theorem tokens_append : (c ++ d).tokens quote = c.tokens quote ++ d.tokens quote := (read_apart h).1

theorem isPhrase_append (hd : IsPhrase quote d) : IsPhrase quote (c ++ d) := by
  rw [IsPhrase, (read_apart h).2]
  exact hd

theorem isLine_append (hfree : (c.tokens quote).contains newline = false) (hd : IsLine quote d) :
    IsLine quote (c ++ d) := by
  refine ⟨isPhrase_append h hd.1, ?_⟩
  rw [tokens_append h, List.contains_append, hfree, hd.2]
  rfl

theorem isClosed_append (hd : IsClosed quote d) : IsClosed quote (c ++ d) :=
  (read_apart h).2.trans hd

end Phrases

section Rows

theorem tokens_joined {cs : List Code} (h : ∀ c ∈ cs, IsClosed quote c) :
    IsClosed quote (joined "" cs) ∧ (joined "" cs).tokens quote = cs.flatMap (tokens quote) := by
  induction cs with
  | nil => exact ⟨rfl, rfl⟩
  | cons c cs ih =>
    obtain ⟨hc, hcs⟩ := List.forall_mem_cons.1 h
    cases cs with
    | nil => exact ⟨hc, by simp [joined]⟩
    | cons d cs =>
      obtain ⟨hclosed, htokens⟩ := ih hcs
      have hrest : tokens quote (.code "" :: joined "" (d :: cs)) =
          (d :: cs).flatMap (tokens quote) := htokens
      have hjoined : joined "" (c :: d :: cs) = c ++ .code "" :: joined "" (d :: cs) := rfl
      refine ⟨isClosed_append (.inl hc) hclosed, ?_⟩
      rw [hjoined, tokens_append (.inl hc), hrest]
      rfl

theorem tokens_between {start value ending : Code} (hstart : IsClosed quote start)
    (h : IsPhrase quote value) (hsep : Separates ending) (hending : IsClosed quote ending) :
    IsClosed quote (start ++ (value ++ ending)) ∧ (start ++ (value ++ ending)).tokens quote =
      start.tokens quote ++ (value.tokens quote ++ ending.tokens quote) := by
  refine ⟨isClosed_append (.inl hstart) (isClosed_append (.inr ⟨h, hsep⟩) hending), ?_⟩
  rw [tokens_append (.inl hstart), tokens_append (.inr ⟨h, hsep⟩)]

end Rows

section Found

variable {α : Type} {f : Token → List α} {sep : String} {cs : List Code}

def found (f : Token → List α) (quote : String → String) (c : Code) : List α :=
  (c.tokens quote).flatMap f

theorem found_append (h : IsClosed quote c ∨ IsPhrase quote c ∧ Separates d) :
    found f quote (c ++ d) = found f quote c ++ found f quote d := by
  rw [found, tokens_append h, List.flatMap_append]
  rfl

structure IsSeparator (f : Token → List α) (quote : String → String) (sep : Code) : Prop where
  separates : Separates sep
  isClosed : IsClosed quote sep
  found : found f quote sep = []

theorem isPhrase_joined (hsep : IsSeparator f quote (sep : Code)) (h : ∀ c ∈ cs, IsPhrase quote c) :
    IsPhrase quote (joined sep cs) ∧
      found f quote (joined sep cs) = cs.flatMap (found f quote) := by
  induction cs with
  | nil => exact ⟨rfl, rfl⟩
  | cons c cs ih =>
    obtain ⟨hc, hcs⟩ := List.forall_mem_cons.1 h
    cases cs with
    | nil => exact ⟨hc, (List.append_nil _).symm⟩
    | cons d cs =>
      obtain ⟨hrest, hfound⟩ := ih hcs
      have hafter : IsPhrase quote ((sep : Code) ++ joined sep (d :: cs)) :=
        isPhrase_append (.inl hsep.isClosed) hrest
      have hseparates : Separates ((sep : Code) ++ joined sep (d :: cs)) := by
        obtain ⟨first, rest, after, hcode, hfirst⟩ := hsep.separates
        exact ⟨first, rest, after ++ joined sep (d :: cs), by rw [hcode, List.cons_append], hfirst⟩
      refine ⟨isPhrase_append (.inr ⟨hc, hseparates⟩) hafter, ?_⟩
      have hall := found_append (f := f) (.inr ⟨hc, hseparates⟩)
      rw [found_append (.inl hsep.isClosed), hsep.found, hfound] at hall
      exact hall

end Found

section Names

def IsWordText (s : List Char) : Prop := ∀ c ∈ s, isWordChar c = true

instance : DecidablePred IsWordText := fun s =>
  List.decidableBAll (fun c => isWordChar c = true) s

theorem scan_word {s : List Char} (h : IsWordText s) (before : List Char) :
    scan (.word before) s = ([], .word (s.reverse ++ before)) := by
  induction s generalizing before with
  | nil => rfl
  | cons c s ih =>
    obtain ⟨hc, hs⟩ := List.forall_mem_cons.1 h
    simp [scan, step, hc, ih hs]

theorem scan_between_word {s : List Char} (h : IsWordText s) (hne : s ≠ []) :
    scan .between s = ([], .word s.reverse) := by
  cases s with
  | nil => exact absurd rfl hne
  | cons c s =>
    obtain ⟨hc, hs⟩ := List.forall_mem_cons.1 h
    simp [scan, step, begin, hc, scan_word hs]

theorem read_word {s : String} (h : IsWordText s.toList) (hne : s.toList ≠ []) (rest : Code) :
    Token.read quote .between (.code s :: rest) =
      Token.read quote (.word s.toList.reverse) rest := by
  rw [Token.read, readFragment, scan_between_word h hne]
  rfl

end Names

section Numerals

def isNumeralChar (c : Char) : Bool := c.isDigit || c = '.' || c = 'e' || c = '+' || c = '-'

inductive IsNumeral : Token → Prop
  | word {w : List Char} : (∀ c ∈ w, isNumeralChar c = true) → IsNumeral (.word w)
  | sign {c : Char} : c = '+' ∨ c = '-' → IsNumeral (.mark c)

inductive InNumeral : Place → Prop
  | between : InNumeral .between
  | word {w : List Char} : (∀ c ∈ w, isNumeralChar c = true) → InNumeral (.word w)

theorem begin_numeral {c : Char} (hc : isNumeralChar c = true) :
    begin c = ([], .word [c]) ∨ (c = '+' ∨ c = '-') ∧ begin c = ([.mark c], .between) := by
  by_cases hsign : c = '+' ∨ c = '-'
  · refine .inr ⟨hsign, ?_⟩
    rcases hsign with rfl | rfl <;> rfl
  · obtain ⟨hplus, hminus⟩ := not_or.1 hsign
    have hword : isWordChar c = true := by
      simp [isNumeralChar, hplus, hminus] at hc
      rcases hc with (hdigit | rfl) | rfl
      · simp [isWordChar, Char.isAlphanum, hdigit]
      · rfl
      · rfl
    exact .inl (by simp [begin, hword])

theorem step_numeral {p : Place} {c : Char} (hp : InNumeral p) (hc : isNumeralChar c = true) :
    (∀ t ∈ (step p c).1, IsNumeral t) ∧ InNumeral (step p c).2 := by
  have hbegin : (∀ t ∈ (begin c).1, IsNumeral t) ∧ InNumeral (begin c).2 := by
    rcases begin_numeral hc with h | ⟨hsign, h⟩
    · rw [h]
      exact ⟨by simp, .word (by simpa using hc)⟩
    · rw [h]
      exact ⟨by simpa using .sign hsign, .between⟩
  cases hp with
  | between => exact hbegin
  | @word w hw =>
    rw [step]
    split
    · exact ⟨by simp, .word (List.forall_mem_cons.2 ⟨hc, hw⟩)⟩
    · have hcolon : c ≠ ':' := by
        rintro rfl
        revert hc
        decide
      refine ⟨List.forall_mem_cons.2 ⟨?_, hbegin.1⟩, hbegin.2⟩
      rw [wordBefore, if_neg hcolon]
      exact .word (by simpa using hw)

theorem scan_numeral {p : Place} {s : List Char} (hp : InNumeral p)
    (hs : ∀ c ∈ s, isNumeralChar c = true) :
    (∀ t ∈ (scan p s).1, IsNumeral t) ∧ InNumeral (scan p s).2 := by
  induction s generalizing p with
  | nil => exact ⟨by simp [scan], hp⟩
  | cons c s ih =>
    obtain ⟨hc, hs⟩ := List.forall_mem_cons.1 hs
    obtain ⟨hfirst, hplace⟩ := step_numeral hp hc
    obtain ⟨hrest, hend⟩ := ih hplace hs
    exact ⟨List.forall_mem_append.2 ⟨hfirst, hrest⟩, hend⟩

theorem numeral {s : String} (hs : ∀ c ∈ s.toList, isNumeralChar c = true) :
    IsPhrase quote (s : Code) ∧ ∀ t ∈ tokens quote (s : Code), IsNumeral t := by
  have hread : Token.read quote .between (s : Code) = scan .between s.toList := by
    simp [Token.read, readFragment]
  obtain ⟨htokens, hplace⟩ := scan_numeral .between hs
  rw [IsPhrase, tokens, hread]
  generalize (scan .between s.toList).2 = p at hplace ⊢
  cases hplace with
  | between => exact ⟨rfl, List.forall_mem_append.2 ⟨htokens, by simp [Place.last]⟩⟩
  | word hw =>
    refine ⟨rfl, List.forall_mem_append.2 ⟨htokens, ?_⟩⟩
    simpa [Place.last] using .word (by simpa using hw)

theorem isDigit_of_mem_toString {n : Nat} {c : Char} (h : c ∈ (toString n).toList) :
    c.isDigit = true :=
  Nat.isDigit_of_mem_toDigits (by decide) le_rfl (Nat.toList_repr ▸ h)

theorem isWordText_toString {n : Nat} : IsWordText (toString n).toList := fun c hc => by
  simp [isWordChar, Char.isAlphanum, isDigit_of_mem_toString hc]

theorem isNumeralChar_nat {n : Nat} : ∀ c ∈ (toString n).toList, isNumeralChar c = true := by
  intro c hc
  simp [isNumeralChar, isDigit_of_mem_toString hc]

theorem isNumeralChar_int {n : Int} : ∀ c ∈ (toString n).toList, isNumeralChar c = true := by
  cases n with
  | ofNat n => exact isNumeralChar_nat
  | negSucc n =>
    have htext : (toString (Int.negSucc n)).toList = '-' :: (toString (n + 1)).toList :=
      String.toList_append
    rw [htext]
    exact List.forall_mem_cons.2 ⟨rfl, isNumeralChar_nat⟩

theorem isNumeralChar_text {x : Binary64} : ∀ c ∈ x.text.toList, isNumeralChar c = true := by
  obtain ⟨d, -, htext, -⟩ := Binary64.exists_decimal x
  have hdigit {c : Char} (hc : c.isDigit = true) : isNumeralChar c = true := by
    simp [isNumeralChar, hc]
  rw [htext, String.toList_ofList]
  obtain ⟨hwhole, hfraction⟩ := List.forall_mem_append.1 d.areDigits
  simp only [Numeral.Decimal.text, Numeral.Decimal.point, Numeral.Decimal.ending,
    List.forall_mem_append]
  refine ⟨?_, fun c hc => hdigit (hwhole c hc), ?_, ?_⟩
  · split <;> simp [isNumeralChar]
  · split
    · simp
    · exact List.forall_mem_cons.2 ⟨rfl, fun c hc => hdigit (hfraction c hc)⟩
  · cases d.exponent with
    | none => simp
    | some e =>
      refine List.forall_mem_cons.2 ⟨rfl, List.forall_mem_cons.2 ⟨?_, fun c hc =>
        hdigit (e.areDigits c hc)⟩⟩
      split <;> rfl

end Numerals

end Code

end CurlScribe
