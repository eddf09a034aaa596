import CurlScribe.Proofs.Target.Reading
import CurlScribe.Proofs.Text.Cut

namespace CurlScribe.Script

open Token
open Code (IsLine AreLines IsPhrase IsClosed Separates IsSeparator found)

section Reading

def names (labels : Bool) : Token → List (List Char)
  | .word w => Text.splitList '.' w
  | .label w => if labels then Text.splitList '.' w else []
  | _ => []

def startsImport : Token → Bool
  | .word w => w = "import".toList || w = "from".toList
  | _ => false

def isImport : List Token → Bool
  | t :: _ => startsImport t
  | [] => false

def imported (line : List Token) : List (List Char) :=
  (((line.dropWhile (· ≠ .word "import".toList)).drop 1).takeWhile
    (· ≠ .word "from".toList)).flatMap (names true)

/-- Whether a script imports those of the names that stand elsewhere in it, and no others. -/
def ImportsUsed (labels : Bool) (watched : List (List Char)) (text : String) : Prop :=
  ∀ x ∈ watched, (∃ line ∈ Token.lines (ofText text), isImport line = true ∧ x ∈ imported line) ↔
    ∃ line ∈ Token.lines (ofText text), isImport line = false ∧ ∃ t ∈ line, x ∈ names labels t

/-- The names in a token that matter, and `import` for a word that an import starts with. -/
def mentions (labels : Bool) (watched : List (List Char)) (t : Token) : List (List Char) :=
  (if startsImport t then ["import".toList] else []) ++ (names labels t).filter (watched.contains ·)

end Reading

variable {labels : Bool} {watched : List (List Char)} {quote : String → String} {c d : Code}
  {tss : List (List Token)}

structure Mentions (labels : Bool) (watched : List (List Char)) (quote : String → String) (c : Code)
    (names : List (List Char)) : Prop where
  isPhrase : IsPhrase quote c
  mentioned : found (mentions labels watched) quote c = names

namespace Mentions

variable {more others : List (List Char)}

theorem append (hc : Mentions labels watched quote c more)
    (h : IsClosed quote c ∨ Separates d) (hd : Mentions labels watched quote d others) :
    Mentions labels watched quote (c ++ d) (more ++ others) := by
  have h := h.imp_right (And.intro hc.isPhrase)
  refine ⟨Code.isPhrase_append h hd.isPhrase, ?_⟩
  rw [Code.found_append h, hc.mentioned, hd.mentioned]

end Mentions

structure Phrases (labels : Bool) (watched : List (List Char)) (quote : String → String)
    (cs : List Code) (names : List (List Char)) : Prop where
  isPhrase : ∀ c ∈ cs, IsPhrase quote c
  mentioned : cs.flatMap (found (mentions labels watched) quote) = names

namespace Phrases

variable {cs ds : List Code} {more others : List (List Char)}

theorem nil : Phrases labels watched quote [] [] := ⟨List.forall_mem_nil _, rfl⟩

theorem singleton (h : Mentions labels watched quote c more) :
    Phrases labels watched quote [c] more :=
  ⟨List.forall_mem_singleton.2 h.isPhrase, (List.flatMap_singleton ..).trans h.mentioned⟩

theorem append (h : Phrases labels watched quote cs more)
    (h' : Phrases labels watched quote ds others) :
    Phrases labels watched quote (cs ++ ds) (more ++ others) :=
  ⟨List.forall_mem_append.2 ⟨h.isPhrase, h'.isPhrase⟩, by
    rw [List.flatMap_append, h.mentioned, h'.mentioned]⟩

theorem cons (h : Mentions labels watched quote c more)
    (h' : Phrases labels watched quote ds others) :
    Phrases labels watched quote (c :: ds) (more ++ others) := (singleton h).append h'

theorem of_wanted (wanted : Bool) (h : Mentions labels watched quote c more) :
    Phrases labels watched quote (Code.when wanted c) (if wanted then more else []) := by
  cases wanted with
  | false => exact nil
  | true => exact singleton h

theorem joined {sep : String} (h : Phrases labels watched quote cs more)
    (hsep : IsSeparator (mentions labels watched) quote (sep : Code)) :
    Mentions labels watched quote (Code.joined sep cs) more := by
  obtain ⟨hphrase, hfound⟩ := Code.isPhrase_joined hsep h.isPhrase
  exact ⟨hphrase, hfound.trans h.mentioned⟩

end Phrases

theorem mem_found_iff {x : List Char} (hx : x ∈ watched) (himport : x ≠ "import".toList) :
    x ∈ found (mentions labels watched) quote c ↔ ∃ t ∈ c.tokens quote, x ∈ names labels t := by
  simp only [found, mentions, List.mem_flatMap, List.mem_append, List.mem_ite_nil_right,
    List.mem_singleton, himport, and_false, false_or, List.mem_filter, List.contains_iff_mem, hx,
    and_true]

theorem mentions_numeral {t : Token} (ht : Code.IsNumeral t)
    (hwatched : ∀ x ∈ "import".toList :: "from".toList :: watched,
      x.all Code.isNumeralChar = false) : mentions labels watched t = [] := by
  cases ht with
  | sign => rfl
  | @word w hw =>
    have hother {x : List Char} (hx : x ∈ "import".toList :: "from".toList :: watched)
        (hchars : ∀ c ∈ x, c ∈ w) : False := by
      have hnumeral : x.all Code.isNumeralChar = true :=
        List.all_eq_true.2 fun c hc => hw c (hchars c hc)
      rw [hwatched x hx] at hnumeral
      cases hnumeral
    have hstart : startsImport (.word w) = false := by
      by_contra hstart
      simp only [startsImport, Bool.not_eq_false, Bool.or_eq_true, decide_eq_true_eq] at hstart
      rcases hstart with rfl | rfl
      · exact hother List.mem_cons_self fun _ => id
      · exact hother (List.mem_cons_of_mem _ List.mem_cons_self) fun _ => id
    rw [mentions, hstart, if_neg Bool.false_ne_true, List.nil_append, List.filter_eq_nil_iff]
    intro x hx hmem
    exact hother (List.mem_cons_of_mem _ (List.mem_cons_of_mem _ (List.contains_iff_mem.1 hmem)))
      (Text.subset_of_mem_splitList hx)

theorem lines_append_code (hc : AreLines quote c tss) (hquote : Delimits quote) :
    Token.lines (ofText ((c ++ d).text quote)) = tss ++ Token.lines (d.tokens quote) := by
  have hfree : ∀ ts ∈ tss, newline ∉ ts := by simpa using hc.2
  rw [ofText, scan_text hquote, read_append, hc.1, List.append_assoc]
  exact lines_flatMap hfree _

theorem importsUsed (hwatched : "import".toList ∉ watched) (hquote : Delimits quote)
    (hc : AreLines quote c tss) (himports : ∀ line ∈ tss, isImport line = true ∨ line = [])
    (hplain : "import".toList ∉ found (mentions labels watched) quote d)
    (h : ∀ x ∈ watched, x ∈ tss.flatMap imported ↔ x ∈ found (mentions labels watched) quote d) :
    ImportsUsed labels watched ((c ++ d).text quote) := by
  have hmem (t : Token) : (∃ line ∈ Token.lines (d.tokens quote), t ∈ line) ↔
      t ∈ d.tokens quote ∧ t ≠ newline := by
    rw [← List.mem_flatten, flatten_lines, List.mem_filter, decide_eq_true_eq]
  have hlater : ∀ line ∈ Token.lines (d.tokens quote), isImport line = false := by
    intro line hline
    cases line with
    | nil => rfl
    | cons t rest =>
      by_contra hstart
      refine hplain (List.mem_flatMap.2 ⟨t, ((hmem t).1 ⟨_, hline, List.mem_cons_self⟩).1, ?_⟩)
      rw [mentions, if_pos (Bool.not_eq_false _ ▸ hstart)]
      exact List.mem_append_left _ (List.mem_singleton_self _)
  intro x hx
  have himported : (∃ line ∈ Token.lines (ofText ((c ++ d).text quote)),
      isImport line = true ∧ x ∈ imported line) ↔ x ∈ tss.flatMap imported := by
    rw [lines_append_code hc hquote, List.mem_flatMap]
    constructor
    · rintro ⟨line, hline, himport, hx⟩
      rcases List.mem_append.1 hline with hline | hline
      · exact ⟨line, hline, hx⟩
      · rw [hlater line hline] at himport
        cases himport
    · rintro ⟨line, hline, hx⟩
      refine ⟨line, List.mem_append_left _ hline, (himports line hline).resolve_right ?_, hx⟩
      rintro rfl
      cases hx
  have hmentioned : (∃ line ∈ Token.lines (ofText ((c ++ d).text quote)),
      isImport line = false ∧ ∃ t ∈ line, x ∈ names labels t) ↔
        x ∈ found (mentions labels watched) quote d := by
    rw [lines_append_code hc hquote, mem_found_iff hx fun heq => hwatched (heq ▸ hx)]
    constructor
    · rintro ⟨line, hline, hother, t, ht, hname⟩
      rcases List.mem_append.1 hline with hline | hline
      · rcases himports line hline with himport | rfl
        · rw [hother] at himport
          cases himport
        · cases ht
      · exact ⟨t, ((hmem t).1 ⟨line, hline, ht⟩).1, hname⟩
    · rintro ⟨t, ht, hname⟩
      have hne : t ≠ newline := by
        rintro rfl
        cases hname
      obtain ⟨line, hline, ht⟩ := (hmem t).2 ⟨ht, hne⟩
      exact ⟨line, List.mem_append_right _ hline, hlater line hline, t, ht, hname⟩
  rw [himported, hmentioned, h x hx]

theorem text_cut (c d : Code) (s t : String) :
    Code.text quote (c ++ .code (s ++ t) :: d) = Code.text quote (c ++ .code s :: .code t :: d) := by
  apply String.toList_inj.1
  simp [Code.toList_text, Code.fragmentText]

theorem isSeparator_break (f : Token → List (List Char)) (hbreak : f newline = []) :
    IsSeparator f quote ("\n" : Code) ∧ IsSeparator f quote ("\n\n" : Code) := by
  refine ⟨⟨⟨_, _, _, rfl, rfl, by decide⟩, rfl, ?_⟩, ⟨_, _, _, rfl, rfl, by decide⟩, rfl, ?_⟩
  · change f newline ++ [] = []
    rw [hbreak]
    rfl
  · change f newline ++ (f newline ++ []) = []
    rw [hbreak]
    rfl

structure Imports (quote : String → String) (lines : List Code) (names : List (List Char)) :
    Prop where
  isLine : ∀ c ∈ lines, IsLine quote c ∧ isImport (c.tokens quote) = true
  imported : (lines.map (Code.tokens quote)).flatMap imported = names

namespace Imports

variable {lines more : List Code} {names others : List (List Char)}

instance : Decidable (Imports quote lines names) :=
  decidable_of_iff (_ ∧ _) ⟨fun h => ⟨h.1, h.2⟩, fun h => ⟨h.isLine, h.imported⟩⟩

theorem append (h : Imports quote lines names) (hmore : Imports quote more others) :
    Imports quote (lines ++ more) (names ++ others) :=
  ⟨List.forall_mem_append.2 ⟨h.isLine, hmore.isLine⟩, by
    rw [List.map_append, List.flatMap_append, h.imported, hmore.imported]⟩

theorem of_wanted (wanted : Bool) (h : Imports quote [c] names) :
    Imports quote (Code.when wanted c) (if wanted then names else []) := by
  cases wanted with
  | false => exact ⟨List.forall_mem_nil _, rfl⟩
  | true => exact h

end Imports

theorem importsUsed_blocks (hwatched : "import".toList ∉ watched) (hquote : Delimits quote)
    {imports blocks : List Code} {names more : List (List Char)}
    (himports : Imports quote imports names) (hne : imports ≠ [])
    (hmore : Phrases labels watched quote blocks more) (hblocks : blocks ≠ [])
    (hplain : "import".toList ∉ more) (h : ∀ x ∈ watched, x ∈ names ↔ x ∈ more) :
    ImportsUsed labels watched
      (Code.text quote (Code.blocks (Code.lines imports :: blocks) ++ ("\n" : Code))) := by
  obtain ⟨hbreak, hgap⟩ : IsSeparator (mentions labels watched) quote ("\n" : Code) ∧
      IsSeparator (mentions labels watched) quote ("\n\n" : Code) := isSeparator_break _ rfl
  have hjoined : Mentions labels watched quote (Code.blocks blocks) more := hmore.joined hgap
  have hrest : found (mentions labels watched) quote
      (("\n" : Code) ++ (Code.blocks blocks ++ ("\n" : Code))) = more := by
    rw [Code.found_append (.inl hbreak.isClosed), Code.found_append
      (.inr ⟨hjoined.isPhrase, hbreak.separates⟩), hbreak.found, List.nil_append, List.append_nil]
    exact hjoined.mentioned
  have hcode : Code.blocks (Code.lines imports :: blocks) ++ ("\n" : Code) =
      Code.lines imports ++ .code ("\n" ++ "\n") :: (Code.blocks blocks ++ ("\n" : Code)) := by
    cases blocks with
    | nil => exact absurd rfl hblocks
    | cons c cs => simp [Code.blocks, Code.joined]
  have htext := importsUsed hwatched hquote
    (Code.areLines_lines (fun c hc => (himports.isLine c hc).1) hne)
    (List.forall_mem_map.2 fun c hc => .inl (himports.isLine c hc).2) (hrest ▸ hplain)
    (himports.imported ▸ hrest ▸ h)
  rw [hcode, text_cut]
  simpa using htext

end CurlScribe.Script
