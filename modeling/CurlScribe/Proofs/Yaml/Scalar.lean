import CurlScribe.Yaml.Scalar
import Mathlib.Data.List.Basic

/-!
YAML scalars tell texts apart. The style of a scalar is seen from its first character, and what is
written for each character, the ends of lines included, before what is written for the next one.
-/

namespace CurlScribe.Yaml

variable {p : Place} {column : Nat} {previous : Option Char} {s t : List Char} {c d : Char}

section Plain

theorem plainFrom_ne_nil : plainFrom p column previous (c :: s) ≠ [] := by
  rw [plainFrom]
  split <;> simp [newLine]

theorem plainFrom_inj (hs : '\n' ∉ s) (ht : '\n' ∉ t)
    (h : plainFrom p column previous s = plainFrom p column previous t) : s = t := by
  induction s generalizing t column previous with
  | nil =>
    cases t with
    | nil => rfl
    | cons d t => exact absurd h.symm plainFrom_ne_nil
  | cons c s ih =>
    cases t with
    | nil => exact absurd h plainFrom_ne_nil
    | cons d t =>
      rw [List.mem_cons, not_or] at hs ht
      rw [plainFrom, plainFrom] at h
      split at h <;> split at h
      case isTrue.isTrue hc hd =>
        rw [Bool.and_eq_true, decide_eq_true_eq] at hc hd
        obtain ⟨rfl, -⟩ := hc
        obtain ⟨rfl, -⟩ := hd
        rw [ih hs.2 ht.2 (List.append_cancel_left h)]
      case isTrue.isFalse => exact absurd (List.cons.inj h).1 ht.1
      case isFalse.isTrue => exact absurd (List.cons.inj h).1.symm hs.1
      case isFalse.isFalse =>
        obtain ⟨rfl, h⟩ := List.cons.inj h
        rw [ih hs.2 ht.2 h]

theorem exists_of_plainFrom (h : plainFrom p column previous s = c :: t) (hc : c ≠ '\n') :
    ∃ rest column previous, s = c :: rest ∧ plainFrom p column previous rest = t := by
  cases s with
  | nil => cases h
  | cons d s =>
    rw [plainFrom] at h
    split at h
    · exact absurd (List.cons.inj h).1.symm hc
    · obtain ⟨rfl, htail⟩ := List.cons.inj h
      exact ⟨s, _, _, rfl, htail⟩

theorem exists_of_plainFrom_append {w : List Char} (hw : '\n' ∉ w)
    (h : plainFrom p column previous s = w ++ t) : ∃ rest, s = w ++ rest := by
  induction w generalizing s column previous with
  | nil => exact ⟨s, rfl⟩
  | cons c w ih =>
    rw [List.mem_cons, not_or] at hw
    obtain ⟨s, column, previous, rfl, htail⟩ := exists_of_plainFrom h (Ne.symm hw.1)
    obtain ⟨rest, rfl⟩ := ih hw.2 htail
    exact ⟨rest, rfl⟩

end Plain

section Apostrophed

theorem newLine_of_pos (h : 0 < p.indent) :
    newLine p.indent = '\n' :: ' ' :: List.replicate (p.indent - 1) ' ' := by
  obtain ⟨n, hn⟩ := Nat.exists_eq_succ_of_ne_zero (Nat.ne_of_gt h)
  rw [newLine, hn, List.replicate_succ, Nat.succ_sub_one]

def gap (p : Place) (next : Option Char) : List Char :=
  if next.any isBreak then [] else List.replicate p.indent ' '

theorem apostrophedFrom_space : apostrophedFrom p column previous (' ' :: s) =
    if foldsAt p column previous s.head? then
      newLine p.indent ++ apostrophedFrom p p.indent (some ' ') s
    else ' ' :: apostrophedFrom p (column + 1) (some ' ') s := by
  have hbreak : isBreak ' ' = false := rfl
  rw [apostrophedFrom]
  simp [hbreak]

theorem apostrophedFrom_break (hc : isBreak c = true) :
    apostrophedFrom p column previous (c :: s) =
      (if c = '\n' ∧ previous.any isBreak = false then ['\n'] else []) ++
        c :: (gap p s.head? ++ apostrophedFrom p p.indent (some c) s) := by
  have hspace : c ≠ ' ' := by
    rintro rfl
    cases hc
  rw [apostrophedFrom, decide_eq_false hspace, if_neg (by simp), if_pos hc]
  simp [gap]

theorem apostrophedFrom_other (hspace : c ≠ ' ') (hc : isBreak c = false) :
    apostrophedFrom p column previous (c :: s) =
      if c = '\'' then '\'' :: '\'' :: apostrophedFrom p (column + 2) (some c) s
      else c :: apostrophedFrom p (column + 1) (some c) s := by
  rw [apostrophedFrom, decide_eq_false hspace, if_neg (by simp), if_neg (by simp [hc])]

/-- The first character is written as it is, but for a space that ends the line. That cannot be
taken for a line feed, for which the line ends a second time if it has not ended before. -/
theorem apostrophedFrom_head (column : Nat) (s : List Char) (hindent : 0 < p.indent)
    (hspace : previous.any isBreak = true → c ≠ ' ') :
    ∃ u, apostrophedFrom p column previous (c :: s) = c :: u ∧
        (c = '\n' → previous.any isBreak = false → u.head? = some '\n') ∨
      c = ' ' ∧ previous.any isBreak = false ∧
        apostrophedFrom p column previous (c :: s) = '\n' :: ' ' :: u := by
  by_cases hc : c = ' '
  · subst hc
    have hprevious : previous.any isBreak = false := by
      rw [← Bool.not_eq_true]
      exact fun h => hspace h rfl
    rw [apostrophedFrom_space]
    split
    · rw [newLine_of_pos hindent]
      exact ⟨_, .inr ⟨rfl, hprevious, rfl⟩⟩
    · exact ⟨_, .inl ⟨rfl, nofun⟩⟩
  · by_cases hbreak : isBreak c = true
    · rw [apostrophedFrom_break hbreak]
      split
      case isTrue hfeed =>
        rw [hfeed.1]
        exact ⟨_, .inl ⟨rfl, fun _ _ => rfl⟩⟩
      case isFalse hfeed =>
        exact ⟨_, .inl ⟨rfl, fun hc hprevious => absurd ⟨hc, hprevious⟩ hfeed⟩⟩
    · have hfeed : c ≠ '\n' := by
        rintro rfl
        exact hbreak rfl
      rw [apostrophedFrom_other hc (Bool.not_eq_true _ ▸ hbreak)]
      split
      case isTrue hquote =>
        rw [hquote]
        exact ⟨_, .inl ⟨rfl, nofun⟩⟩
      case isFalse => exact ⟨_, .inl ⟨rfl, fun h => absurd h hfeed⟩⟩

theorem eq_of_apostrophedFrom (hindent : 0 < p.indent)
    (hc : previous.any isBreak = true → c ≠ ' ') (hd : previous.any isBreak = true → d ≠ ' ')
    (h : apostrophedFrom p column previous (c :: s) =
      apostrophedFrom p column previous (d :: t)) : c = d := by
  obtain ⟨u, hu⟩ := apostrophedFrom_head column s hindent hc
  obtain ⟨v, hv⟩ := apostrophedFrom_head column t hindent hd
  rw [h] at hu
  rcases hu with ⟨hu, hfeed⟩ | ⟨rfl, hprevious, hu⟩ <;>
    rcases hv with ⟨hv, hfeed'⟩ | ⟨rfl, hprevious', hv⟩
  · exact (List.cons.inj (hu.symm.trans hv)).1
  · obtain ⟨rfl, rfl⟩ := List.cons.inj (hu.symm.trans hv)
    cases hfeed rfl hprevious'
  · obtain ⟨rfl, rfl⟩ := List.cons.inj (hv.symm.trans hu)
    cases hfeed' rfl hprevious
  · rfl

theorem spaceAtBreak_cons (h : spaceAtBreak (previous.toList ++ c :: s) = false) :
    (previous.any isBreak = true → c ≠ ' ') ∧ spaceAtBreak ((some c).toList ++ s) = false := by
  cases previous with
  | none => exact ⟨nofun, h⟩
  | some b =>
    rw [Option.toList_some, List.singleton_append, spaceAtBreak, Bool.or_eq_false_iff,
      Bool.or_eq_false_iff] at h
    refine ⟨fun hb hc => ?_, h.2⟩
    have hb : isBreak b = true := hb
    simp [hb, hc] at h

theorem apostrophedFrom_ne_nil : apostrophedFrom p column previous (c :: s) ≠ [] := by
  by_cases hspace : c = ' '
  · subst hspace
    rw [apostrophedFrom_space]
    split <;> simp [newLine]
  · by_cases hbreak : isBreak c = true
    · simp [apostrophedFrom_break hbreak]
    · rw [apostrophedFrom_other hspace (Bool.not_eq_true _ ▸ hbreak)]
      split <;> simp

theorem head?_gap (hindent : 0 < p.indent) (hc : isBreak c = true) :
    ((gap p s.head? ++ apostrophedFrom p p.indent (some c) s).head?.any isBreak) =
      s.head?.any isBreak := by
  have hgap (u : List Char) : ((List.replicate p.indent ' ' ++ u).head?.any isBreak) = false := by
    obtain ⟨n, hn⟩ := Nat.exists_eq_succ_of_ne_zero (Nat.ne_of_gt hindent)
    rw [hn, List.replicate_succ]
    rfl
  unfold gap
  split
  case isTrue hbreak =>
    cases s with
    | nil => cases hbreak
    | cons d s =>
      have hd : isBreak d = true := hbreak
      rw [List.nil_append, apostrophedFrom_break hd]
      simp [hc]
  case isFalse hbreak => rw [hgap, Bool.eq_false_iff.2 hbreak]

theorem apostrophedFrom_inj (previous : Option Char) (hindent : 0 < p.indent)
    (hs : spaceAtBreak (previous.toList ++ s) = false)
    (ht : spaceAtBreak (previous.toList ++ t) = false)
    (h : apostrophedFrom p column previous s = apostrophedFrom p column previous t) : s = t := by
  induction s generalizing t column previous with
  | nil =>
    cases t with
    | nil => rfl
    | cons d t => exact absurd h.symm apostrophedFrom_ne_nil
  | cons c s ih =>
    cases t with
    | nil => exact absurd h apostrophedFrom_ne_nil
    | cons d t =>
      obtain ⟨hcs, hs⟩ := spaceAtBreak_cons hs
      obtain ⟨hdt, ht⟩ := spaceAtBreak_cons ht
      obtain rfl := eq_of_apostrophedFrom hindent hcs hdt h
      congr 1
      by_cases hspace : c = ' '
      · subst hspace
        rw [apostrophedFrom_space, apostrophedFrom_space] at h
        split at h <;> split at h
        · exact ih _ hs ht (List.append_cancel_left h)
        · cases h
        · cases h
        · exact ih _ hs ht (List.cons.inj h).2
      · cases hbreak : isBreak c with
        | true =>
          rw [apostrophedFrom_break hbreak, apostrophedFrom_break hbreak] at h
          have h := (List.cons.inj (List.append_cancel_left h)).2
          have hgap : gap p s.head? = gap p t.head? := by
            rw [gap, gap, ← head?_gap hindent hbreak, h, head?_gap hindent hbreak]
          rw [hgap] at h
          exact ih _ hs ht (List.append_cancel_left h)
        | false =>
          rw [apostrophedFrom_other hspace hbreak, apostrophedFrom_other hspace hbreak] at h
          split at h
          · exact ih _ hs ht (List.cons.inj (List.cons.inj h).2).2
          · exact ih _ hs ht (List.cons.inj h).2

end Apostrophed

section Escape

variable {e e' u v : List Char}

def escapeWidth? : Char → Option Nat
  | 'x' => some 2
  | 'u' => some 4
  | 'U' => some 8
  | _ => none

def shortEscaped? : Char → Option Char
  | '0' => some '\x00'
  | 'a' => some '\x07'
  | 'b' => some '\x08'
  | 't' => some '\t'
  | 'n' => some '\n'
  | 'v' => some '\x0b'
  | 'f' => some '\x0c'
  | 'r' => some '\r'
  | 'e' => some '\x1b'
  | '"' => some '"'
  | '\\' => some '\\'
  | 'N' => some '\x85'
  | 'L' => some '\u2028'
  | 'P' => some '\u2029'
  | _ => none

def readEscape : List Char → Option (Char × List Char)
  | '\\' :: letter :: rest =>
    match escapeWidth? letter with
    | some n => some (.ofNat (Text.ofHex (rest.take n)), rest.drop n)
    | none => (shortEscaped? letter).map (·, rest)
  | _ => none

theorem shortEscape?_eq_some (h : shortEscape? c = some d) :
    escapeWidth? d = none ∧ shortEscaped? d = some c := by
  unfold shortEscape? at h
  split at h <;> cases h <;> exact ⟨rfl, rfl⟩

theorem readEscape_upperHex {letter : Char} {width : Nat}
    (hletter : escapeWidth? letter = some width) (hc : c.toNat < Nat.pow 16 width)
    (u : List Char) :
    readEscape ('\\' :: letter :: Text.upperHex width c.toNat ++ u) = some (c, u) := by
  have hlength : (Text.upperHex width c.toNat).length = width := by simp [Text.upperHex]
  have htake : (Text.upperHex width c.toNat ++ u).take width = Text.upperHex width c.toNat :=
    List.take_left' hlength
  have hdrop : (Text.upperHex width c.toNat ++ u).drop width = u := List.drop_left' hlength
  rw [List.cons_append, List.cons_append, readEscape, hletter]
  simp only [htake, hdrop, Text.ofHex_upperHex hc, Char.ofNat_toNat]

theorem readEscape_escape? (h : escape? c = some e) (u : List Char) :
    readEscape (e ++ u) = some (c, u) := by
  unfold escape? at h
  split at h
  case _ letter hshort =>
    obtain ⟨hwidth, hletter⟩ := shortEscape?_eq_some hshort
    cases h
    simp [readEscape, hwidth, hletter]
  case _ =>
    have hc := Text.toNat_lt c
    split at h
    · cases h
    · split at h
      · cases h
        exact readEscape_upperHex rfl (by simpa) u
      · split at h
        · cases h
          exact readEscape_upperHex rfl (by simpa) u
        · cases h
          exact readEscape_upperHex rfl (by simp; omega) u

theorem eq_of_escape? (hc : escape? c = some e) (hd : escape? d = some e') (h : e ++ u = e' ++ v) :
    c = d ∧ u = v := by
  have hread := readEscape_escape? hc u
  rw [h, readEscape_escape? hd v] at hread
  simpa [eq_comm] using hread

theorem escape?_eq_some (h : escape? c = some e) :
    ∃ letter rest, e = '\\' :: letter :: rest ∧ letter ≠ '\n' ∧ letter ≠ ' ' := by
  unfold escape? at h
  split at h
  case _ letter hshort =>
    cases h
    refine ⟨letter, [], rfl, ?_, ?_⟩ <;> rintro rfl <;> cases (shortEscape?_eq_some hshort).2
  case _ =>
    split at h
    · cases h
    · split at h
      · cases h
        exact ⟨'x', _, rfl, by decide⟩
      · split at h <;> cases h
        · exact ⟨'u', _, rfl, by decide⟩
        · exact ⟨'U', _, rfl, by decide⟩

theorem ne_of_escape?_eq_none (h : escape? c = none) : c ≠ '\\' ∧ c ≠ '\n' := by
  constructor <;> rintro rfl <;> cases h

end Escape

section Quoted

variable {first afterEscape : Bool} {e : List Char}

def continued (p : Place) (afterEscape : Bool) (s : List Char) : List Char :=
  continueBefore p s.head? ++ quotedFrom p (columnBefore p s.head?) false afterEscape s

theorem quotedFrom_escape (h : escape? c = some e) :
    quotedFrom p column first afterEscape (c :: s) = e ++
      if (p.folds && !first && s ≠ []) && width + 1 < column + e.length then continued p true s
      else quotedFrom p (column + e.length) false true s := by
  rw [quotedFrom, h]
  simp only [continued]
  split <;> simp

theorem quotedFrom_plain (h : escape? c = none) :
    quotedFrom p column first afterEscape (c :: s) =
      if (p.folds && !first && s ≠ []) && (c = ' ' || afterEscape) && width < column then
        continueBefore p (some c)
          ++ c :: quotedFrom p (columnBefore p (some c) + 1) false false s
      else c :: quotedFrom p (column + 1) false false s := by
  rw [quotedFrom, h]

theorem quotedFrom_ne_nil : quotedFrom p column first afterEscape (c :: s) ≠ [] := by
  cases h : escape? c with
  | some e =>
    obtain ⟨letter, rest, rfl, -⟩ := escape?_eq_some h
    simp [quotedFrom_escape h]
  | none =>
    rw [quotedFrom_plain h]
    split <;> simp [continueBefore]

/-- Where no line ends before a character, it is seen whether the character is a space that needs
a backslash, for no escape is a backslash before a space. -/
theorem quotedFrom_head (p : Place) (first afterEscape : Bool) (c : Char) (s : List Char)
    (hcolumn : column ≤ width) :
    ∃ u, quotedFrom p column first afterEscape (c :: s) = c :: u ∧ c ≠ '\\' ∨
      c ≠ ' ' ∧ ∃ letter, quotedFrom p column first afterEscape (c :: s) = '\\' :: letter :: u ∧
        letter ≠ ' ' := by
  cases h : escape? c with
  | some e =>
    obtain ⟨letter, rest, rfl, -, hspace⟩ := escape?_eq_some h
    have hc : c ≠ ' ' := by
      rintro rfl
      cases h
    rw [quotedFrom_escape h]
    exact ⟨_, .inr ⟨hc, letter, rfl, hspace⟩⟩
  | none =>
    have hfold : decide (width < column) = false := by simpa using hcolumn
    rw [quotedFrom_plain h, hfold, Bool.and_false, if_neg Bool.false_ne_true]
    exact ⟨_, .inl ⟨rfl, (ne_of_escape?_eq_none h).1⟩⟩

theorem backslash_ne_quotedFrom (hindent : p.indent < width) :
    '\\' :: quotedFrom p (p.indent + 1) false afterEscape (' ' :: s) ≠
      quotedFrom p p.indent false afterEscape (d :: t) := by
  intro h
  obtain ⟨u, hu⟩ := quotedFrom_head p false afterEscape ' ' s (Nat.succ_le_of_lt hindent)
  obtain ⟨v, hv⟩ := quotedFrom_head p false afterEscape d t (Nat.le_of_lt hindent)
  rcases hu with ⟨hu, -⟩ | ⟨hne, -⟩
  · rcases hv with ⟨hv, hbackslash⟩ | ⟨-, letter, hv, hletter⟩
    · rw [hv] at h
      exact hbackslash (List.cons.inj h).1.symm
    · rw [hu, hv] at h
      exact hletter (List.cons.inj (List.cons.inj h).2).1.symm
  · exact hne rfl

theorem eq_of_continued (hindent : p.indent < width)
    (h : continued p afterEscape (c :: s) = continued p afterEscape (d :: t)) :
    ∃ column, quotedFrom p column false afterEscape (c :: s) =
      quotedFrom p column false afterEscape (d :: t) := by
  simp only [continued, continueBefore, columnBefore, List.head?_cons, Option.some.injEq,
    List.cons_append, List.append_assoc] at h
  have h := List.append_cancel_left (List.cons.inj h).2
  by_cases hc : c = ' ' <;> by_cases hd : d = ' '
  · rw [if_pos hc, if_pos hc, if_pos hd, if_pos hd] at h
    exact ⟨_, (List.cons.inj h).2⟩
  · subst hc
    rw [if_pos rfl, if_pos rfl, if_neg hd, if_neg hd] at h
    exact absurd h (backslash_ne_quotedFrom hindent)
  · subst hd
    rw [if_pos rfl, if_pos rfl, if_neg hc, if_neg hc] at h
    exact absurd h.symm (backslash_ne_quotedFrom hindent)
  · rw [if_neg hc, if_neg hc, if_neg hd, if_neg hd] at h
    exact ⟨_, h⟩

theorem eq_of_continueBefore {u v : List Char} (hc : c ≠ '\\') (hd : d ≠ '\\')
    (h : continueBefore p (some c) ++ c :: u = continueBefore p (some d) ++ d :: v) : c = d := by
  simp only [continueBefore, Option.some.injEq, List.cons_append, List.append_assoc] at h
  have h := List.append_cancel_left (List.cons.inj h).2
  split at h <;> split at h
  case isTrue.isTrue hcspace hdspace => rw [hcspace, hdspace]
  case isTrue.isFalse => exact absurd (List.cons.inj h).1.symm hd
  case isFalse.isTrue => exact absurd (List.cons.inj h).1 hc
  case isFalse.isFalse => exact (List.cons.inj h).1

theorem quotedFrom_ne (hc : escape? c = none) (hd : escape? d = some e) :
    quotedFrom p column first afterEscape (c :: s) ≠
      quotedFrom p column first afterEscape (d :: t) := by
  obtain ⟨letter, rest, rfl, hletter, -⟩ := escape?_eq_some hd
  rw [quotedFrom_plain hc, quotedFrom_escape hd]
  split
  · exact fun h => hletter (List.cons.inj (List.cons.inj h).2).1.symm
  · exact fun h => (ne_of_escape?_eq_none hc).1 (List.cons.inj h).1

theorem afterEscape_eq_nil :
    (if (p.folds && !first && s ≠ []) && width + 1 < column then continued p true s
      else quotedFrom p column false true s) = [] ↔ s = [] := by
  cases s with
  | nil => simp [quotedFrom]
  | cons c s =>
    simp only [reduceCtorEq, iff_false]
    split
    · simp [continued, continueBefore]
    · exact quotedFrom_ne_nil

theorem quotedFrom_inj (hindent : p.indent < width)
    (h : quotedFrom p column first afterEscape s = quotedFrom p column first afterEscape t) :
    s = t := by
  induction s generalizing t column first afterEscape with
  | nil =>
    cases t with
    | nil => rfl
    | cons d t => exact absurd h.symm quotedFrom_ne_nil
  | cons c s ih =>
    cases t with
    | nil => exact absurd h quotedFrom_ne_nil
    | cons d t =>
      cases hc : escape? c <;> cases hd : escape? d
      case none.none =>
        have hcb := (ne_of_escape?_eq_none hc).1
        have hdb := (ne_of_escape?_eq_none hd).1
        rw [quotedFrom_plain hc, quotedFrom_plain hd] at h
        split at h <;> split at h
        · obtain rfl := eq_of_continueBefore hcb hdb h
          rw [ih (List.cons.inj (List.append_cancel_left h)).2]
        · exact absurd (List.cons.inj h).1.symm hdb
        · exact absurd (List.cons.inj h).1 hcb
        · obtain ⟨rfl, hrest⟩ := List.cons.inj h
          rw [ih hrest]
      case none.some e => exact absurd h (quotedFrom_ne hc hd)
      case some.none e => exact absurd h.symm (quotedFrom_ne hd hc)
      case some.some e e' =>
        rw [quotedFrom_escape hc, quotedFrom_escape hd] at h
        obtain ⟨rfl, h⟩ := eq_of_escape? hc hd h
        obtain rfl : e = e' := Option.some.inj (hc.symm.trans hd)
        congr 1
        by_cases hs : s = []
        · rw [hs, afterEscape_eq_nil.2 rfl] at h
          rw [hs, afterEscape_eq_nil.1 h.symm]
        · have ht : t ≠ [] := by
            rintro rfl
            exact hs (afterEscape_eq_nil.1 (h.trans (afterEscape_eq_nil.2 rfl)))
          simp only [hs, ht, ne_eq, not_false_eq_true, decide_true, Bool.and_true] at h
          split at h
          · obtain ⟨c, s, rfl⟩ := List.exists_cons_of_ne_nil hs
            obtain ⟨d, t, rfl⟩ := List.exists_cons_of_ne_nil ht
            obtain ⟨_, h⟩ := eq_of_continued hindent h
            exact ih h
          · exact ih h

end Quoted

section Scalar

variable {text other : String}

theorem isPlain_cases (h : isPlain text = true) : '\n' ∉ text.toList ∧
    ∃ c rest, text.toList = c :: rest ∧ c ≠ ' ' ∧ leadIndicators.contains c = false ∧
      hasIndicator c rest = false := by
  simp only [isPlain, Bool.and_eq_true, Bool.not_eq_true', decide_eq_true_eq, ne_eq,
    List.all_eq_true] at h
  obtain ⟨⟨⟨⟨hclaimed, hstructure⟩, hall⟩, hspace⟩, -⟩ := h
  refine ⟨fun hfeed => absurd (hall _ hfeed).2 (by decide), ?_⟩
  cases hs : text.toList with
  | nil =>
    obtain rfl := String.toList_eq_nil_iff.1 hs
    cases hclaimed
  | cons c rest =>
    rw [hs] at hstructure hspace
    simp only [hasStructure, startsAsIndicator, Bool.or_eq_false_iff] at hstructure
    exact ⟨c, rest, rfl, fun hc => hspace (congrArg some hc), hstructure.1.2.1, hstructure.2⟩

theorem toList_scalar : (scalar p text).toList =
    if isPlain text then plainFrom p p.column none text.toList
    else if isApostrophed text.toList then
      '\'' :: (apostrophedFrom p (p.column + 1) none text.toList ++ ['\''])
    else '"' :: (quotedFrom p (p.column + 1) true false text.toList ++ ['"']) :=
  String.toList_ofList

theorem isPlain_eq (h : scalar p text = scalar p other) (htext : isPlain text = true) :
    isPlain other = true := by
  rw [← String.toList_inj, toList_scalar, toList_scalar, if_pos htext] at h
  obtain ⟨-, c, rest, hs, hspace, hlead, -⟩ := isPlain_cases htext
  rw [hs, plainFrom, decide_eq_false hspace, Bool.false_and, if_neg Bool.false_ne_true] at h
  by_contra hother
  rw [if_neg hother] at h
  split at h <;> obtain ⟨rfl, -⟩ := List.cons.inj h <;> cases hlead

/-- Different texts are different scalars in the same place, if it is not too far to the right. -/
theorem scalar_injective (hpos : 0 < p.indent) (hindent : p.indent < width) :
    Function.Injective (scalar p) := by
  intro s t h
  have hplain : isPlain s = isPlain t :=
    Bool.eq_iff_iff.2 ⟨isPlain_eq h, isPlain_eq h.symm⟩
  rw [← String.toList_inj, toList_scalar, toList_scalar, hplain] at h
  apply String.toList_inj.1
  split at h
  case isTrue hs =>
    exact plainFrom_inj (isPlain_cases (hplain ▸ hs)).1 (isPlain_cases hs).1 h
  case isFalse =>
    split at h <;> split at h
    case isTrue.isTrue hs ht =>
      simp only [isApostrophed, Bool.and_eq_true, Bool.not_eq_true'] at hs ht
      exact apostrophedFrom_inj none hpos hs.2 ht.2
        (List.append_cancel_right (List.cons.inj h).2)
    case isTrue.isFalse => exact absurd (List.cons.inj h).1 (by decide)
    case isFalse.isTrue => exact absurd (List.cons.inj h).1 (by decide)
    case isFalse.isFalse =>
      exact quotedFrom_inj hindent (List.append_cancel_right (List.cons.inj h).2)

theorem hasIndicator_append_colon (previous : Char) (s t : List Char) :
    hasIndicator previous (s ++ ':' :: ' ' :: t) = true := by
  induction s generalizing previous with
  | nil => rfl
  | cons c s ih => rw [List.cons_append, hasIndicator, ih, Bool.or_true]

theorem scalar_ne_append {key : String} (hkey : '\n' ∉ key.toList)
    (hlead : ∃ c rest, key.toList = c :: rest ∧ c ≠ '\'' ∧ c ≠ '"') (rest : String) :
    scalar p text ≠ key ++ ": " ++ rest := by
  intro h
  obtain ⟨c, tail, hc, hapostrophe, hquote⟩ := hlead
  rw [← String.toList_inj, toList_scalar, String.toList_append, String.toList_append] at h
  split at h
  case isTrue hplain =>
    have hw : '\n' ∉ key.toList ++ [':', ' '] := by simpa using hkey
    obtain ⟨s, hs⟩ := exists_of_plainFrom_append hw h
    obtain ⟨-, d, t, ht, -, -, hindicator⟩ := isPlain_cases hplain
    rw [hc, ht, List.append_assoc, List.cons_append] at hs
    obtain ⟨rfl, rfl⟩ := List.cons.inj hs
    exact absurd hindicator (by simp [hasIndicator_append_colon])
  case isFalse =>
    rw [hc] at h
    split at h
    · exact hapostrophe (List.cons.inj h).1.symm
    · exact hquote (List.cons.inj h).1.symm

end Scalar

end CurlScribe.Yaml
