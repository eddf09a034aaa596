import CurlScribe.Proofs.Noted
import CurlScribe.Proofs.Shell.Quoted
import CurlScribe.Proofs.Text.Trim
import CurlScribe.Shell.Command
import Mathlib

namespace CurlScribe.Shell

/-- What may stand between words: white space, or the end of a line behind a backslash. -/
inductive Spacing
  | space
  | tab
  | newline
  | joint
  | returnJoint

namespace Spacing

def text : Spacing → List Char
  | space => [' ']
  | tab => ['\t']
  | newline => ['\n']
  | joint => ['\\', '\n']
  | returnJoint => ['\\', '\r', '\n']

def blank : Spacing → Char
  | tab => '\t'
  | newline => '\n'
  | _ => ' '

theorem isSeparator_blank (s : Spacing) : isSeparator s.blank = true := by
  cases s <;> rfl

theorem expandFrom_blank (s : Spacing) (rest : List Char) :
    expandFrom .bare (s.blank :: rest) = (s.blank :: ·) <$> expandFrom .bare rest := by
  cases s <;> exact expandFrom_bare (by decide) nofun

end Spacing

structure Gap where
  first : Spacing
  more : List Spacing

namespace Gap

def pieces (g : Gap) : List Spacing := g.first :: g.more

def text (g : Gap) : List Char := g.pieces.flatMap Spacing.text

def blanks (g : Gap) : List Char := g.pieces.map Spacing.blank

end Gap

def laidOut (arguments : List (Gap × String)) : List Char :=
  arguments.flatMap fun (gap, argument) => gap.text ++ quoteList argument.toList

def inOneLine (arguments : List (Gap × String)) : List Char :=
  arguments.flatMap fun (gap, argument) => gap.blanks ++ quoteList argument.toList

/-- Whether a text has no line in it that goes on behind a backslash. -/
def Unjoined (s : List Char) : Prop := ¬['\\', '\n'] <:+: s ∧ ¬['\\', '\r', '\n'] <:+: s

instance (s : List Char) : Decidable (Unjoined s) := inferInstanceAs (Decidable (_ ∧ _))

section Join

variable {c : Char} {s rest : List Char}

theorem Unjoined.tail (h : Unjoined (c :: s)) : Unjoined s :=
  ⟨fun hs => h.1 (hs.trans (List.suffix_cons c s).isInfix),
    fun hs => h.2 (hs.trans (List.suffix_cons c s).isInfix)⟩

theorem joinLines_cons (h : c = '\\' → ¬['\n'] <+: rest ∧ ¬['\r', '\n'] <+: rest) :
    joinLines (c :: rest) = c :: joinLines rest := by
  by_cases hc : c = '\\'
  · obtain ⟨hline, hreturn⟩ := h hc
    rw [joinLines]
    · rintro rest' - rfl
      exact hline ⟨rest', rfl⟩
    · rintro rest' - rfl
      exact hreturn ⟨rest', rfl⟩
  · rw [joinLines]
    · exact fun _ h => absurd h hc
    · exact fun _ h => absurd h hc

theorem joinLines_spacing (s : Spacing) (rest : List Char) :
    joinLines (s.text ++ rest) = s.blank :: joinLines rest := by
  cases s with
  | joint => rfl
  | returnJoint => rfl
  | space => exact joinLines_cons nofun
  | tab => exact joinLines_cons nofun
  | newline => exact joinLines_cons nofun

theorem joinLines_gap (g : Gap) (rest : List Char) :
    joinLines (g.text ++ rest) = g.blanks ++ joinLines rest := by
  unfold Gap.text Gap.blanks
  induction g.pieces with
  | nil => rfl
  | cons s pieces ih =>
    rw [List.flatMap_cons, List.append_assoc, joinLines_spacing, ih]
    rfl

theorem joinLines_plain (h : s.all isPlain = true) (rest : List Char) :
    joinLines (s ++ rest) = s ++ joinLines rest := by
  induction s with
  | nil => rfl
  | cons c s ih =>
    obtain ⟨hc, hs⟩ := Bool.and_eq_true_iff.1 h
    have hescape := isPlain_ne hc (d := '\\') (by decide)
    rw [List.cons_append, joinLines_cons fun h => absurd h hescape, ih hs]
    rfl

theorem joinLines_quoteChar (h : c = '\\' → ¬['\n'] <+: rest ∧ ¬['\r', '\n'] <+: rest) :
    joinLines (quoteChar c ++ rest) = quoteChar c ++ joinLines rest := by
  unfold quoteChar
  split
  · rfl
  · exact joinLines_cons h

theorem quoted_prefix {d : Char} (hd : d ≠ '\'') {t : List Char}
    (h : d :: t <+: s.flatMap quoteChar ++ '\'' :: rest) :
    ∃ s', s = d :: s' ∧ t <+: s'.flatMap quoteChar ++ '\'' :: rest := by
  cases s with
  | nil =>
    obtain ⟨rfl, -⟩ := List.cons_prefix_cons.1 h
    exact absurd rfl hd
  | cons c s =>
    by_cases hc : c = '\''
    · subst hc
      obtain ⟨rfl, -⟩ := List.cons_prefix_cons.1 h
      exact absurd rfl hd
    · have hq : quoteChar c = [c] := if_neg hc
      rw [List.flatMap_cons, hq] at h
      obtain ⟨rfl, ht⟩ := List.cons_prefix_cons.1 h
      exact ⟨s, rfl, ht⟩

theorem joinLines_quoted (h : Unjoined s) (rest : List Char) :
    joinLines (s.flatMap quoteChar ++ '\'' :: rest) =
      s.flatMap quoteChar ++ '\'' :: joinLines rest := by
  induction s with
  | nil => exact joinLines_cons nofun
  | cons c s ih =>
    rw [List.flatMap_cons, List.append_assoc, joinLines_quoteChar, ih h.tail, List.append_assoc]
    -- A line that goes on behind `c` would be one of the text itself.
    rintro rfl
    constructor
    · intro hline
      obtain ⟨s, rfl, -⟩ := quoted_prefix (by decide) hline
      exact h.1 ⟨[], s, rfl⟩
    · intro hreturn
      obtain ⟨s, rfl, hline⟩ := quoted_prefix (by decide) hreturn
      obtain ⟨s, rfl, -⟩ := quoted_prefix (by decide) hline
      exact h.2 ⟨[], s, rfl⟩

theorem joinLines_quoteList (h : Unjoined s) (rest : List Char) :
    joinLines (quoteList s ++ rest) = quoteList s ++ joinLines rest := by
  have hopen (rest : List Char) : joinLines ('\'' :: rest) = '\'' :: joinLines rest :=
    joinLines_cons nofun
  unfold quoteList
  split
  · simp [hopen]
  · split
    · rename_i hplain
      exact joinLines_plain hplain rest
    · simp [hopen, joinLines_quoted h]

theorem joinLines_laidOut {arguments : List (Gap × String)}
    (h : ∀ a ∈ arguments, Unjoined a.2.toList) :
    joinLines (laidOut arguments) = inOneLine arguments := by
  induction arguments with
  | nil => rfl
  | cons a arguments ih =>
    have hrest := ih fun b hb => h b (.tail _ hb)
    rw [laidOut, List.flatMap_cons, List.append_assoc, joinLines_gap,
      joinLines_quoteList (h a (.head _))]
    change _ ++ (_ ++ joinLines (laidOut arguments)) = _
    rw [hrest, inOneLine, inOneLine, List.flatMap_cons, List.append_assoc]

end Join

section Ends

variable {s : List Char} {arguments : List (Gap × String)}

theorem toNat_of_isPlain {c : Char} (h : isPlain c = true) : 0x20 < c.toNat ∧ c.toNat < 0x7f := by
  rw [isPlain, Bool.or_eq_true] at h
  rcases h with h | h
  · simp only [Char.isAlphanum, Char.isAlpha, Char.isUpper, Char.isLower, Char.isDigit,
      UInt32.le_iff_toNat_le, Bool.or_eq_true, Bool.and_eq_true, decide_eq_true_eq, ge_iff_le,
      Char.reduceVal, UInt32.reduceToNat, Char.toNat_val] at h
    omega
  · have : ∀ d ∈ "_@%+=:,./-".toList, 0x20 < d.toNat ∧ d.toNat < 0x7f := by
      simp
    exact this c (List.contains_iff_mem.1 h)

theorem isBlank_of_isPlain {c : Char} (h : isPlain c = true) : Text.isBlank c = false := by
  obtain ⟨hl, hu⟩ := toNat_of_isPlain h
  simp [Text.isBlank, Text.blankRanges, Text.inRanges]
  omega

theorem isBlank_getLast_quoteList (s : List Char) :
    ∀ c ∈ (quoteList s).getLast?, Text.isBlank c = false := by
  intro c hc
  unfold quoteList at hc
  split at hc
  · obtain rfl : '\'' = c := by simpa using hc
    decide
  · split at hc
    · rename_i hplain
      exact isBlank_of_isPlain (List.all_eq_true.1 hplain c (List.mem_of_getLast? hc))
    · rw [List.getLast?_append_of_ne_nil _ (by simp)] at hc
      obtain rfl : '\'' = c := by simpa using hc
      decide

theorem quoteList_ne_nil (s : List Char) : quoteList s ≠ [] := by
  unfold quoteList
  split
  · simp
  · split <;> simp [*]

theorem isBlank_getLast_laidOut (hs : ∀ c ∈ s.getLast?, Text.isBlank c = false)
    (arguments : List (Gap × String)) :
    ∀ c ∈ (s ++ laidOut arguments).getLast?, Text.isBlank c = false := by
  induction arguments generalizing s with
  | nil => simpa [laidOut] using hs
  | cons a arguments ih =>
    have hq : (s ++ a.1.text ++ quoteList a.2.toList).getLast? = (quoteList a.2.toList).getLast? :=
      List.getLast?_append_of_ne_nil _ (quoteList_ne_nil _)
    have := ih (s := s ++ a.1.text ++ quoteList a.2.toList) (hq ▸ isBlank_getLast_quoteList _)
    simpa [laidOut] using this

end Ends

section Read

variable {arguments : List (Gap × String)}

theorem expandFrom_blanks (g : Gap) (rest : List Char) :
    expandFrom .bare (g.blanks ++ rest) = (g.blanks ++ ·) <$> expandFrom .bare rest := by
  unfold Gap.blanks
  induction g.pieces with
  | nil => simp
  | cons s pieces ih =>
    rw [List.map_cons, List.cons_append, s.expandFrom_blank, ih, Functor.map_map]
    rfl

theorem expandFrom_inOneLine (arguments : List (Gap × String)) :
    expandFrom .bare (inOneLine arguments) = .ok (inOneLine arguments) := by
  induction arguments with
  | nil => rfl
  | cons a arguments ih =>
    rw [inOneLine, List.flatMap_cons, List.append_assoc, expandFrom_blanks, expandFrom_quoteList]
    change _ <$> _ <$> expandFrom .bare (inOneLine arguments) = _
    rw [ih]
    rfl

theorem wordsFrom_between_blanks (pieces : List Spacing) (rest : List Char) :
    wordsFrom .between (pieces.map Spacing.blank ++ rest) = wordsFrom .between rest := by
  induction pieces with
  | nil => rfl
  | cons s pieces ih =>
    rw [List.map_cons, List.cons_append, wordsFrom_between_separator s.isSeparator_blank, ih]

theorem wordsFrom_gap (g : Gap) (rest : List Char) :
    wordsFrom .bare (g.blanks ++ rest) = ([] :: ·) <$> wordsFrom .between rest := by
  rw [Gap.blanks, Gap.pieces, List.map_cons, List.cons_append,
    wordsFrom_bare_separator g.first.isSeparator_blank, wordsFrom_between_blanks]

theorem wordsFrom_inOneLine (arguments : List (Gap × String)) :
    wordsFrom .bare (inOneLine arguments) = .ok ([] :: arguments.map (·.2.toList)) := by
  induction arguments with
  | nil => rfl
  | cons a arguments ih =>
    rw [inOneLine, List.flatMap_cons, List.append_assoc, wordsFrom_gap, wordsFrom_quoteList rfl]
    change _ <$> _ <$> wordsFrom .bare (inOneLine arguments) = _
    rw [ih]
    simp [Functor.map, Except.map]

end Read

theorem arguments_eq_ok {text : String} {arguments : List String} :
    Shell.arguments text = .ok arguments ↔
      ∃ expanded words name, expandFrom .bare (joinLines (Text.trim text).toList) = .ok expanded ∧
        wordsFrom .between expanded = .ok words ∧ words.map String.ofList = name :: arguments ∧
        name ∈ commandNames := by
  unfold Shell.arguments
  constructor
  · intro h
    simp only at h
    split at h
    · cases h
    obtain ⟨expanded, hexpanded, h⟩ := bind_eq_ok_iff.1 h
    obtain ⟨words, hwords, h⟩ := bind_eq_ok_iff.1 h
    split at h
    · cases h
    · rename_i name rest hname
      split at h
      · cases h
        exact ⟨expanded, words, name, mapError_eq_ok_iff.1 hexpanded, mapError_eq_ok_iff.1 hwords,
          hname, ‹_›⟩
      · cases h
  · rintro ⟨expanded, words, name, hexpanded, hwords, hname, hmem⟩
    have hne : joinLines (Text.trim text).toList ≠ [] := by
      intro hnil
      rw [hnil] at hexpanded
      cases hexpanded
      cases hwords
      cases hname
    simp only [if_neg hne, hexpanded, Except.mapError, bind, Except.bind]
    simp only [hwords, hname, if_pos hmem]

/-- A command is split into exactly the arguments that were quoted in it, however they are laid
out, and whatever white space follows them. -/
theorem arguments_laidOut {arguments : List (Gap × String)} {after : List Char}
    (h : ∀ a ∈ arguments, Unjoined a.2.toList)
    (hafter : ∀ c ∈ after, c = ' ' ∨ c = '\t' ∨ c = '\n') :
    Shell.arguments (.ofList ("curl".toList ++ laidOut arguments ++ after)) =
      .ok (arguments.map (·.2)) := by
  have hcurl (rest : List Char) : quoteList "curl".toList ++ rest = "curl".toList ++ rest := rfl
  have hblank : ∀ c ∈ after, Text.isBlank c = true := by
    intro c hc
    rcases hafter c hc with rfl | rfl | rfl <;> decide
  have hfirst : ∀ c ∈ ("curl".toList ++ laidOut arguments ++ after).head?,
      Text.isBlank c = false := by
    rintro c ⟨⟩
    decide
  have hlast : ∀ c ∈ "curl".toList.getLast?, Text.isBlank c = false := by
    rintro c ⟨⟩
    decide
  have htrim : Text.trim (.ofList ("curl".toList ++ laidOut arguments ++ after)) =
      .ofList ("curl".toList ++ laidOut arguments) :=
    Text.trim_append hfirst (isBlank_getLast_laidOut hlast arguments) hblank
  have hjoin : joinLines ("curl".toList ++ laidOut arguments) =
      "curl".toList ++ inOneLine arguments := by
    rw [joinLines_plain (by decide), joinLines_laidOut h]
  refine arguments_eq_ok.2 ⟨"curl".toList ++ inOneLine arguments,
    "curl".toList :: arguments.map (·.2.toList), "curl", ?_, ?_, by simp, by decide⟩
  · rw [htrim, String.toList_ofList, hjoin, expandFrom_plain (by decide), expandFrom_inOneLine]
    rfl
  · rw [← hcurl, wordsFrom_quoteList rfl, wordsFrom_inOneLine]
    rfl

theorem arguments_laidOut_lines :
    Shell.arguments "curl \\\n-d 'it'\"'\"'s $'\"'\"'x\\'\t\\\r\n''\n" =
      .ok ["-d", "it's $'x\\", ""] := by
  let arguments : List (Gap × String) :=
    [(⟨.space, [.joint]⟩, "-d"), (⟨.space, []⟩, "it's $'x\\"), (⟨.tab, [.returnJoint]⟩, "")]
  have h : ∀ a ∈ arguments, Unjoined a.2.toList := by decide
  have hafter : ∀ c ∈ ['\n'], c = ' ' ∨ c = '\t' ∨ c = '\n' := by simp
  exact @arguments_laidOut arguments _ h hafter

end CurlScribe.Shell
