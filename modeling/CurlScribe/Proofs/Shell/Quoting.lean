import CurlScribe.Proofs.Shell.Layout
import CurlScribe.Proofs.Shell.OnePass

/-!
How the next character of a command is to be taken. It depends on what stands before it, but not on
whether the lines are joined yet. What can be read ends where nothing is quoted or escaped.
-/

namespace CurlScribe.Shell

/-- How the next character is taken. A dollar sign counts, since an apostrophe behind it opens a
`$'...'` string. -/
inductive Quoting
  | bare
  | dollar
  | escaped
  | single
  | double
  | doubleEscaped
  | ansi
  | ansiEscaped

namespace Quoting

def nextBare (c : Char) : Quoting :=
  if c = '\\' then escaped
  else if c = '\'' then single
  else if c = '"' then double
  else if c = '$' then dollar
  else bare

def next : Quoting → Char → Quoting
  | bare, c => nextBare c
  | dollar, c => if c = '\'' then ansi else nextBare c
  | escaped, _ => bare
  | single, c => if c = '\'' then bare else single
  | double, c => if c = '\\' then doubleEscaped else if c = '"' then bare else double
  | doubleEscaped, _ => double
  | ansi, c => if c = '\\' then ansiEscaped else if c = '\'' then bare else ansi
  | ansiEscaped, _ => ansi

def behind (q : Quoting) (s : List Char) : Quoting := s.foldl next q

def isBare : Quoting → Bool
  | bare | dollar => true
  | _ => false

variable {q : Quoting} {c : Char} {s t rest : List Char}

@[simp] theorem behind_nil : behind q [] = q := rfl

@[simp] theorem behind_cons : behind q (c :: s) = behind (q.next c) s := rfl

@[simp] theorem behind_append : behind q (s ++ t) = behind (behind q s) t := List.foldl_append

theorem behind_joinLines (q : Quoting) (s : List Char) : behind q (joinLines s) = behind q s := by
  induction s using joinLines.induct generalizing q with
  | case1 => rfl
  | case2 rest ih =>
    rw [joinLines, behind_cons, behind_cons, behind_cons, ih]
    cases q <;> rfl
  | case3 rest ih =>
    rw [joinLines, behind_cons, behind_cons, behind_cons, behind_cons, ih]
    cases q <;> rfl
  | case4 c rest hline hreturn ih =>
    rw [joinLines, behind_cons, behind_cons, ih]
    · exact hline
    · exact hreturn

theorem isBare_behind_dollar (h : ∀ rest, s ≠ '\'' :: rest) :
    (behind dollar s).isBare = (behind bare s).isBare := by
  cases s with
  | nil => rfl
  | cons c rest =>
    have hc : c ≠ '\'' := fun heq => h rest (by rw [heq])
    have hnext : next dollar c = next bare c := if_neg hc
    rw [behind_cons, behind_cons, hnext]

theorem next_bare_of_separator (h : isSeparator c = true) : next bare c = bare := by
  simp only [isSeparator, Bool.or_eq_true, decide_eq_true_eq] at h
  rcases h with ((rfl | rfl) | rfl) | rfl <;> rfl

theorem isBare_behind_bare (hd : ∀ rest', c = '$' → rest ≠ '\'' :: rest') (he : c ≠ '\\')
    (hs : c ≠ '\'') (hq : c ≠ '"') :
    (behind bare (c :: rest)).isBare = (behind bare rest).isBare := by
  rw [behind_cons, next, nextBare, if_neg he, if_neg hs, if_neg hq]
  split
  · rename_i hc
    exact isBare_behind_dollar fun rest' => hd rest' hc
  · rfl

end Quoting

namespace Mode

def quoting : Mode → Quoting
  | outside _ => .bare
  | single => .single
  | double => .double
  | ansi _ => .ansi

end Mode

section Read

open Quoting

variable {mode : Mode} {s : List Char} {words : List (List Char)}

/-- What can be read ends outside all quotations, and with no escape that waits for a character. -/
theorem isBare_of_readFrom (h : readFrom mode s = .ok words) :
    (behind mode.quoting s).isBare = true := by
  induction mode, s using readFrom.induct generalizing words with
  | case1 inWord => rfl
  | case2 => cases h
  | case3 => cases h
  | case4 body => cases h
  | case5 inWord rest ih =>
    rw [readFrom] at h
    exact ih h
  | case6 inWord c rest hd hs ih =>
    have he : c ≠ '\\' := by rintro rfl; cases hs
    rw [readFrom_outside hd he, if_pos hs] at h
    obtain ⟨more, hmore, -⟩ := map_eq_ok_iff.1 h
    rw [Mode.quoting, behind_cons, next_bare_of_separator hs]
    exact ih hmore
  | case7 inWord rest hd hs ih =>
    rw [readFrom_outside hd (by decide), if_neg hs, if_pos rfl] at h
    exact ih h
  | case8 inWord rest hd hs hc ih =>
    rw [readFrom_outside hd (by decide), if_neg hs, if_neg hc, if_pos rfl] at h
    exact ih h
  | case9 inWord => cases inWord <;> cases h
  | case10 inWord d rest hs hc hq hd ih =>
    simp only [readFrom, isSeparator] at h
    obtain ⟨more, hmore, -⟩ := map_eq_ok_iff.1 (by simpa using h)
    exact ih hmore
  | case11 inWord c rest hd hs hc hq he ih =>
    rw [readFrom_outside hd he, if_neg hs, if_neg hc, if_neg hq] at h
    obtain ⟨more, hmore, -⟩ := map_eq_ok_iff.1 h
    rw [Mode.quoting, isBare_behind_bare hd he hc hq]
    exact ih hmore
  | case12 rest ih =>
    rw [readFrom, if_pos rfl] at h
    exact ih h
  | case13 c rest hc ih =>
    rw [readFrom, if_neg hc] at h
    obtain ⟨more, hmore, -⟩ := map_eq_ok_iff.1 h
    rw [Mode.quoting, behind_cons, next, if_neg hc]
    exact ih hmore
  | case14 rest ih =>
    rw [readFrom_double (by decide), if_pos rfl] at h
    exact ih h
  | case15 => cases h
  | case16 d rest hd hc ih =>
    rw [readFrom, if_neg hc, if_pos rfl, if_pos hd] at h
    obtain ⟨more, hmore, -⟩ := map_eq_ok_iff.1 h
    exact ih hmore
  | case17 d rest hd hc ih =>
    rw [readFrom, if_neg hc, if_pos rfl, if_neg hd] at h
    obtain ⟨more, hmore, -⟩ := map_eq_ok_iff.1 h
    exact ih hmore
  | case18 c rest hc he ih =>
    rw [readFrom_double he, if_neg hc] at h
    obtain ⟨more, hmore, -⟩ := map_eq_ok_iff.1 h
    rw [Mode.quoting, behind_cons, next, if_neg he, if_neg hc]
    exact ih hmore
  | case19 body rest ih =>
    rw [readFrom_ansi_end] at h
    obtain ⟨text, -, h⟩ := bind_eq_ok_iff.1 h
    obtain ⟨more, hmore, -⟩ := map_eq_ok_iff.1 h
    exact ih hmore
  | case20 body hc => cases h
  | case21 body d rest hc ih =>
    rw [readFrom, if_neg hc, if_pos rfl] at h
    exact ih h
  | case22 body c rest hc he ih =>
    rw [readFrom_ansi body hc he] at h
    rw [Mode.quoting, behind_cons, next, if_neg he, if_neg hc]
    exact ih h

end Read

end CurlScribe.Shell
