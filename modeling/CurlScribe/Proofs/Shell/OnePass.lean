import CurlScribe.Proofs.Shell.Quoted
import CurlScribe.Shell.Command
import Mathlib

/-!
The words of a command in one pass. A reader that decodes `$'...'` strings as it meets them comes to
the same words as one that reads the command with quoted words in their place.
-/

namespace CurlScribe.Shell

/-- Where the reader stands: outside all quotations, in a word or not, inside a quotation, or inside
a `$'...'` string whose body so far is kept in reverse. -/
inductive Mode
  | outside (inWord : Bool)
  | single
  | double
  | ansi (body : List Char)

def readFrom : Mode → List Char → Except CommandError (List (List Char))
  | .outside inWord, [] => .ok (if inWord then [[]] else [])
  | .single, [] => .error (.unfinished .quotation)
  | .double, [] => .error (.unfinished .quotation)
  | .ansi _, [] => .error (.ansi .unterminated)
  | .outside _, '$' :: '\'' :: rest => readFrom (.ansi []) rest
  | .outside inWord, c :: rest =>
    if isSeparator c then
      (if inWord then ([] :: ·) else id) <$> readFrom (.outside false) rest
    else if c = '\'' then readFrom .single rest
    else if c = '"' then readFrom .double rest
    else if c = '\\' then
      match rest with
      | [] => .error (.unfinished .escape)
      | d :: rest' => push d <$> readFrom (.outside true) rest'
    else push c <$> readFrom (.outside true) rest
  | .single, c :: rest =>
    if c = '\'' then readFrom (.outside true) rest else push c <$> readFrom .single rest
  | .double, c :: rest =>
    if c = '"' then readFrom (.outside true) rest
    else if c = '\\' then
      match rest with
      | [] => .error (.unfinished .escape)
      | d :: rest' =>
        if d = '"' || d = '\\' then push d <$> readFrom .double rest'
        else (push '\\' <| push d ·) <$> readFrom .double rest'
    else push c <$> readFrom .double rest
  | .ansi body, c :: rest =>
    if c = '\'' then do
      let text ← (decodeFrom 0 body.reverse).mapError .ansi
      prepend text <$> readFrom (.outside true) rest
    else if c = '\\' then
      match rest with
      | [] => .error (.ansi .unterminated)
      | d :: rest' => readFrom (.ansi (d :: '\\' :: body)) rest'
    else readFrom (.ansi (c :: body)) rest

def readTwice (region : Region) (place : Place) (s : List Char) :
    Except CommandError (List (List Char)) := do
  let expanded ← (expandFrom region s).mapError .ansi
  (wordsFrom place expanded).mapError .unfinished

section OnePass

variable {inWord : Bool} {c : Char} {rest : List Char}

theorem readFrom_outside (hd : ∀ rest', c = '$' → rest ≠ '\'' :: rest') (he : c ≠ '\\') :
    readFrom (.outside inWord) (c :: rest) =
      if isSeparator c then (if inWord then ([] :: ·) else id) <$> readFrom (.outside false) rest
      else if c = '\'' then readFrom .single rest
      else if c = '"' then readFrom .double rest
      else push c <$> readFrom (.outside true) rest := by
  cases rest with
  | nil => simp [readFrom, he]
  | cons d rest =>
    rw [readFrom, if_neg he]
    exact hd

theorem readFrom_double (he : c ≠ '\\') :
    readFrom .double (c :: rest) =
      if c = '"' then readFrom (.outside true) rest else push c <$> readFrom .double rest := by
  cases rest <;> simp [readFrom, he]

theorem readFrom_ansi_end (body : List Char) :
    readFrom (.ansi body) ('\'' :: rest) =
      (decodeFrom 0 body.reverse).mapError .ansi >>= fun text =>
        prepend text <$> readFrom (.outside true) rest := by
  cases rest <;> simp [readFrom]

theorem readFrom_ansi (body : List Char) (hc : c ≠ '\'') (he : c ≠ '\\') :
    readFrom (.ansi body) (c :: rest) = readFrom (.ansi (c :: body)) rest := by
  cases rest <;> simp [readFrom, hc, he]

end OnePass

section Decode

variable {c : Char} {text rest : List Char} {more : Nat}

theorem decodeFrom_cons (hc : c ≠ '\\') (rest : List Char) :
    decodeFrom 0 (c :: rest) = (c :: ·) <$> decodeFrom 0 rest := by
  cases rest <;> simp [decodeFrom, hc]

theorem decodeFrom_escape (h : escape c rest = .ok (text, more)) :
    decodeFrom 0 ('\\' :: c :: rest) = (text ++ ·) <$> decodeFrom more rest := by
  rw [decodeFrom, if_pos rfl, h]
  rfl

end Decode

section TwoPasses

variable {region region' : Region} {place place' : Place} {inWord : Bool} {c : Char}
  {s s' rest : List Char}

theorem readTwice_step (text : List Char) {f : List (List Char) → List (List Char)}
    (hexpand : expandFrom region s = (text ++ ·) <$> expandFrom region' s')
    (hwords : ∀ more, wordsFrom place (text ++ more) = f <$> wordsFrom place' more) :
    readTwice region place s = f <$> readTwice region' place' s' := by
  unfold readTwice
  rw [hexpand]
  cases expandFrom region' s' with
  | error e => rfl
  | ok expanded =>
    change (wordsFrom place (text ++ expanded)).mapError CommandError.unfinished =
      f <$> (wordsFrom place' expanded).mapError CommandError.unfinished
    rw [hwords]
    cases wordsFrom place' expanded <;> rfl

theorem readTwice_mark (text : List Char)
    (hexpand : expandFrom region s = (text ++ ·) <$> expandFrom region' s')
    (hwords : ∀ more, wordsFrom place (text ++ more) = wordsFrom place' more) :
    readTwice region place s = readTwice region' place' s' := by
  rw [readTwice_step text hexpand (f := id) (by simpa using hwords), id_map]

theorem readTwice_outside (hp : place.isOutside = true)
    (hd : ∀ rest', c = '$' → rest ≠ '\'' :: rest') (he : c ≠ '\\')
    (hs : isSeparator c = false) :
    readTwice .bare place (c :: rest) =
      if c = '\'' then readTwice .single .single rest
      else if c = '"' then readTwice .double .double rest
      else push c <$> readTwice .bare .bare rest := by
  have hexpand := expandFrom_bare he hd
  have hwords := wordsFrom_outside hp hs he
  split
  · rename_i hc
    rw [if_pos hc] at hexpand
    exact readTwice_mark [c] hexpand fun more => (hwords more).trans (if_pos hc)
  · rename_i hc
    rw [if_neg hc] at hexpand
    split
    · rename_i hq
      rw [if_pos hq] at hexpand
      exact readTwice_mark [c] hexpand fun more =>
        (hwords more).trans ((if_neg hc).trans (if_pos hq))
    · rename_i hq
      rw [if_neg hq] at hexpand
      exact readTwice_step [c] hexpand fun more =>
        (hwords more).trans ((if_neg hc).trans (if_neg hq))

theorem readTwice_separator (hs : isSeparator c = true) :
    readTwice .bare (if inWord then .bare else .between) (c :: rest) =
      (if inWord then ([] :: ·) else id) <$> readTwice .bare .between rest := by
  have hescape : c ≠ '\\' := by rintro rfl; cases hs
  have hsingle : c ≠ '\'' := by rintro rfl; cases hs
  have hdouble : c ≠ '"' := by rintro rfl; cases hs
  have hexpand : expandFrom .bare (c :: rest) = ([c] ++ ·) <$> expandFrom .bare rest := by
    rw [expandFrom_bare hescape (by rintro _ rfl; cases hs), if_neg hsingle, if_neg hdouble]
    rfl
  cases inWord with
  | false => exact readTwice_step [c] hexpand fun more =>
      (wordsFrom_between_separator hs more).trans (id_map _).symm
  | true => exact readTwice_step [c] hexpand fun more => wordsFrom_bare_separator hs more

theorem readTwice_escape (hp : place.isOutside = true) (d : Char) :
    readTwice .bare place ('\\' :: d :: rest) = push d <$> readTwice .bare .bare rest := by
  apply readTwice_step ['\\', d]
  · simp [expandFrom]
  · intro more
    cases place with
    | between => simp [wordsFrom, isSeparator]
    | bare => simp [wordsFrom, isSeparator]
    | single => cases hp
    | double => cases hp

theorem readTwice_single :
    readTwice .single .single (c :: rest) =
      if c = '\'' then readTwice .bare .bare rest else push c <$> readTwice .single .single rest := by
  split
  · rename_i hc
    exact readTwice_mark [c] (by simp [expandFrom, hc]) fun more => by simp [wordsFrom, hc]
  · rename_i hc
    exact readTwice_step [c] (by simp [expandFrom, hc]) fun more => by simp [wordsFrom, hc]

theorem expandFrom_double (he : c ≠ '\\') :
    expandFrom .double (c :: rest) =
      (c :: ·) <$> expandFrom (if c = '"' then .bare else .double) rest := by
  cases rest <;> simp [expandFrom, he]

theorem wordsFrom_double (he : c ≠ '\\') :
    wordsFrom .double (c :: rest) =
      if c = '"' then wordsFrom .bare rest else push c <$> wordsFrom .double rest := by
  cases rest <;> simp [wordsFrom, he]

theorem readTwice_double (he : c ≠ '\\') :
    readTwice .double .double (c :: rest) =
      if c = '"' then readTwice .bare .bare rest else push c <$> readTwice .double .double rest := by
  have hexpand := @expandFrom_double c rest he
  split
  · rename_i hc
    rw [if_pos hc] at hexpand
    exact readTwice_mark [c] hexpand fun more => (wordsFrom_double he).trans (if_pos hc)
  · rename_i hc
    rw [if_neg hc] at hexpand
    exact readTwice_step [c] hexpand fun more => (wordsFrom_double he).trans (if_neg hc)

theorem readTwice_double_escape (d : Char) :
    readTwice .double .double ('\\' :: d :: rest) =
      if d = '"' || d = '\\' then push d <$> readTwice .double .double rest
      else (push '\\' <| push d ·) <$> readTwice .double .double rest := by
  have hexpand : expandFrom .double ('\\' :: d :: rest) =
      (['\\', d] ++ ·) <$> expandFrom .double rest := by
    simp [expandFrom]
  split
  · rename_i hd
    exact readTwice_step _ hexpand fun more => by simp [wordsFrom, hd]
  · rename_i hd
    exact readTwice_step _ hexpand fun more => by simp [wordsFrom, hd]

theorem expandFrom_ansi_end (body : List Char) :
    expandFrom (.ansi body) ('\'' :: rest) =
      decodeFrom 0 body.reverse >>= fun text => (quoteList text ++ ·) <$> expandFrom .bare rest := by
  cases rest <;> simp [expandFrom, ← bind_pure_comp]

theorem expandFrom_ansi (body : List Char) (hc : c ≠ '\'') (he : c ≠ '\\') :
    expandFrom (.ansi body) (c :: rest) = expandFrom (.ansi (c :: body)) rest := by
  cases rest <;> simp [expandFrom, hc, he]

theorem readTwice_ansi_end (hp : place.isOutside = true) (body : List Char) :
    readTwice (.ansi body) place ('\'' :: rest) =
      (decodeFrom 0 body.reverse).mapError .ansi >>= fun text =>
        prepend text <$> readTwice .bare .bare rest := by
  cases htext : decodeFrom 0 body.reverse with
  | error e =>
    rw [readTwice, expandFrom_ansi_end, htext]
    rfl
  | ok text =>
    refine readTwice_step (quoteList text) ?_ (wordsFrom_quoteList hp text)
    rw [expandFrom_ansi_end, htext]
    rfl

end TwoPasses

/-- Where a reader in one pass stands, and where the two passes stand at the same time. What is
written for a `$'...'` string is read only behind its end. -/
inductive Together : Mode → Region → Place → Prop
  | outside (inWord : Bool) : Together (.outside inWord) .bare (if inWord then .bare else .between)
  | single : Together .single .single .single
  | double : Together .double .double .double
  | ansi (body : List Char) {place : Place} (h : place.isOutside = true) :
    Together (.ansi body) (.ansi body) place

theorem isOutside_ite (inWord : Bool) :
    (if inWord then Place.bare else Place.between).isOutside = true := by
  cases inWord <;> rfl

theorem readFrom_eq_readTwice {mode : Mode} {region : Region} {place : Place}
    (h : Together mode region place) (s : List Char) :
    readFrom mode s = readTwice region place s := by
  induction mode, s using readFrom.induct generalizing region place with
  | case1 inWord =>
    cases h
    cases inWord <;> rfl
  | case2 =>
    cases h
    rfl
  | case3 =>
    cases h
    rfl
  | case4 body =>
    cases h
    rfl
  | case5 inWord rest ih =>
    cases h
    rw [readFrom, ih (.ansi [] (isOutside_ite inWord))]
    rfl
  | case6 inWord c rest hd hs ih =>
    cases h
    have he : c ≠ '\\' := by rintro rfl; cases hs
    rw [readFrom_outside hd he, if_pos hs, ih (.outside false), readTwice_separator hs]
    rfl
  | case7 inWord rest hd hs ih =>
    cases h
    rw [readFrom_outside hd (by decide), if_neg hs, if_pos rfl, ih .single,
      readTwice_outside (isOutside_ite inWord) hd (by decide) rfl, if_pos rfl]
  | case8 inWord rest hd hs hc ih =>
    cases h
    rw [readFrom_outside hd (by decide), if_neg hs, if_neg hc, if_pos rfl, ih .double,
      readTwice_outside (isOutside_ite inWord) hd (by decide) rfl, if_neg hc, if_pos rfl]
  | case9 inWord =>
    cases h
    cases inWord <;> rfl
  | case10 inWord d rest hs hc hq hd ih =>
    cases h
    have : readFrom (.outside inWord) ('\\' :: d :: rest) =
        push d <$> readFrom (.outside true) rest := by
      simp [readFrom, isSeparator]
    rw [this, ih (.outside true), readTwice_escape (isOutside_ite inWord)]
    rfl
  | case11 inWord c rest hd hs hc hq he ih =>
    cases h
    rw [readFrom_outside hd he, if_neg hs, if_neg hc, if_neg hq, ih (.outside true),
      readTwice_outside (isOutside_ite inWord) hd he (by simpa using hs), if_neg hc, if_neg hq]
    rfl
  | case12 rest ih =>
    cases h
    rw [readFrom, if_pos rfl, ih (.outside true), readTwice_single, if_pos rfl]
    rfl
  | case13 c rest hc ih =>
    cases h
    rw [readFrom, if_neg hc, ih .single, readTwice_single, if_neg hc]
  | case14 rest ih =>
    cases h
    rw [readFrom_double (by decide), if_pos rfl, ih (.outside true), readTwice_double (by decide),
      if_pos rfl]
    rfl
  | case15 =>
    cases h
    rfl
  | case16 d rest hd hc ih =>
    cases h
    rw [readFrom, if_neg hc, if_pos rfl, if_pos hd, ih .double, readTwice_double_escape, if_pos hd]
  | case17 d rest hd hc ih =>
    cases h
    rw [readFrom, if_neg hc, if_pos rfl, if_neg hd, ih .double, readTwice_double_escape, if_neg hd]
  | case18 c rest hc he ih =>
    cases h
    rw [readFrom_double he, if_neg hc, ih .double, readTwice_double he, if_neg hc]
  | case19 body rest ih =>
    cases h with
    | ansi body hp =>
      rw [readFrom_ansi_end, readTwice_ansi_end hp, ih (.outside true)]
      rfl
  | case20 body hc =>
    cases h
    rfl
  | case21 body d rest hc ih =>
    cases h with
    | ansi body hp =>
      rw [readFrom, if_neg hc, if_pos rfl, ih (.ansi _ hp), readTwice, readTwice, expandFrom]
      rfl
  | case22 body c rest hc he ih =>
    cases h with
    | ansi body hp =>
      rw [readFrom_ansi body hc he, ih (.ansi _ hp), readTwice, readTwice,
        expandFrom_ansi body hc he]

/-- Reading a command in one pass gives the words, or the fault, that come out when its `$'...'`
strings are first replaced by quoted words. -/
theorem words_expandAnsi (command : String) :
    ((expandAnsi command).mapError .ansi >>= fun expanded =>
        (words expanded).mapError .unfinished) =
      (·.map String.ofList) <$> readFrom (.outside false) command.toList := by
  rw [readFrom_eq_readTwice (.outside false), readTwice, expandAnsi]
  cases expandFrom .bare command.toList with
  | error e => rfl
  | ok expanded =>
    change (words (.ofList expanded)).mapError CommandError.unfinished =
      (·.map String.ofList) <$> (wordsFrom .between expanded).mapError CommandError.unfinished
    rw [words, String.toList_ofList]
    cases wordsFrom .between expanded <;> rfl

example : readFrom (.outside false) "a$'\\t\\''\"$'\" $''".toList =
    .ok [['a', '\t', '\'', '$', '\''], []] := by
  cbv

end CurlScribe.Shell
