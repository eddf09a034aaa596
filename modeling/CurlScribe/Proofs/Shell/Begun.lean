import CurlScribe.Proofs.Shell.Joined
import CurlScribe.Proofs.Shell.Quoting

/-!
A command of which the first part has been read. Behind a text at whose end nothing is quoted the
reader has some words and perhaps the beginning of one, and whatever comes adds to these.
-/

namespace CurlScribe.Shell

open Quoting

/-- Words that have been read, and the beginning of one that is being read. -/
structure Begun where
  words : List (List Char)
  word : Option (List Char)

namespace Begun

variable {b : Begun} {text : List Char}

def mode (b : Begun) : Mode := .outside b.word.isSome

def finish (b : Begun) (rest : List (List Char)) : List (List Char) :=
  b.words ++ prepend (b.word.getD []) rest

def all (b : Begun) : List (List Char) := b.words ++ b.word.toList

def take (b : Begun) (text : List Char) : Begun :=
  { b with word := some (b.word.getD [] ++ text) }

def cut (b : Begun) : Begun := ⟨b.words ++ b.word.toList, none⟩

theorem finish_take : (b.take text).finish = b.finish ∘ prepend text := by
  funext rest
  change b.words ++ List.foldr push rest (b.word.getD [] ++ text) = _
  rw [List.foldr_append]
  rfl

theorem finish_cut : b.cut.finish = b.finish ∘ (if b.word.isSome then ([] :: ·) else id) := by
  funext rest
  obtain ⟨words, word⟩ := b
  cases word with
  | none => simp [finish, cut]
  | some word => simp [finish, cut]

theorem finish_readFrom_nil (b : Begun) : b.finish <$> readFrom b.mode [] = .ok b.all := by
  obtain ⟨words, word⟩ := b
  cases word with
  | none => simp [mode, readFrom, finish, all]
  | some word => simp [mode, readFrom, finish, all]

def empty : Begun := ⟨[], none⟩

@[simp] theorem finish_empty : empty.finish = id := rfl

end Begun

/-- What reading a text leads to, whatever comes behind it: words that go on, or a fault. An
apostrophe behind it might belong to a dollar sign at its end. -/
def LeadsTo (mode : Mode) (b : Begun) (s : List Char) (r : Except CommandError Begun) : Prop :=
  ∀ rest, (∀ c ∈ rest.head?, c ≠ '\'') →
    b.finish <$> readFrom mode (s ++ rest) = r >>= fun b => b.finish <$> readFrom b.mode rest

namespace LeadsTo

variable {mode mode' : Mode} {b b' : Begun} {s s' text : List Char}
  {r : Except CommandError Begun}

theorem mark (hread : ∀ rest, readFrom mode (s ++ rest) = readFrom mode' (s' ++ rest))
    (h : LeadsTo mode' b s' r) : LeadsTo mode b s r := by
  intro rest hrest
  rw [hread, h rest hrest]

theorem take (hread : ∀ rest, (∀ c ∈ rest.head?, c ≠ '\'') →
      readFrom mode (s ++ rest) = prepend text <$> readFrom mode' (s' ++ rest))
    (h : LeadsTo mode' (b.take text) s' r) : LeadsTo mode b s r := by
  intro rest hrest
  rw [hread rest hrest, ← h rest hrest, Begun.finish_take, comp_map]

theorem nil (b : Begun) : LeadsTo b.mode b [] (.ok b) := fun _ _ => rfl

theorem append {t : List Char} (hs : LeadsTo mode b s (.ok b')) (ht : LeadsTo b'.mode b' t r)
    (hmark : ∀ c ∈ t.head?, c ≠ '\'') : LeadsTo mode b (s ++ t) r := by
  intro rest hrest
  have hnext : ∀ c ∈ (t ++ rest).head?, c ≠ '\'' := by
    cases t with
    | nil => exact hrest
    | cons c t => exact hmark
  rw [List.append_assoc, hs (t ++ rest) hnext, ← ht rest hrest]
  rfl

theorem finish_readFrom (h : LeadsTo mode b s (.ok b')) :
    b.finish <$> readFrom mode s = .ok b'.all := by
  have hend := h [] (by simp)
  rw [List.append_nil] at hend
  exact hend.trans b'.finish_readFrom_nil

theorem readFrom_eq (h : LeadsTo (.outside false) .empty s (.ok b)) :
    readFrom (.outside false) s = .ok b.all := by
  have hread := h.finish_readFrom
  rwa [Begun.finish_empty, id_map] at hread

theorem all_eq {words : List (List Char)} (h : LeadsTo (.outside false) .empty s (.ok b))
    (hread : readFrom (.outside false) s = .ok words) : b.all = words :=
  Except.ok.inj (h.readFrom_eq.symm.trans hread)

end LeadsTo

def Mode.Fits : Mode → Begun → Prop
  | .outside inWord, b => inWord = b.word.isSome
  | _, _ => True

theorem Begun.fits_empty : (Mode.outside false).Fits .empty := rfl

theorem Begun.fits_take (b : Begun) (text : List Char) : (Mode.outside true).Fits (b.take text) :=
  rfl

theorem exists_leadsTo {mode : Mode} {b : Begun} {s : List Char} (hb : mode.Fits b)
    (h : (behind mode.quoting s).isBare = true) : ∃ r, LeadsTo mode b s r := by
  induction mode, s using readFrom.induct generalizing b with
  | case1 inWord =>
    obtain rfl : inWord = b.word.isSome := hb
    exact ⟨.ok b, fun rest _ => rfl⟩
  | case2 => cases h
  | case3 => cases h
  | case4 body => cases h
  | case5 inWord rest ih =>
    obtain ⟨r, hr⟩ := ih (b := b) trivial h
    exact ⟨r, hr.mark fun _ => by rw [List.cons_append, List.cons_append, readFrom]⟩
  | case6 inWord c rest hd hs ih =>
    obtain rfl : inWord = b.word.isSome := hb
    have he : c ≠ '\\' := by rintro rfl; cases hs
    rw [Mode.quoting, behind_cons, next_bare_of_separator hs] at h
    obtain ⟨r, hr⟩ := ih (b := b.cut) rfl h
    refine ⟨r, fun more hmore => ?_⟩
    rw [List.cons_append, readFrom_outside (by rintro _ rfl; cases hs) he, if_pos hs,
      ← hr more hmore, Begun.finish_cut, comp_map]
  | case7 inWord rest hd hs ih =>
    obtain ⟨r, hr⟩ := ih (b := b) trivial h
    refine ⟨r, hr.mark fun more => ?_⟩
    rw [List.cons_append, readFrom_outside (fun _ h => absurd h (by decide)) (by decide),
      if_neg hs, if_pos rfl]
  | case8 inWord rest hd hs hc ih =>
    obtain ⟨r, hr⟩ := ih (b := b) trivial h
    refine ⟨r, hr.mark fun more => ?_⟩
    rw [List.cons_append, readFrom_outside (fun _ h => absurd h (by decide)) (by decide),
      if_neg hs, if_neg hc, if_pos rfl]
  | case9 inWord => cases h
  | case10 inWord d rest hs hc hq hd ih =>
    obtain ⟨r, hr⟩ := ih (b.fits_take [d]) h
    refine ⟨r, hr.take fun more _ => ?_⟩
    rw [List.cons_append, List.cons_append]
    rfl
  | case11 inWord c rest hd hs hc hq he ih =>
    rw [Mode.quoting, isBare_behind_bare hd he hc hq] at h
    obtain ⟨r, hr⟩ := ih (b.fits_take [c]) h
    refine ⟨r, hr.take fun more hmore => ?_⟩
    have hd' : ∀ rest', c = '$' → rest ++ more ≠ '\'' :: rest' := by
      rintro rest' hdollar heq
      cases rest with
      | nil => exact hmore '\'' (by rw [← List.nil_append more, heq]; rfl) rfl
      | cons d rest => exact hd rest hdollar (by rw [(List.cons.inj heq).1])
    rw [List.cons_append, readFrom_outside hd' he, if_neg hs, if_neg hc, if_neg hq]
    rfl
  | case12 rest ih =>
    obtain ⟨r, hr⟩ := ih (b.fits_take []) h
    refine ⟨r, hr.take fun more _ => ?_⟩
    rw [List.cons_append, readFrom, if_pos rfl, prepend_nil, id_map]
  | case13 c rest hc ih =>
    rw [Mode.quoting, behind_cons, next, if_neg hc] at h
    obtain ⟨r, hr⟩ := ih (b := b.take [c]) trivial h
    refine ⟨r, hr.take fun more _ => ?_⟩
    rw [List.cons_append, readFrom, if_neg hc]
    rfl
  | case14 rest ih =>
    obtain ⟨r, hr⟩ := ih (b.fits_take []) h
    refine ⟨r, hr.take fun more _ => ?_⟩
    rw [List.cons_append, readFrom_double (by decide), if_pos rfl, prepend_nil, id_map]
  | case15 => cases h
  | case16 d rest hd hc ih =>
    obtain ⟨r, hr⟩ := ih (b := b.take [d]) trivial h
    refine ⟨r, hr.take fun more _ => ?_⟩
    rw [List.cons_append, List.cons_append, readFrom, if_neg hc, if_pos rfl, if_pos hd]
    rfl
  | case17 d rest hd hc ih =>
    obtain ⟨r, hr⟩ := ih (b := b.take ['\\', d]) trivial h
    refine ⟨r, hr.take fun more _ => ?_⟩
    rw [List.cons_append, List.cons_append, readFrom, if_neg hc, if_pos rfl, if_neg hd]
    rfl
  | case18 c rest hc he ih =>
    rw [Mode.quoting, behind_cons, next, if_neg he, if_neg hc] at h
    obtain ⟨r, hr⟩ := ih (b := b.take [c]) trivial h
    refine ⟨r, hr.take fun more _ => ?_⟩
    rw [List.cons_append, readFrom_double he, if_neg hc]
    rfl
  | case19 body rest ih =>
    cases htext : decodeFrom 0 body.reverse with
    | error e =>
      refine ⟨.error (.ansi e), fun more _ => ?_⟩
      rw [List.cons_append, readFrom_ansi_end, htext]
      rfl
    | ok text =>
      obtain ⟨r, hr⟩ := ih (b.fits_take text) h
      refine ⟨r, hr.take fun more _ => ?_⟩
      rw [List.cons_append, readFrom_ansi_end, htext]
      rfl
  | case20 body hc => cases h
  | case21 body d rest hc ih =>
    obtain ⟨r, hr⟩ := ih (b := b) trivial h
    refine ⟨r, hr.mark fun more => ?_⟩
    rw [List.cons_append, List.cons_append, readFrom, if_neg hc, if_pos rfl]
  | case22 body c rest hc he ih =>
    rw [Mode.quoting, behind_cons, next, if_neg he, if_neg hc] at h
    obtain ⟨r, hr⟩ := ih (b := b) trivial h
    refine ⟨r, hr.mark fun more => ?_⟩
    rw [List.cons_append, readFrom_ansi body hc he]

theorem exists_begun {s rest : List Char} {words : List (List Char)}
    (hs : (behind .bare s).isBare = true) (hrest : ∀ c ∈ rest.head?, c ≠ '\'')
    (h : readFrom (.outside false) (s ++ rest) = .ok words) :
    ∃ b, LeadsTo (.outside false) .empty s (.ok b) := by
  obtain ⟨r, hr⟩ := exists_leadsTo Begun.fits_empty hs
  cases r with
  | ok b => exact ⟨b, hr⟩
  | error e =>
    have hread := hr rest hrest
    rw [h] at hread
    cases hread

section Blank

open Text

variable {b : Begun} {c : Char} {w : List Char}

def Begun.over (b : Begun) (w : List Char) : Begun :=
  w.foldl (fun b c => if isSeparator c then b.cut else b.take [c]) b

@[simp] theorem Begun.over_nil : b.over [] = b := rfl

@[simp] theorem Begun.over_cons :
    b.over (c :: w) = (if isSeparator c then b.cut else b.take [c]).over w := rfl

theorem readFrom_blank (h : isBlank c = true) (inWord : Bool) (rest : List Char) :
    readFrom (.outside inWord) (c :: rest) =
      if isSeparator c then (if inWord then ([] :: ·) else id) <$> readFrom (.outside false) rest
      else push c <$> readFrom (.outside true) rest := by
  have hescape := ne_of_isBlank h (d := '\\') (by decide)
  have hsingle := ne_of_isBlank h (d := '\'') (by decide)
  have hdouble := ne_of_isBlank h (d := '"') (by decide)
  have hdollar := ne_of_isBlank h (d := '$') (by decide)
  rw [readFrom_outside (fun _ h => absurd h hdollar) hescape, if_neg hsingle, if_neg hdouble]

theorem leadsTo_blank (h : isBlank c = true) :
    LeadsTo b.mode b [c] (.ok (if isSeparator c then b.cut else b.take [c])) := by
  intro rest _
  rw [List.singleton_append, Begun.mode, readFrom_blank h]
  by_cases hs : isSeparator c
  · rw [if_pos hs, if_pos hs]
    change _ = b.cut.finish <$> readFrom (.outside false) rest
    rw [Begun.finish_cut, comp_map]
  · rw [if_neg hs, if_neg hs]
    change _ = (b.take [c]).finish <$> readFrom (.outside true) rest
    rw [Begun.finish_take, comp_map]
    rfl

theorem leadsTo_over (h : Blank w) (b : Begun) : LeadsTo b.mode b w (.ok (b.over w)) := by
  induction w generalizing b with
  | nil => exact .nil b
  | cons c w ih =>
    obtain ⟨hc, hw⟩ := List.forall_mem_cons.1 h
    refine (leadsTo_blank hc).append (ih hw _) fun d hd => ?_
    exact ne_of_isBlank (hw d (List.mem_of_mem_head? hd)) (by decide)

theorem leadsTo_escape (b : Begun) (d : Char) :
    LeadsTo b.mode b ['\\', d] (.ok (b.take [d])) := by
  intro rest _
  change b.finish <$> readFrom (.outside b.word.isSome) ('\\' :: d :: rest) =
    (b.take [d]).finish <$> readFrom (.outside true) rest
  rw [Begun.finish_take, comp_map]
  rfl

end Blank

section Ends

open Text

variable {b : Begun} {core w : List Char} {words : List (List Char)}

theorem not_joins_of_blank (hw : Blank w) (s : List Char) : ¬ Joins w s := by
  have hescape : '\\' ∉ w := fun h => absurd (hw _ h) (by decide)
  rintro (⟨hsuffix, -⟩ | ⟨hsuffix, -⟩)
  · exact hescape (hsuffix.subset (by simp))
  · exact hescape (hsuffix.subset (by simp))

theorem joinLines_of_blank (hw : Blank w) : joinLines w = w := by
  have hescape : '\\' ∉ w := fun h => absurd (hw _ h) (by decide)
  refine joinLines_eq_self_iff.2 ⟨fun h => ?_, fun h => ?_⟩
  · exact hescape (h.subset (by simp))
  · exact hescape (h.subset (by simp))

theorem exists_escaped (h : (behind .bare (core ++ ['\\'])).isBare = true) :
    ∃ s, core = s ++ ['\\'] ∧ (behind .bare s).isBare = true := by
  rw [behind_append] at h
  rcases List.eq_nil_or_concat core with rfl | ⟨s, c, rfl⟩
  · cases h
  · rw [List.concat_eq_append, behind_append] at h
    refine ⟨s, ?_⟩
    generalize behind .bare s = q at h
    cases q <;> simp [next, nextBare] at h ⊢ <;> grind [isBare]

theorem exists_joined (hlast : ∀ c ∈ core.getLast?, isBlank c = false) (h : Joins core w) :
    ∃ s more, core = s ++ ['\\'] ∧ joinLines (['\\'] ++ w) = ' ' :: joinLines more ∧
      more <:+ w := by
  rcases h with ⟨⟨s, rfl⟩, hline | hline⟩ | ⟨⟨s, rfl⟩, -⟩
  · obtain ⟨more, rfl⟩ := hline
    exact ⟨s, more, rfl, rfl, List.suffix_append ..⟩
  · obtain ⟨more, rfl⟩ := hline
    exact ⟨s, more, rfl, rfl, List.suffix_append ..⟩
  · exact absurd (hlast '\r' (by simp)) (by decide)

/-- What has been read of a text, and then of the white space behind it. If the text ends in an
escaped backslash, this may be taken for one that joins the next line, and the escape falls on the
space in its place. -/
inductive Begun.Spaced (text w : List Char) : Begun → Begun → Prop
  | kept {b : Begun} (h : ¬ Joins text w) : Spaced text w b (b.over w)
  | joined {b : Begun} {more : List Char} (h : Joins text w) :
    Spaced text w (b.take ['\\']) ((b.take [' ']).over more)

theorem exists_begun_blank (h : readFrom (.outside false) (joinLines core) = .ok words)
    (hlast : ∀ c ∈ core.getLast?, isBlank c = false) (hw : Blank w) :
    ∃ b b' : Begun, b.all = words ∧ Begun.Spaced core w b b' ∧
      LeadsTo (.outside false) .empty (joinLines (core ++ w)) (.ok b') := by
  have hbare : (behind .bare (joinLines core)).isBare = true := isBare_of_readFrom h
  by_cases hjoins : Joins core w
  · obtain ⟨s, more, rfl, hjoined, hmore⟩ := exists_joined hlast hjoins
    rw [behind_joinLines] at hbare
    obtain ⟨p, rfl, hp⟩ := exists_escaped hbare
    have hblank : Blank more := fun c hc => hw c (hmore.subset hc)
    have hcore : joinLines (p ++ ['\\'] ++ ['\\']) = joinLines p ++ ['\\', '\\'] := by
      rw [List.append_assoc, joinLines_append (not_joins_of_head? (by simp))]
      rfl
    have hover : joinLines (p ++ ['\\'] ++ ['\\'] ++ w) = joinLines p ++ ['\\', ' '] ++ more := by
      rw [List.append_assoc, List.append_assoc, joinLines_append (not_joins_of_head? (by simp)),
        List.singleton_append, joinLines_cons (by simp), hjoined, joinLines_of_blank hblank]
      simp
    rw [← behind_joinLines] at hp
    rw [hcore] at h
    obtain ⟨begun, hbegun⟩ := exists_begun hp (by simp) h
    have hescape (d : Char) := hbegun.append (leadsTo_escape begun d) (by simp)
    refine ⟨begun.take ['\\'], (begun.take [' ']).over more, (hescape '\\').all_eq h,
      .joined hjoins, ?_⟩
    rw [hover]
    refine (hescape ' ').append (leadsTo_over hblank _) fun c hc => ?_
    exact ne_of_isBlank (hblank c (List.mem_of_mem_head? hc)) (by decide)
  · have hmark : ∀ c ∈ w.head?, c ≠ '\'' := fun c hc =>
      ne_of_isBlank (hw c (List.mem_of_mem_head? hc)) (by decide)
    have hwhole : readFrom (.outside false) (joinLines core ++ []) = .ok words := by
      rwa [List.append_nil]
    obtain ⟨b, hb⟩ := exists_begun hbare (by simp) hwhole
    refine ⟨b, b.over w, hb.all_eq h, .kept hjoins, ?_⟩
    rw [joinLines_append hjoins, joinLines_of_blank hw]
    exact hb.append (leadsTo_over hw b) hmark

end Ends

def argumentsOf (words : List (List Char)) : Except CommandError (List String) :=
  match words.map String.ofList with
  | [] => .error .noCommand
  | name :: rest => if name ∈ commandNames then .ok rest else .error (.otherCommand name)

theorem argumentsOf_eq_ok {words : List (List Char)} {arguments : List String} :
    argumentsOf words = .ok arguments ↔
      ∃ name ∈ commandNames, words.map String.ofList = name :: arguments := by
  unfold argumentsOf
  split
  · rename_i hnil
    simp [hnil]
  · rename_i name rest hcons
    split
    · simp_all
    · simp_all

theorem isBlank_of_mem_commandNames {name : String} (h : name ∈ commandNames) :
    ∀ c ∈ name.toList, Text.isBlank c = false := by
  have hall : ∀ name ∈ commandNames, name.toList.all (!Text.isBlank ·) = true := by decide
  simpa using hall name h

theorem arguments_ofList (s : List Char) :
    Shell.arguments (.ofList s) =
      readFrom (.outside false) (joinLines (Text.trimEnd (Text.trimStart s))) >>= argumentsOf := by
  rw [readFrom_eq_readTwice (.outside false), readTwice, Shell.arguments, bind_assoc, Text.trim,
    String.toList_ofList, String.toList_ofList]
  simp only [Bool.false_eq_true, if_false]
  split
  · rename_i hnil
    rw [hnil]
    rfl
  · cases (expandFrom .bare (joinLines (Text.trimEnd (Text.trimStart s)))).mapError
      CommandError.ansi <;> rfl

section Accepted

open Text

variable {t : List Char} {arguments : List String}

theorem not_blank_of_arguments (h : Shell.arguments (.ofList t) = .ok arguments) : ¬ Blank t := by
  intro hblank
  rw [arguments_ofList, trimStart_eq_nil.2 hblank] at h
  cases h

theorem exists_begun_trimStart (h : Shell.arguments (.ofList t) = .ok arguments) :
    ∃ b b' : Begun, argumentsOf b.all = .ok arguments ∧
      Begun.Spaced (trimEnd (trimStart t)) (t.rtakeWhile isBlank) b b' ∧
      LeadsTo (.outside false) .empty (joinLines (trimStart t)) (.ok b') := by
  have hblank := not_blank_of_arguments h
  rw [arguments_ofList] at h
  obtain ⟨words, hwords, hargs⟩ := bind_eq_ok_iff.1 h
  obtain ⟨b, b', rfl, hspaced, hb'⟩ := exists_begun_blank hwords (isBlank_getLast?_trimEnd _)
    (blank_rtakeWhile t)
  rw [← rtakeWhile_trimStart hblank, trimEnd_append_rtakeWhile] at hb'
  exact ⟨b, b', hargs, hspaced, hb'⟩

end Accepted

end CurlScribe.Shell
