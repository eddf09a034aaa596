import CurlScribe.Shell.AnsiC
import CurlScribe.Shell.Words
import Mathlib

namespace CurlScribe.Shell

def prepend (text : List Char) (words : List (List Char)) : List (List Char) :=
  text.foldr push words

@[simp] theorem prepend_nil : prepend [] = id := rfl

@[simp] theorem prepend_cons (c : Char) (text : List Char) (words : List (List Char)) :
    prepend (c :: text) words = push c (prepend text words) := rfl

@[simp] theorem prepend_word (text word : List Char) (words : List (List Char)) :
    prepend text (word :: words) = (text ++ word) :: words := by
  induction text with
  | nil => rfl
  | cons c text ih => simp [ih, push]

theorem isPlain_ne {c d : Char} (h : isPlain c = true) (hd : isPlain d = false) : c ≠ d := by
  rintro rfl
  rw [h] at hd
  cases hd

theorem isSeparator_of_isPlain {c : Char} (h : isPlain c = true) : isSeparator c = false := by
  have hspace := isPlain_ne h (d := ' ') (by decide)
  have htab := isPlain_ne h (d := '\t') (by decide)
  have hreturn := isPlain_ne h (d := '\r') (by decide)
  have hline := isPlain_ne h (d := '\n') (by decide)
  simp [isSeparator, hspace, htab, hreturn, hline]

section Expansion

variable {c : Char} {s rest : List Char}

theorem expandFrom_bare (hc : c ≠ '\\') (hd : ∀ rest', c = '$' → rest ≠ '\'' :: rest') :
    expandFrom .bare (c :: rest) = (c :: ·) <$>
      expandFrom (if c = '\'' then .single else if c = '"' then .double else .bare) rest := by
  cases rest with
  | nil => simp [expandFrom, hc]
  | cons d rest =>
    rw [expandFrom, if_neg hc]
    exact hd

theorem expandFrom_plain (h : s.all isPlain = true) (rest : List Char) :
    expandFrom .bare (s ++ rest) = (s ++ ·) <$> expandFrom .bare rest := by
  induction s with
  | nil => simp
  | cons c s ih =>
    obtain ⟨hc, hs⟩ := Bool.and_eq_true_iff.1 h
    have hdollar := isPlain_ne hc (d := '$') (by decide)
    have hescape := isPlain_ne hc (d := '\\') (by decide)
    have hsingle := isPlain_ne hc (d := '\'') (by decide)
    have hdouble := isPlain_ne hc (d := '"') (by decide)
    rw [List.cons_append, expandFrom_bare hescape (fun _ h => absurd h hdollar), if_neg hsingle,
      if_neg hdouble, ih hs, Functor.map_map]
    rfl

theorem expandFrom_quoteChar (c : Char) (rest : List Char) :
    expandFrom .single (quoteChar c ++ rest) = (quoteChar c ++ ·) <$> expandFrom .single rest := by
  unfold quoteChar
  split
  · -- The apostrophe between quotation marks is left and entered again.
    have hback : expandFrom .bare ('\'' :: rest) = ('\'' :: ·) <$> expandFrom .single rest :=
      expandFrom_bare (by decide) nofun
    simp [expandFrom, hback]
  · rename_i hc
    simp [expandFrom, hc]

theorem expandFrom_single (s rest : List Char) :
    expandFrom .single (s.flatMap quoteChar ++ '\'' :: rest) =
      (s.flatMap quoteChar ++ '\'' :: ·) <$> expandFrom .bare rest := by
  induction s with
  | nil => simp [expandFrom]
  | cons c s ih =>
    rw [List.flatMap_cons, List.append_assoc, expandFrom_quoteChar, ih, Functor.map_map]
    simp

theorem expandFrom_quoteList (s rest : List Char) :
    expandFrom .bare (quoteList s ++ rest) = (quoteList s ++ ·) <$> expandFrom .bare rest := by
  have hopen (rest : List Char) :
      expandFrom .bare ('\'' :: rest) = ('\'' :: ·) <$> expandFrom .single rest :=
    expandFrom_bare (by decide) nofun
  unfold quoteList
  split
  · simp [hopen, expandFrom]
  · split
    · rename_i hplain
      exact expandFrom_plain hplain rest
    · simp [hopen, expandFrom_single]

end Expansion

section Words

-- The equations are made here once, before several proofs ask for them at the same time.
attribute [grind =] wordsFrom

variable {place : Place} {s rest : List Char}

def Place.isOutside : Place → Bool
  | .between | .bare => true
  | .single | .double => false

theorem wordsFrom_outside (hp : place.isOutside = true) {c : Char} (hs : isSeparator c = false)
    (he : c ≠ '\\') (rest : List Char) :
    wordsFrom place (c :: rest) =
      if c = '\'' then wordsFrom .single rest
      else if c = '"' then wordsFrom .double rest
      else push c <$> wordsFrom .bare rest := by
  cases place with
  | between => cases rest <;> simp [wordsFrom, hs, he]
  | bare => cases rest <;> simp [wordsFrom, hs, he]
  | single => cases hp
  | double => cases hp

theorem wordsFrom_between_separator {c : Char} (h : isSeparator c = true) (rest : List Char) :
    wordsFrom .between (c :: rest) = wordsFrom .between rest := by
  cases rest <;> simp [wordsFrom, h]

theorem wordsFrom_bare_separator {c : Char} (h : isSeparator c = true) (rest : List Char) :
    wordsFrom .bare (c :: rest) = ([] :: ·) <$> wordsFrom .between rest := by
  cases rest <;> simp [wordsFrom, h]

theorem wordsFrom_apostrophe (hp : place.isOutside = true) (rest : List Char) :
    wordsFrom place ('\'' :: rest) = wordsFrom .single rest := by
  rw [wordsFrom_outside hp (by decide) (by decide), if_pos rfl]

theorem wordsFrom_plain_cons {c : Char} (hp : place.isOutside = true) (hc : isPlain c = true)
    (rest : List Char) : wordsFrom place (c :: rest) = push c <$> wordsFrom .bare rest := by
  have hescape := isPlain_ne hc (d := '\\') (by decide)
  have hsingle := isPlain_ne hc (d := '\'') (by decide)
  have hdouble := isPlain_ne hc (d := '"') (by decide)
  rw [wordsFrom_outside hp (isSeparator_of_isPlain hc) hescape, if_neg hsingle, if_neg hdouble]

theorem wordsFrom_plain (h : s.all isPlain = true) (rest : List Char) :
    wordsFrom .bare (s ++ rest) = prepend s <$> wordsFrom .bare rest := by
  induction s with
  | nil => simp
  | cons c s ih =>
    obtain ⟨hc, hs⟩ := Bool.and_eq_true_iff.1 h
    rw [List.cons_append, wordsFrom_plain_cons rfl hc, ih hs, Functor.map_map]
    rfl

theorem wordsFrom_quoteChar (c : Char) (rest : List Char) :
    wordsFrom .single (quoteChar c ++ rest) = push c <$> wordsFrom .single rest := by
  unfold quoteChar
  split
  · rename_i hc
    have hclose (p : List Char) : wordsFrom .single ('\'' :: p) = wordsFrom .bare p := by
      rw [wordsFrom, if_pos rfl]
    have hopen (p : List Char) : wordsFrom .bare ('"' :: p) = wordsFrom .double p := by
      rw [wordsFrom_outside rfl (by decide) (by decide), if_neg (by decide), if_pos rfl]
    have hmark (p : List Char) :
        wordsFrom .double ('\'' :: '"' :: p) = push '\'' <$> wordsFrom .bare p := by
      cases p <;> simp [wordsFrom]
    change wordsFrom .single ('\'' :: '"' :: '\'' :: '"' :: '\'' :: rest) = _
    rw [hclose, hopen, hmark, wordsFrom_apostrophe rfl, hc]
  · rename_i hc
    simp [wordsFrom, hc]

theorem wordsFrom_single (s rest : List Char) :
    wordsFrom .single (s.flatMap quoteChar ++ '\'' :: rest) =
      prepend s <$> wordsFrom .bare rest := by
  induction s with
  | nil => simp [wordsFrom]
  | cons c s ih =>
    rw [List.flatMap_cons, List.append_assoc, wordsFrom_quoteChar, ih, Functor.map_map]
    rfl

theorem wordsFrom_quoteList (hp : place.isOutside = true) (s rest : List Char) :
    wordsFrom place (quoteList s ++ rest) = prepend s <$> wordsFrom .bare rest := by
  unfold quoteList
  split
  · rename_i hnil
    simp [wordsFrom_apostrophe hp, wordsFrom, hnil]
  · split
    · rename_i hne hplain
      obtain ⟨c, s, rfl⟩ := List.exists_cons_of_ne_nil hne
      obtain ⟨hc, hs⟩ := Bool.and_eq_true_iff.1 hplain
      rw [List.cons_append, wordsFrom_plain_cons hp hc, wordsFrom_plain hs, Functor.map_map]
      rfl
    · simp [wordsFrom_apostrophe hp, wordsFrom_single]

end Words

end CurlScribe.Shell
