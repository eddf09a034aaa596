import CurlScribe.Text.Basic
import Mathlib.Data.List.Basic

namespace CurlScribe.Text

variable {sep : Char} {s before after : List Char}

theorem cutList_eq_none : cutList sep s = (before, none) ↔ before = s ∧ sep ∉ s := by
  constructor
  · induction s generalizing before with
    | nil => simp [cutList, eq_comm]
    | cons c rest ih =>
      intro h
      rw [cutList] at h
      split at h
      · cases h
      · rename_i hc
        obtain ⟨rfl, hcut⟩ := Prod.mk.injEq .. ▸ h
        obtain ⟨hb, hn⟩ := ih (Prod.ext rfl hcut)
        simp [hn, Ne.symm hc]
  · rintro ⟨rfl, h⟩
    exact cutList_of_not_mem h

theorem cutList_eq_some :
    cutList sep s = (before, some after) ↔ s = before ++ sep :: after ∧ sep ∉ before := by
  constructor
  · induction s generalizing before with
    | nil => simp [cutList]
    | cons c rest ih =>
      intro h
      rw [cutList] at h
      split at h
      · rename_i hc
        cases h
        simp [hc]
      · rename_i hc
        obtain ⟨rfl, hcut⟩ := Prod.mk.injEq .. ▸ h
        obtain ⟨hb, hn⟩ := ih (Prod.ext rfl hcut)
        exact ⟨by rw [List.cons_append, ← hb], by simp [hn, Ne.symm hc]⟩
  · rintro ⟨rfl, h⟩
    exact cutList_append h

theorem append_elim_cutList (sep : Char) (s : List Char) :
    (cutList sep s).1 ++ (cutList sep s).2.elim [] (sep :: ·) = s := by
  rcases h : cutList sep s with ⟨before, _ | after⟩
  · simpa using (cutList_eq_none.1 h).1
  · exact (cutList_eq_some.1 h).1.symm

theorem cutList_append_elim (h : sep ∉ s) (after : Option (List Char)) :
    cutList sep (s ++ after.elim [] (sep :: ·)) = (s, after) := by
  cases after with
  | none => simp [h]
  | some after => exact cutList_append h

theorem not_mem_fst_cutList (sep : Char) (s : List Char) : sep ∉ (cutList sep s).1 := by
  rcases h : cutList sep s with ⟨before, _ | after⟩
  · obtain ⟨rfl, hn⟩ := cutList_eq_none.1 h
    exact hn
  · exact (cutList_eq_some.1 h).2

theorem cutList_append_left {given : List Char} (h : sep ∉ given) (s : List Char) :
    cutList sep (given ++ s) = (given ++ (cutList sep s).1, (cutList sep s).2) := by
  induction given with
  | nil => rfl
  | cons c given ih =>
    have hc : c ≠ sep := fun e => h (by simp [e])
    simp [cutList, hc, ih fun m => h (.tail _ m)]

theorem head?_fst_cutList {c : Char} (h : c ∈ (cutList sep s).1.head?) : c ∈ s.head? := by
  cases s with
  | nil => cases h
  | cons d rest =>
    rw [cutList] at h
    split at h
    · cases h
    · exact h

theorem mem_of_mem_fst_cutList {c : Char} (h : c ∈ (cutList sep s).1) : c ∈ s := by
  rcases hs : cutList sep s with ⟨before, _ | after⟩
  · obtain ⟨rfl, -⟩ := cutList_eq_none.1 hs
    simpa [hs] using h
  · rw [(cutList_eq_some.1 hs).1]
    exact List.mem_append_left _ (by simpa [hs] using h)

theorem mem_of_mem_snd_cutLastList {c : Char} (h : c ∈ (cutLastList sep s).2) : c ∈ s := by
  have : c ∈ (cutList sep s.reverse).1 := by simpa [cutLastList] using h
  exact List.mem_reverse.1 (mem_of_mem_fst_cutList this)

theorem not_mem_snd_cutLastList (sep : Char) (s : List Char) : sep ∉ (cutLastList sep s).2 := by
  simpa [cutLastList] using not_mem_fst_cutList sep s.reverse

theorem snd_cutLastList_of_not_mem (h : sep ∉ s) : (cutLastList sep s).2 = s := by
  have : sep ∉ s.reverse := by simpa using h
  simp [cutLastList, this]

theorem fst_cutLastList_eq_none : (cutLastList sep s).1 = none ↔ sep ∉ s := by
  rcases h : cutList sep s.reverse with ⟨after, _ | before⟩
  · simpa [cutLastList, h] using (cutList_eq_none.1 h).2
  · have hs : s.reverse = after ++ sep :: before := (cutList_eq_some.1 h).1
    have : sep ∈ s := List.mem_reverse.1 (by simp [hs])
    simp [cutLastList, h, this]

theorem cutLastList_eq_some : cutLastList sep s = (some before, after) ↔
    s = before ++ sep :: after ∧ sep ∉ after := by
  have hreverse : cutLastList sep s = (some before, after) ↔
      cutList sep s.reverse = (after.reverse, some before.reverse) := by
    unfold cutLastList
    rcases cutList sep s.reverse with ⟨behind, _ | ahead⟩ <;>
      simp [List.reverse_eq_iff, and_comm]
  rw [hreverse, cutList_eq_some, List.reverse_eq_iff]
  simp

theorem cutOnList_of_not_infix {sep : List Char} (h : ¬ sep <:+: s) :
    cutOnList sep s = (s, none) := by
  induction s with
  | nil => rfl
  | cons d s ih =>
    have hnone : sep.isPrefixOf? (d :: s) = none := by
      rw [Option.eq_none_iff_forall_ne_some]
      intro after hafter
      rw [List.isPrefixOf?_eq_some_iff_append_eq] at hafter
      have hprefix : sep <+: d :: s := ⟨after, hafter⟩
      exact h hprefix.isInfix
    rw [cutOnList, hnone, ih fun hin => h (List.infix_cons hin)]

theorem cutOnList_of_not_mem {sep : List Char} {c : Char} (hc : c ∈ sep) (h : c ∉ s) :
    cutOnList sep s = (s, none) :=
  cutOnList_of_not_infix fun hin => h (hin.subset hc)

theorem cutOnList_append {c : Char} {sep : List Char} (h : c ∉ before) (after : List Char) :
    cutOnList (c :: sep) (before ++ (c :: sep ++ after)) = (before, some after) := by
  induction before with
  | nil =>
    have hself : (c :: sep).isPrefixOf? (c :: sep ++ after) = some after := by
      rw [List.isPrefixOf?_eq_some_iff_append_eq]
    rw [List.nil_append, List.cons_append, cutOnList, ← List.cons_append, hself]
  | cons d before ih =>
    have hd : c ≠ d := fun e => h (by simp [e])
    rw [List.cons_append, cutOnList, ih fun hm => h (.tail _ hm)]
    simp [List.isPrefixOf?, hd]

theorem splitList_append {piece : List Char} (h : sep ∉ piece) (rest : List Char) :
    splitList sep (piece ++ sep :: rest) = piece :: splitList sep rest := by
  induction piece with
  | nil => rw [List.nil_append, splitList, if_pos rfl]
  | cons c piece ih =>
    have hc : c ≠ sep := fun heq => h (heq ▸ List.mem_cons_self)
    rw [List.cons_append, splitList, if_neg hc, ih (mt (List.mem_cons_of_mem c) h)]

theorem splitList_of_not_mem (h : sep ∉ s) : splitList sep s = [s] := by
  induction s with
  | nil => rfl
  | cons c s ih =>
    have hc : c ≠ sep := fun heq => h (heq ▸ List.mem_cons_self)
    rw [splitList, if_neg hc, ih (mt (List.mem_cons_of_mem c) h)]

theorem splitList_append_separator (sep : Char) (s rest : List Char) :
    splitList sep (s ++ sep :: rest) = splitList sep s ++ splitList sep rest := by
  induction s with
  | nil => exact splitList_append List.not_mem_nil rest
  | cons c s ih =>
    rw [List.cons_append, splitList, splitList]
    split
    · rw [ih]
      rfl
    · obtain ⟨piece, pieces, hs⟩ := List.exists_cons_of_ne_nil (splitList_ne_nil sep s)
      rw [ih, hs]
      rfl

theorem not_mem_of_mem_splitList {piece : List Char} (h : piece ∈ splitList sep s) :
    sep ∉ piece := by
  induction s generalizing piece with
  | nil =>
    obtain rfl := List.mem_singleton.1 h
    exact List.not_mem_nil
  | cons c s ih =>
    rw [splitList] at h
    split at h
    · rcases List.mem_cons.1 h with rfl | h
      · exact List.not_mem_nil
      · exact ih h
    · rename_i hc
      split at h
      · rename_i first pieces hs
        rcases List.mem_cons.1 h with rfl | h
        · exact List.not_mem_cons_of_ne_of_not_mem (Ne.symm hc) (ih (hs ▸ List.mem_cons_self))
        · exact ih (hs ▸ List.mem_cons_of_mem first h)
      · rename_i hs
        exact absurd hs (splitList_ne_nil sep s)

theorem subset_of_mem_splitList {piece : List Char} (h : piece ∈ splitList sep s) : piece ⊆ s := by
  induction s generalizing piece with
  | nil =>
    obtain rfl := List.mem_singleton.1 h
    exact List.nil_subset _
  | cons c s ih =>
    have hlater {piece : List Char} (hpiece : piece ∈ splitList sep s) : piece ⊆ c :: s :=
      List.subset_cons_of_subset c (ih hpiece)
    rw [splitList] at h
    split at h
    · rcases List.mem_cons.1 h with rfl | h
      · exact List.nil_subset _
      · exact hlater h
    · split at h
      · rename_i first pieces hs
        rcases List.mem_cons.1 h with rfl | h
        · exact List.cons_subset_cons c (ih (hs ▸ List.mem_cons_self))
        · exact hlater (hs ▸ List.mem_cons_of_mem first h)
      · rename_i hs
        exact absurd hs (splitList_ne_nil sep s)

section Strings

variable {p s before rest : String}

theorem cut_append (h : sep ∉ before.toList) (after : String) :
    cut sep (before ++ .singleton sep ++ after) = (before, some after) := by
  simp [cut, h]

theorem cut_of_not_mem (h : sep ∉ s.toList) : cut sep s = (s, none) := by
  simp [cut, cutList_eq_none.2 ⟨rfl, h⟩]

theorem afterStart?_eq_some : afterStart? p s = some rest ↔ s = p ++ rest := by
  rw [afterStart?, Option.map_eq_some_iff]
  simp only [List.isPrefixOf?_eq_some_iff_append_eq]
  constructor
  · rintro ⟨after, hafter, rfl⟩
    rw [← String.toList_inj, ← hafter]
    simp
  · rintro rfl
    exact ⟨rest.toList, by simp, String.ofList_toList⟩

theorem endsWith_eq_true : endsWith p s = true ↔ ∃ before, s = before ++ p := by
  rw [endsWith, List.isPrefixOf_iff_prefix, List.reverse_prefix]
  constructor
  · rintro ⟨before, h⟩
    exact ⟨.ofList before, by simp [← String.toList_inj, h]⟩
  · rintro ⟨before, rfl⟩
    exact ⟨before.toList, String.toList_append.symm⟩

theorem dropEnd_append (before p : String) : dropEnd p.toList.length (before ++ p) = before := by
  simp [dropEnd]

end Strings

end CurlScribe.Text
