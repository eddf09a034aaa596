import CurlScribe.Text.Blank
import Mathlib.Data.List.Basic
import Mathlib.Data.List.DropRight

namespace CurlScribe.Text

variable {s before after : List Char}

theorem ne_of_isBlank {c d : Char} (h : isBlank c = true) (hd : isBlank d = false) : c ≠ d := by
  rintro rfl
  rw [h] at hd
  cases hd

theorem trimStart_eq_self (h : ∀ c ∈ s.head?, isBlank c = false) : trimStart s = s := by
  cases s with
  | nil => rfl
  | cons c s =>
    have hc : isBlank c = false := h c rfl
    rw [trimStart, List.dropWhile_cons_of_neg (by simp [hc])]

theorem trimEnd_append (h : ∀ c ∈ s.getLast?, isBlank c = false)
    (hafter : ∀ c ∈ after, isBlank c = true) : trimEnd (s ++ after) = s := by
  have hreverse : ∀ c ∈ after.reverse, isBlank c = true := by simpa using hafter
  have hs : s.reverse.dropWhile isBlank = s.reverse :=
    trimStart_eq_self (by simpa using h)
  rw [trimEnd, List.reverse_append, List.dropWhile_append_of_pos hreverse, hs, List.reverse_reverse]

theorem trim_append (hfirst : ∀ c ∈ (s ++ after).head?, isBlank c = false)
    (hlast : ∀ c ∈ s.getLast?, isBlank c = false) (hafter : ∀ c ∈ after, isBlank c = true) :
    trim (.ofList (s ++ after)) = .ofList s := by
  rw [trim, String.toList_ofList, trimStart_eq_self hfirst, trimEnd_append hlast hafter]

theorem isBlank_head?_trimStart (s : List Char) : ∀ c ∈ (trimStart s).head?, isBlank c = false := by
  intro c hc
  have hhead := List.head?_dropWhile_not isBlank s
  rw [trimStart, Option.mem_def] at hc
  rwa [hc] at hhead

theorem prefix_trimEnd (s : List Char) : trimEnd s <+: s := by
  have hsuffix := List.dropWhile_suffix isBlank (l := s.reverse)
  rwa [← List.reverse_prefix, List.reverse_reverse] at hsuffix

theorem isBlank_getLast?_trimEnd (s : List Char) :
    ∀ c ∈ (trimEnd s).getLast?, isBlank c = false := by
  intro c hc
  rw [trimEnd, List.getLast?_reverse] at hc
  exact isBlank_head?_trimStart s.reverse c hc

theorem isBlank_head?_trimEnd (h : ∀ c ∈ s.head?, isBlank c = false) :
    ∀ c ∈ (trimEnd s).head?, isBlank c = false := by
  intro c hc
  obtain ⟨after, hafter⟩ := prefix_trimEnd s
  apply h
  rw [← hafter, List.head?_append, Option.mem_def.1 hc]
  rfl

theorem trim_eq_self {s : String} : trim s = s ↔
    (∀ c ∈ s.toList.head?, isBlank c = false) ∧ ∀ c ∈ s.toList.getLast?, isBlank c = false := by
  constructor
  · intro h
    have hlist : s.toList = trimEnd (trimStart s.toList) := by
      conv_lhs => rw [← h, trim, String.toList_ofList]
    rw [hlist]
    exact ⟨isBlank_head?_trimEnd (isBlank_head?_trimStart _), isBlank_getLast?_trimEnd _⟩
  · rintro ⟨hfirst, hlast⟩
    have hfirst : ∀ c ∈ (s.toList ++ []).head?, isBlank c = false := by simpa using hfirst
    have htrim := trim_append hfirst hlast (List.forall_mem_nil _)
    rwa [List.append_nil, String.ofList_toList] at htrim

theorem trim_trim (s : String) : trim (trim s) = trim s := by
  rw [trim_eq_self, trim, String.toList_ofList]
  exact ⟨isBlank_head?_trimEnd (isBlank_head?_trimStart _), isBlank_getLast?_trimEnd _⟩

def Blank (s : List Char) : Prop := ∀ c ∈ s, isBlank c = true

instance (s : List Char) : Decidable (Blank s) := List.decidableBAll _ s

section Append

variable {t : List Char}

theorem blank_append : Blank (s ++ t) ↔ Blank s ∧ Blank t := List.forall_mem_append

theorem trimStart_eq_nil : trimStart s = [] ↔ Blank s := by
  rw [trimStart, List.dropWhile_eq_nil_iff]
  rfl

theorem trimStart_append (h : ¬ Blank s) (t : List Char) :
    trimStart (s ++ t) = trimStart s ++ t := by
  have hne : (s.dropWhile isBlank).isEmpty = false := by
    rw [List.isEmpty_eq_false_iff]
    exact mt trimStart_eq_nil.1 h
  rw [trimStart, List.dropWhile_append, hne]
  rfl

theorem trimStart_append_of_blank (h : Blank s) (t : List Char) :
    trimStart (s ++ t) = trimStart t :=
  List.dropWhile_append_of_pos h

theorem blank_reverse : Blank s.reverse ↔ Blank s := by
  simp [Blank]

theorem trimEnd_eq (s : List Char) : trimEnd s = (trimStart s.reverse).reverse := rfl

theorem trimEnd_append_of_not_blank (h : ¬ Blank t) (s : List Char) :
    trimEnd (s ++ t) = s ++ trimEnd t := by
  rw [trimEnd_eq, List.reverse_append, trimStart_append (mt blank_reverse.1 h),
    List.reverse_append, List.reverse_reverse, trimEnd_eq]

theorem trimEnd_cons_of_not_blank (h : ¬ Blank t) (c : Char) : trimEnd (c :: t) = c :: trimEnd t :=
  trimEnd_append_of_not_blank h [c]

theorem trimEnd_append_of_blank (h : Blank t) (s : List Char) : trimEnd (s ++ t) = trimEnd s := by
  rw [trimEnd_eq, List.reverse_append, trimStart_append_of_blank (blank_reverse.2 h), trimEnd_eq]

theorem trimEnd_append_rtakeWhile (s : List Char) : trimEnd s ++ s.rtakeWhile isBlank = s := by
  rw [trimEnd, List.rtakeWhile, ← List.reverse_append, List.takeWhile_append_dropWhile,
    List.reverse_reverse]

theorem blank_takeWhile (s : List Char) : Blank (s.takeWhile isBlank) :=
  fun _ => List.mem_takeWhile_imp

theorem blank_trimStart : Blank (trimStart s) ↔ Blank s := by
  have hlead := List.takeWhile_append_dropWhile (p := isBlank) (l := s)
  rw [trimStart, ← and_iff_right (b := Blank (s.dropWhile isBlank)) (blank_takeWhile s),
    ← blank_append, hlead]

theorem trimEnd_of_not_blank (h : ¬ Blank s) :
    trimEnd s = s.takeWhile isBlank ++ trimEnd (trimStart s) := by
  rw [← trimEnd_append_of_not_blank (mt blank_trimStart.1 h), trimStart,
    List.takeWhile_append_dropWhile]

theorem rtakeWhile_trimStart (h : ¬ Blank s) :
    (trimStart s).rtakeWhile isBlank = s.rtakeWhile isBlank := by
  have hne : ((trimStart s).reverse.takeWhile isBlank).length ≠ (trimStart s).reverse.length := by
    intro hlength
    refine h (blank_trimStart.1 ?_)
    rw [← blank_reverse, ← (List.takeWhile_prefix isBlank).eq_of_length hlength]
    exact blank_takeWhile _
  have hsplit : s.reverse = (trimStart s).reverse ++ (s.takeWhile isBlank).reverse := by
    rw [← List.reverse_append, trimStart, List.takeWhile_append_dropWhile]
  rw [List.rtakeWhile, List.rtakeWhile, hsplit, List.takeWhile_append, if_neg hne]

theorem blank_rtakeWhile (s : List Char) : Blank (s.rtakeWhile isBlank) :=
  fun _ => List.mem_rtakeWhile_imp

end Append

theorem trim_cons {c : Char} (h : isBlank c = true) :
    trim (.ofList (c :: s)) = trim (.ofList s) := by
  rw [trim, trim, String.toList_ofList, String.toList_ofList, trimStart,
    List.dropWhile_cons_of_pos h]
  rfl

theorem mem_of_mem_trim {c : Char} {s : String} (h : c ∈ (trim s).toList) : c ∈ s.toList := by
  rw [trim, String.toList_ofList] at h
  exact (List.dropWhile_suffix _).subset ((prefix_trimEnd _).subset h)

end CurlScribe.Text
