import CurlScribe.Text.Basic
import Mathlib.Data.List.Basic
import Mathlib.Tactic.Ring

/-!
Lists, and texts, that differ in one place only. They are the same just if what is there is.
-/

namespace CurlScribe

/-- Whether two lists differ in one place at most, where the first has `x` and the second `y`. -/
def Replaced {α : Type} (x y : α) (l m : List α) : Prop :=
  ∃ before after, l = before ++ x :: after ∧ m = before ++ y :: after

namespace Replaced

variable {α β : Type} {x y : α} {l m : List α}

theorem append_left (k : List α) (h : Replaced x y l m) : Replaced x y (k ++ l) (k ++ m) := by
  obtain ⟨before, after, rfl, rfl⟩ := h
  exact ⟨k ++ before, after, (List.append_assoc ..).symm, (List.append_assoc ..).symm⟩

theorem append_right (h : Replaced x y l m) (k : List α) : Replaced x y (l ++ k) (m ++ k) := by
  obtain ⟨before, after, rfl, rfl⟩ := h
  exact ⟨before, after ++ k, List.append_assoc .., List.append_assoc ..⟩

theorem cons (z : α) (h : Replaced x y l m) : Replaced x y (z :: l) (z :: m) := h.append_left [z]

theorem map (h : Replaced x y l m) (f : α → β) : Replaced (f x) (f y) (l.map f) (m.map f) := by
  obtain ⟨before, after, rfl, rfl⟩ := h
  exact ⟨before.map f, after.map f, List.map_append, List.map_append⟩

theorem map_eq (h : Replaced x y l m) {f : α → β} (hf : f x = f y) : l.map f = m.map f := by
  obtain ⟨before, after, rfl, rfl⟩ := h
  rw [List.map_append, List.map_append, List.map_cons, List.map_cons, hf]

theorem any_eq (h : Replaced x y l m) {p : α → Bool} (hp : p x = p y) : l.any p = m.any p := by
  obtain ⟨before, after, rfl, rfl⟩ := h
  rw [List.any_append, List.any_append, List.any_cons, List.any_cons, hp]

theorem filterMap_eq (h : Replaced x y l m) {f : α → Option β} (hf : f x = f y) :
    l.filterMap f = m.filterMap f := by
  obtain ⟨before, after, rfl, rfl⟩ := h
  rw [List.filterMap_append, List.filterMap_append, List.filterMap_cons, List.filterMap_cons, hf]

theorem filter_map_eq (h : Replaced x y l m) {p : α → Bool} {f : α → β} (hp : p x = p y)
    (hf : f x = f y) : (l.filter p).map f = (m.filter p).map f := by
  obtain ⟨before, after, rfl, rfl⟩ := h
  rw [List.filter_append, List.filter_append, List.filter_cons, List.filter_cons, hp]
  split <;> simp [hf]

theorem ne_nil (h : Replaced x y l m) : l ≠ [] ∧ m ≠ [] := by
  obtain ⟨before, after, rfl, rfl⟩ := h
  simp

end Replaced

namespace Text

theorem joined_cons (sep s : String) {l : List String} (h : l ≠ []) :
    joined sep (s :: l) = s ++ sep ++ joined sep l := by
  cases l with
  | nil => exact absurd rfl h
  | cons t l => rfl

theorem mem_joined {c : Char} {sep : String} {l : List String}
    (h : c ∈ (joined sep l).toList) : c ∈ sep.toList ∨ ∃ s ∈ l, c ∈ s.toList := by
  induction l with
  | nil => simp [joined] at h
  | cons s l ih =>
    by_cases hl : l = []
    · subst hl
      exact .inr ⟨s, List.mem_cons_self, h⟩
    · rw [joined_cons sep s hl, String.toList_append, String.toList_append, List.mem_append,
        List.mem_append] at h
      rcases h with (h | h) | h
      · exact .inr ⟨s, List.mem_cons_self, h⟩
      · exact .inl h
      · obtain hsep | ⟨t, ht, hc⟩ := ih h
        · exact .inl hsep
        · exact .inr ⟨t, List.mem_cons_of_mem s ht, hc⟩

theorem joined_append (sep : String) {l m : List String} (hl : l ≠ []) (hm : m ≠ []) :
    joined sep (l ++ m) = joined sep l ++ sep ++ joined sep m := by
  induction l with
  | nil => exact absurd rfl hl
  | cons s l ih =>
    cases l with
    | nil => exact joined_cons sep s hm
    | cons t l =>
      have hne : t :: l ++ m ≠ [] := by simp
      rw [List.cons_append, joined_cons sep s hne, ih (List.cons_ne_nil t l),
        joined_cons sep s (List.cons_ne_nil t l)]
      simp only [String.append_assoc]

theorem joined_flatten (sep : String) (before after : List String) {l : List String} (h : l ≠ []) :
    joined sep (before ++ l ++ after) =
      joined sep (before ++ joined sep l :: after) := by
  induction before with
  | nil =>
    cases after with
    | nil => simp [joined]
    | cons s after =>
      have hne := List.cons_ne_nil s after
      rw [List.nil_append, joined_append sep h hne, List.nil_append, joined_cons sep _ hne]
  | cons s before ih =>
    have hl : before ++ l ++ after ≠ [] := by simp [h]
    have hjoined : before ++ joined sep l :: after ≠ [] := by simp
    rw [List.cons_append, List.cons_append, List.cons_append, joined_cons sep s hl, ih,
      joined_cons sep s hjoined]

theorem exists_joined (sep : String) (before after : List String) :
    ∃ head tail, ∀ s, joined sep (before ++ s :: after) = head ++ s ++ tail := by
  induction before with
  | nil =>
    cases after with
    | nil => exact ⟨"", "", fun s => by simp [joined]⟩
    | cons next after =>
      exact ⟨"", sep ++ joined sep (next :: after), fun s => by
        simp [joined, String.append_assoc]⟩
  | cons first before ih =>
    obtain ⟨head, tail, hjoined⟩ := ih
    refine ⟨first ++ sep ++ head, tail, fun s => ?_⟩
    rw [List.cons_append, joined_cons sep first (by simp), hjoined]
    simp only [String.append_assoc]

end Text

/-- Whether two texts have `x` and `y` in the same place, and are otherwise the same. -/
def Around (x y s t : String) : Prop :=
  ∃ before after, s = before ++ x ++ after ∧ t = before ++ y ++ after

namespace Around

variable {x y s t u v : String}

theorem refl : Around x y x y := ⟨"", "", by simp, by simp⟩

theorem left (before : String) (h : Around x y s t) : Around x y (before ++ s) (before ++ t) := by
  obtain ⟨head, tail, rfl, rfl⟩ := h
  exact ⟨before ++ head, tail, by simp only [String.append_assoc],
    by simp only [String.append_assoc]⟩

theorem right (h : Around x y s t) (after : String) : Around x y (s ++ after) (t ++ after) := by
  obtain ⟨head, tail, rfl, rfl⟩ := h
  exact ⟨head, tail ++ after, by simp only [String.append_assoc],
    by simp only [String.append_assoc]⟩

theorem trans (h : Around x y s t) (houter : Around s t u v) : Around x y u v := by
  obtain ⟨head, tail, rfl, rfl⟩ := houter
  exact (h.left head).right tail

theorem joined {l m : List String} (sep : String) (h : Replaced x y l m) :
    Around x y (Text.joined sep l) (Text.joined sep m) := by
  obtain ⟨before, after, rfl, rfl⟩ := h
  obtain ⟨head, tail, hjoined⟩ := Text.exists_joined sep before after
  exact ⟨head, tail, hjoined x, hjoined y⟩

theorem joined_append {l m : List String} (sep : String) (hl : l ≠ []) (hm : m ≠ [])
    (before after : List String) : Around (Text.joined sep l) (Text.joined sep m)
      (Text.joined sep (before ++ l ++ after)) (Text.joined sep (before ++ m ++ after)) := by
  rw [Text.joined_flatten sep before after hl, Text.joined_flatten sep before after hm]
  exact .joined sep ⟨before, after, rfl, rfl⟩

theorem eq_iff (h : Around x y s t) : s = t ↔ x = y := by
  obtain ⟨head, tail, rfl, rfl⟩ := h
  rw [String.append_left_inj, String.append_right_inj]

end Around

namespace Text

section Option

variable {α : Type} {sep : String} {before after : List String} {f : α → String}

theorem length_joined (sep : String) (l : List String) :
    (joined sep l).length = (l.map String.length).sum + sep.length * (l.length - 1) := by
  induction l with
  | nil => simp [joined]
  | cons s l ih =>
    cases l with
    | nil => simp [joined]
    | cons t l =>
      rw [joined, String.length_append, String.length_append, ih]
      · simp only [List.map_cons, List.sum_cons, List.length_cons, Nat.add_sub_cancel]
        ring
      · simp

theorem joined_ne (hsep : sep ≠ "") (h : before ++ after ≠ []) (s : String) :
    joined sep (before ++ after) ≠ joined sep (before ++ s :: after) := by
  intro heq
  have hlength := congrArg String.length heq
  have hpos : 0 < sep.length := by
    rw [Nat.pos_iff_ne_zero, ne_eq, String.length_eq_zero_iff]
    exact hsep
  have hlist : 0 < before.length + after.length := by
    rw [← List.length_append]
    exact List.length_pos_iff.2 h
  rw [length_joined, length_joined] at hlength
  simp only [List.map_append, List.map_cons, List.sum_append, List.sum_cons, List.length_append,
    List.length_cons] at hlength
  have hmore : before.length + (after.length + 1) - 1 =
      before.length + after.length - 1 + 1 := by omega
  rw [hmore, Nat.mul_succ] at hlength
  omega

theorem joined_option (hf : Function.Injective f) (hsep : sep ≠ "") (h : before ++ after ≠ [])
    (x y : Option α) :
    joined sep (before ++ (x.map f).toList ++ after) =
      joined sep (before ++ (y.map f).toList ++ after) ↔ x = y := by
  cases x with
  | none =>
    cases y with
    | none => simp
    | some b => simpa using joined_ne hsep h (f b)
  | some a =>
    cases y with
    | none => simpa using (joined_ne hsep h (f a)).symm
    | some b =>
      have hplace : Replaced (f a) (f b) (before ++ f a :: after) (before ++ f b :: after) :=
        ⟨before, after, rfl, rfl⟩
      simpa [hf.eq_iff] using (Around.joined sep hplace).eq_iff

end Option

end Text

end CurlScribe
