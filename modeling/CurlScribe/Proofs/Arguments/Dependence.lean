import CurlScribe.Arguments.Basic

namespace CurlScribe.Arguments

/-- Whether the flags of these names occur in the same way, one after the other. -/
def SameOn (names : List String) (a b : Arguments) : Prop :=
  a.occurrences.filter (names.contains ·.name) = b.occurrences.filter (names.contains ·.name)

variable {a b : Arguments} {names others : List String} {name : String}

theorem has_eq_true : a.has name = true ↔ ∃ o, o ∈ a.named name := by
  simp [has, order, named]

theorem has_of_mem_texts {text : String} (h : text ∈ a.texts name) : a.has name = true := by
  obtain ⟨o, ho, -⟩ := List.mem_filterMap.1 h
  exact has_eq_true.2 ⟨o, ho⟩

theorem text?_of_has (h : a.has name = false) : a.text? name = none := by
  have hnamed : a.named name = [] := by
    apply List.eq_nil_iff_forall_not_mem.2
    intro o ho
    rw [has_eq_true.2 ⟨o, ho⟩] at h
    cases h
  rw [text?, last?, hnamed]
  rfl

theorem filter_contains_filter {p : String → Bool} (h : ∀ n ∈ names, p n = true)
    (l : List Occurrence) :
    (l.filter (p ·.name)).filter (names.contains ·.name) =
      l.filter (names.contains ·.name) := by
  rw [List.filter_filter]
  apply List.filter_congr
  intro o _
  cases ho : names.contains o.name with
  | false => rfl
  | true => simp [h _ (List.contains_iff_mem.1 ho)]

namespace SameOn

theorem mono {more : List String} (h : SameOn more a b) (hsub : names ⊆ more) :
    SameOn names a b := by
  have hmore : ∀ n ∈ names, more.contains n = true := fun n hn =>
    List.contains_iff_mem.2 (hsub hn)
  rw [SameOn, ← filter_contains_filter hmore a.occurrences, h, filter_contains_filter hmore]

theorem without (a : Arguments) (hothers : ∀ n ∈ names, n ∉ others) :
    SameOn names (a.without others) a := by
  have hkept : ∀ n ∈ names, (!others.contains n) = true := by simpa using hothers
  exact filter_contains_filter hkept a.occurrences

theorem of_without (h : (a.without others).occurrences = (b.without others).occurrences)
    (hothers : ∀ n ∈ names, n ∉ others) : SameOn names a b := by
  have ha := SameOn.without a hothers
  have hb := SameOn.without b hothers
  unfold SameOn at ha hb ⊢
  rw [← ha, h, hb]

variable (h : SameOn names a b)

include h

theorem textsOf : a.textsOf names = b.textsOf names := by
  rw [Arguments.textsOf, h, Arguments.textsOf]

theorem lastOf? : a.lastOf? names = b.lastOf? names := by
  have hfilter (c : Arguments) : c.order.filter names.contains =
      (c.occurrences.filter (names.contains ·.name)).map (·.name) := List.filter_map
  rw [Arguments.lastOf?, hfilter, h, ← hfilter, Arguments.lastOf?]

theorem named (hn : name ∈ names) : a.named name = b.named name := by
  have hsingle : ∀ n ∈ [name], names.contains n = true := by simpa using hn
  have hfilter (c : Arguments) : c.named name = c.occurrences.filter ([name].contains ·.name) := by
    apply List.filter_congr
    simp
  rw [hfilter, hfilter, ← filter_contains_filter hsingle a.occurrences, h,
    filter_contains_filter hsingle]

theorem texts (hn : name ∈ names) : a.texts name = b.texts name := by
  rw [Arguments.texts, h.named hn, Arguments.texts]

theorem last? (hn : name ∈ names) : a.last? name = b.last? name := by
  rw [Arguments.last?, h.named hn, Arguments.last?]

theorem text? (hn : name ∈ names) : a.text? name = b.text? name := by
  rw [Arguments.text?, h.last? hn, Arguments.text?]

theorem isOn (hn : name ∈ names) : a.isOn name = b.isOn name := by
  rw [Arguments.isOn, h.last? hn, Arguments.isOn]

theorem has (hn : name ∈ names) : a.has name = b.has name := by
  rw [Bool.eq_iff_iff, has_eq_true, h.named hn, has_eq_true]

end SameOn

section Firsts

variable {α : Type} [DecidableEq α] {p : α → Bool} {x : α} {xs : List α}

theorem mem_firsts : x ∈ firsts xs ↔ x ∈ xs := by
  induction xs with
  | nil => simp [firsts]
  | cons y xs ih => by_cases hxy : x = y <;> simp [firsts, ih, hxy]

theorem nodup_firsts (xs : List α) : (firsts xs).Nodup := by
  induction xs with
  | nil => exact List.nodup_nil
  | cons y xs ih =>
    refine List.nodup_cons.2 ⟨?_, ih.filter _⟩
    simp

theorem firsts_filter (p : α → Bool) (xs : List α) :
    firsts (xs.filter p) = (firsts xs).filter p := by
  induction xs with
  | nil => rfl
  | cons y xs ih =>
    by_cases hy : p y = true
    · rw [List.filter_cons_of_pos hy, firsts, firsts, List.filter_cons_of_pos hy, ih,
        List.filter_filter, List.filter_filter]
      simp only [Bool.and_comm]
    · -- An element that goes had no others of its kind that stay.
      rw [List.filter_cons_of_neg hy, firsts, List.filter_cons_of_neg hy, ih, List.filter_filter]
      apply List.filter_congr
      intro z _
      cases hz : p z with
      | false => rfl
      | true =>
        have hne : z ≠ y := by
          rintro rfl
          exact hy hz
        simp [hne]

theorem firsts_append_singleton (xs : List α) (x : α) :
    firsts (xs ++ [x]) = if x ∈ xs then firsts xs else firsts xs ++ [x] := by
  induction xs with
  | nil => rfl
  | cons y xs ih =>
    rw [List.cons_append, firsts, ih]
    by_cases hy : x = y
    · subst hy
      by_cases hx : x ∈ xs <;> simp [hx, firsts]
    · by_cases hx : x ∈ xs <;> simp [hx, hy, firsts]

end Firsts

theorem names_without (a : Arguments) (others : List String) :
    (a.without others).names = a.names.filter (!others.contains ·) := by
  have horder : (a.without others).order = a.order.filter (!others.contains ·) := by
    rw [order, order, without, List.filter_map]
    rfl
  rw [names, horder, firsts_filter, names]

end CurlScribe.Arguments
