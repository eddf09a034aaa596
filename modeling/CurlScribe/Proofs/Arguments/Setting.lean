import CurlScribe.Proofs.Arguments.Dependence
import CurlScribe.Proofs.Arguments.Origin
import CurlScribe.Proofs.Flag.Regular

namespace CurlScribe

open Arguments

inductive Flag.Holds (f : Flag) : Setting → Prop
  | on : f.kind = .toggle → Holds f (.toggle true)
  | off : f.kind = .toggle → f.negatable = true → Holds f (.toggle false)
  | text {text} : f.kind = .text ∨ f.kind = .list → Holds f (.word text)
  | choice {text} :
      f.kind = .choice → f.switches = [] → text ∈ f.choices → Holds f (.word text)
  | switch {spelling choice} :
      f.kind = .choice → (spelling, choice) ∈ f.switches → Holds f (.word choice)

theorem Flag.takesValue_eq_true {f : Flag} {spelling : String} :
    f.takesValue spelling = true ↔ f.kind ≠ .toggle ∧ f.switches.lookup spelling = none := by
  simp [takesValue]

theorem Flag.takesValue_eq_false {f : Flag} {spelling : String} :
    f.takesValue spelling = false ↔
      f.kind = .toggle ∨ ∃ choice, f.switches.lookup spelling = some choice := by
  cases h : f.switches.lookup spelling <;> simp [takesValue, h]

namespace Arguments

variable {t : FlagTable} {f : Flag} {spelling : String} {given value : Setting}

theorem setting_of_not_choice (hk : f.kind ≠ .choice) : setting f spelling given = .ok given := by
  simp [setting, hk]

theorem setting_of_switch {choice : String} (hk : f.kind = .choice)
    (h : f.switches.lookup spelling = some choice) :
    setting f spelling given = .ok (.word choice) := by
  simp [setting, hk, h]

theorem setting_of_choice (hk : f.kind = .choice) (h : f.switches.lookup spelling = none) :
    setting f spelling given = .ok value ↔ given ∈ f.choices.map .word ∧ value = given := by
  rw [setting, if_pos hk, h]
  simp only
  split
  · rename_i hm
    rw [List.contains_iff_mem] at hm
    simp [hm, eq_comm]
  · rename_i hm
    rw [List.contains_iff_mem] at hm
    simp only [hm, false_and, reduceCtorEq]

theorem holds_of_use (hf : f.Regular) (hd : f.name = "stdin" → f.kind = .toggle)
    (hu : Use f spelling given) (hv : setting f spelling given = .ok value) : f.Holds value := by
  cases hu with
  | value hs ht =>
    obtain ⟨hk, hl⟩ := Flag.takesValue_eq_true.1 ht
    by_cases hc : f.kind = .choice
    · obtain ⟨hm, rfl⟩ := (setting_of_choice hc hl).1 hv
      obtain ⟨choice, hm, ⟨⟩⟩ := List.mem_map.1 hm
      refine .choice hc ?_ hm
      by_contra hne
      simpa [hl] using hf.switched hne _ hs
    · rw [setting_of_not_choice hc] at hv
      cases hv
      refine .text ?_
      cases hkind : f.kind <;> simp_all
  | switch hs ht =>
    rcases Flag.takesValue_eq_false.1 ht with hk | ⟨choice, hl⟩
    · rw [setting_of_not_choice (by simp [hk])] at hv
      cases hv
      exact .on hk
    · have hne : f.switches ≠ [] := by
        intro e
        simp [e] at hl
      have hk := hf.choice hne
      rw [setting_of_switch hk hl] at hv
      cases hv
      obtain ⟨_, _, hm, -⟩ := List.lookup_eq_some_iff.1 hl
      have hmem : (spelling, choice) ∈ f.switches := by simp [hm]
      exact .switch hk hmem
  | negation hs hk hn =>
    rw [setting_of_not_choice (by simp [hk])] at hv
    cases hv
    exact .off hk hn
  | dash hn =>
    have hk := hd hn
    rw [setting_of_not_choice (by simp [hk])] at hv
    cases hv
    exact .on hk

theorem Fits.holds {a : Arguments} (ht : t.Regular) (h : Fits t a) {o : Occurrence}
    (ho : o ∈ a.occurrences) :
    ∃ f ∈ t.flags, f.name = o.name ∧ o.collects = decide (f.kind = .list) ∧ f.Holds o.setting := by
  obtain ⟨f, hf, hn, hc, spelling, given, hu, hv⟩ := h.arises o ho
  exact ⟨f, hf, hn.symm, hc, holds_of_use (ht.flags f hf) (ht.stdin f hf) hu hv⟩

theorem Fits.isSome_text? {a : Arguments} (ht : t.Regular) (h : Fits t a) (hf : f ∈ t.flags)
    (hk : f.kind = .text) (hgiven : a.has f.name = true) : (a.text? f.name).isSome = true := by
  cases hlast : (a.named f.name).getLast? with
  | none =>
    have hnone : a.named f.name = [] := List.getLast?_eq_none_iff.1 hlast
    obtain ⟨o, ho⟩ := has_eq_true.1 hgiven
    simp [hnone] at ho
  | some o =>
    have hmem : o ∈ a.named f.name := List.mem_of_getLast? hlast
    obtain ⟨ho, hname⟩ := List.mem_filter.1 hmem
    obtain ⟨g, hg, hgn, -, hholds⟩ := h.holds ht ho
    obtain rfl : g = f := FlagTable.eq_of_name hg hf (hgn.trans (of_decide_eq_true hname))
    have hword : o.setting.text?.isSome = true := by
      cases hs : o.setting with
      | word text => rfl
      | toggle on =>
        rw [hs] at hholds
        cases hholds <;> simp_all
    simpa [text?, last?, hlast] using hword

theorem Fits.has_iff_text? {a : Arguments} (ht : t.Regular) (h : Fits t a) (hf : f ∈ t.flags)
    (hk : f.kind = .text) : a.has f.name = true ↔ ∃ text, a.text? f.name = some text := by
  constructor
  · intro hgiven
    exact Option.isSome_iff_exists.1 (h.isSome_text? ht hf hk hgiven)
  · rintro ⟨text, htext⟩
    by_contra hnone
    rw [text?_of_has (eq_false_of_ne_true hnone)] at htext
    cases htext

theorem Fits.has_iff_texts {a : Arguments} (h : Fits t a) (hf : f ∈ t.flags)
    (hk : f.kind = .list) : a.has f.name = true ↔ a.texts f.name ≠ [] := by
  constructor
  · intro hgiven
    obtain ⟨o, ho⟩ := has_eq_true.1 hgiven
    obtain ⟨hmem, hname⟩ := List.mem_filter.1 ho
    obtain ⟨text, htext⟩ :=
      Option.isSome_iff_exists.1 (h.isSome_of_list hf hk hmem (of_decide_eq_true hname))
    exact List.ne_nil_of_mem (List.mem_filterMap.2 ⟨o, ho, htext⟩)
  · intro hne
    obtain ⟨text, htext⟩ := List.exists_mem_of_ne_nil _ hne
    exact has_of_mem_texts htext

end Arguments

end CurlScribe
