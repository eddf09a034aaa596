import CurlScribe.Proofs.Arguments.Dependence
import CurlScribe.Proofs.Target.Fields

namespace CurlScribe.Fields

open Arguments (firsts mem_firsts firsts_append_singleton)

variable {α β : Type} {items others : List (String × α)} {key : String} {value : α}

def grouped (items : List (String × α)) : List (String × List α) :=
  (ofItems items).map fun item => (item.1, values item.1 items)

theorem values_map (f : α → β) (key : String) (items : List (String × α)) :
    values key (items.map fun item => (item.1, f item.2)) = (values key items).map f := by
  rw [values, values, List.filter_map, List.map_map, List.map_map]
  rfl

theorem grouped_map (f : α → β) (items : List (String × α)) :
    grouped (items.map fun item => (item.1, f item.2)) =
      (grouped items).map fun group => (group.1, group.2.map f) := by
  rw [grouped, grouped, ofItems_map, List.map_map, List.map_map]
  exact List.map_congr_left fun item _ => by rw [Function.comp_apply, values_map]; rfl

theorem map_fst_foldl_put (value : List (String × β) → String × α → β) (items : List (String × α)) :
    (items.foldl (fun fields item => put item.1 (value fields item) fields) []).map (·.1) =
      firsts (items.map (·.1)) := by
  induction items using List.reverseRecOn with
  | nil => rfl
  | append_singleton items item ih =>
    rw [List.foldl_append, List.foldl_cons, List.foldl_nil, map_fst_put, ih, List.map_append,
      List.map_singleton, firsts_append_singleton]
    simp only [mem_firsts]

theorem map_fst_ofItems (items : List (String × α)) :
    (ofItems items).map (·.1) = firsts (items.map (·.1)) :=
  map_fst_foldl_put (fun _ item => item.2) items

theorem map_fst_grouped (items : List (String × α)) :
    (grouped items).map (·.1) = firsts (items.map (·.1)) := by
  rw [grouped, List.map_map]
  exact map_fst_ofItems items

theorem grouped_eq_map_firsts (items : List (String × α)) :
    grouped items = (firsts (items.map (·.1))).map fun key => (key, values key items) := by
  rw [← map_fst_ofItems, List.map_map]
  rfl

theorem mem_grouped (h : key ∈ items.map (·.1)) : (key, values key items) ∈ grouped items := by
  rw [grouped_eq_map_firsts]
  exact List.mem_map_of_mem (mem_firsts.2 h)

theorem values_of_mem_grouped {all : List α} (h : (key, all) ∈ grouped items) :
    all = values key items := by
  obtain ⟨item, -, heq⟩ := List.mem_map.1 h
  cases heq
  rfl

theorem values_eq_nil : values key items = [] ↔ key ∉ items.map (·.1) := by
  simp only [values, List.map_eq_nil_iff, List.filter_eq_nil_iff, decide_eq_true_eq, List.mem_map,
    not_exists, not_and]

theorem values_eq_of_grouped_eq (h : grouped items = grouped others) (key : String) :
    values key items = values key others := by
  by_cases hkey : key ∈ items.map (·.1)
  · exact values_of_mem_grouped (h ▸ mem_grouped hkey)
  · by_cases hother : key ∈ others.map (·.1)
    · exact (values_of_mem_grouped (h ▸ mem_grouped hother)).symm
    · rw [values_eq_nil.2 hkey, values_eq_nil.2 hother]

theorem grouped_eq_iff : grouped items = grouped others ↔
    firsts (items.map (·.1)) = firsts (others.map (·.1)) ∧
    ∀ key, values key items = values key others := by
  constructor
  · intro h
    refine ⟨?_, values_eq_of_grouped_eq h⟩
    rw [← map_fst_grouped, h, map_fst_grouped]
  · rintro ⟨hkeys, hvalues⟩
    simp only [grouped_eq_map_firsts, hkeys, hvalues]

theorem grouped_eq_nil : grouped items = [] ↔ items = [] := by
  refine ⟨fun h => ?_, fun h => h ▸ rfl⟩
  by_contra hne
  obtain ⟨item, hitem⟩ := List.exists_mem_of_ne_nil _ hne
  have hmem := mem_grouped (List.mem_map_of_mem hitem)
  rw [h] at hmem
  cases hmem

theorem eq_of_grouped_eq_singleton (h : grouped items = [(key, [value])]) :
    items = [(key, value)] := by
  have hkeys : ∀ item ∈ items, item.1 = key := by
    intro item hitem
    have hmem := mem_grouped (List.mem_map_of_mem hitem)
    rw [h] at hmem
    exact (Prod.mk.inj (List.mem_singleton.1 hmem)).1
  have hvalues : values key items = [value] := by
    have hmem : (key, [value]) ∈ grouped items := h ▸ List.mem_singleton_self _
    exact (values_of_mem_grouped hmem).symm
  have hall : items.filter (·.1 = key) = items :=
    List.filter_eq_self.2 fun item hitem => decide_eq_true (hkeys item hitem)
  rw [values, hall] at hvalues
  obtain ⟨item, rfl, hitem⟩ := List.map_eq_singleton_iff.1 hvalues
  have hkey := hkeys item (List.mem_singleton_self _)
  rw [← hkey, ← hitem]

theorem eq_of_values_eq (hkeys : items.map (·.1) = others.map (·.1))
    (h : ∀ key, values key items = values key others) : items = others := by
  induction items generalizing others with
  | nil => exact (List.map_eq_nil_iff.1 hkeys.symm).symm
  | cons item items ih =>
    cases others with
    | nil => cases hkeys
    | cons other others =>
      obtain ⟨key, value⟩ := item
      obtain ⟨key', value'⟩ := other
      simp only [List.map_cons, List.cons.injEq] at hkeys
      obtain ⟨rfl, hkeys⟩ := hkeys
      have hself := h key
      simp only [values, List.filter_cons, decide_true, if_true, List.map_cons,
        List.cons.injEq] at hself
      obtain ⟨rfl, hself⟩ := hself
      refine congrArg _ (ih hkeys fun name => ?_)
      by_cases hname : key = name
      · exact hname ▸ hself
      · simpa [values, hname] using h name

end CurlScribe.Fields
