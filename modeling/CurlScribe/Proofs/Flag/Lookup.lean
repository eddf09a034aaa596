import CurlScribe.Flag.Table
import Mathlib.Data.List.Nodup
import Mathlib.Data.List.Pairwise

namespace CurlScribe.FlagTable

variable {t : FlagTable} {f g : Flag}

@[simp] theorem mem_claims_name {name : String} : .name name ∈ f.claims ↔ f.name = name := by
  simp [Flag.claims, eq_comm]

@[simp] theorem mem_claims_long {word : String} : .long word ∈ f.claims ↔ word ∈ f.long := by
  simp [Flag.claims]

@[simp] theorem mem_claims_short {letter : String} :
    .short letter ∈ f.claims ↔ letter ∈ f.short := by
  simp [Flag.claims]

theorem eq_of_claim (hf : f ∈ t.flags) (hg : g ∈ t.flags) {c : Flag.Claim} (hc : c ∈ f.claims)
    (hc' : c ∈ g.claims) : f = g := by
  by_contra hne
  have apart := (List.nodup_flatMap.1 (conflicts_eq_nil.1 t.noConflict).2).2
  have symm : Std.Symm (Function.onFun List.Disjoint Flag.claims) := ⟨fun _ _ h _ ha hb => h hb ha⟩
  exact apart.forall hf hg hne hc hc'

theorem eq_of_name (hf : f ∈ t.flags) (hg : g ∈ t.flags) (h : f.name = g.name) : f = g :=
  eq_of_claim hf hg (mem_claims_name.2 h) (mem_claims_name.2 rfl)

theorem find?_owner {p : Flag → Bool} {c : Flag.Claim} (hp : ∀ f, p f = true ↔ c ∈ f.claims) :
    t.flags.find? p = some f ↔ f ∈ t.flags ∧ c ∈ f.claims := by
  constructor
  · intro h
    exact ⟨List.mem_of_find?_eq_some h, (hp f).1 (List.find?_some h)⟩
  · rintro ⟨hf, hc⟩
    cases h : t.flags.find? p with
    | none => exact absurd ((hp f).2 hc) (List.find?_eq_none.1 h f hf)
    | some g =>
      have hg := (hp g).1 (List.find?_some h)
      rw [eq_of_claim (List.mem_of_find?_eq_some h) hf hg hc]

theorem find?_eq_some {name : String} : t.find? name = some f ↔ f ∈ t.flags ∧ f.name = name := by
  rw [← mem_claims_name]
  exact find?_owner (by simp)

theorem long?_eq_some {word : String} : t.long? word = some f ↔ f ∈ t.flags ∧ word ∈ f.long := by
  rw [← mem_claims_long]
  exact find?_owner (by simp)

theorem short?_eq_some {letter : String} :
    t.short? letter = some f ↔ f ∈ t.flags ∧ letter ∈ f.short := by
  rw [← mem_claims_short]
  exact find?_owner (by simp)

theorem exists_letter {letter : String} (hf : f ∈ t.flags) (hl : letter ∈ f.short) :
    ∃ c, letter = .singleton c := by
  have hc : .short letter ∈ t.flags.flatMap Flag.claims :=
    List.mem_flatMap.2 ⟨f, hf, mem_claims_short.2 hl⟩
  have hlen : letter.length = 1 := by
    simpa [shortFault?] using (conflicts_eq_nil.1 t.noConflict).1 _ hc
  obtain ⟨c, hc⟩ := List.length_eq_one_iff.1 ((String.length_toList (s := letter)).trans hlen)
  exact ⟨c, String.toList_inj.1 (by simp [hc])⟩

theorem mem_completions {word long : String} :
    (long, f) ∈ t.completions word ↔
      f ∈ t.flags ∧ long ∈ f.long ∧ Text.startsWith word long = true := by
  simp only [completions, List.mem_mergeSort, List.mem_filter, List.mem_flatMap, List.mem_map,
    Prod.mk.injEq]
  constructor
  · rintro ⟨⟨g, hg, word, hw, rfl, rfl⟩, hs⟩
    exact ⟨hg, hw, hs⟩
  · rintro ⟨hf, hw, hs⟩
    exact ⟨⟨f, hf, long, hw, rfl, rfl⟩, hs⟩

theorem mem_of_complete {word long : String} (h : t.complete word = .unique long f) :
    word ≠ "" ∧ f ∈ t.flags ∧ long ∈ f.long ∧ Text.startsWith word long = true := by
  rw [← mem_completions]
  unfold complete at h
  split at h
  · cases h
  · rename_i hw
    split at h
    · cases h
    · rename_i hc
      cases h
      exact ⟨hw, by simp [hc]⟩
    · rename_i hc
      split at h
      · cases h
      · cases h
        exact ⟨hw, by simp [hc]⟩

end CurlScribe.FlagTable
