import CurlScribe.Flag.Curl
import CurlScribe.Proofs.Flag.Lookup

namespace CurlScribe.FlagTable

section Append

variable {t u : FlagTable} {more : List Flag} (h : u.flags = t.flags ++ more)
include h

theorem long?_append (word : String) :
    u.long? word = (t.long? word).or (more.find? (·.long.contains word)) := by
  rw [long?, h, List.find?_append]
  rfl

theorem short?_append {letter : String} (hmore : ∀ f ∈ more, letter ∉ f.short) :
    u.short? letter = t.short? letter := by
  have hnone : more.find? (·.short.contains letter) = none :=
    List.find?_eq_none.2 fun f hf => by simpa using hmore f hf
  rw [short?, h, List.find?_append, hnone, Option.or_none]
  rfl

theorem completions_append {word : String}
    (hmore : ∀ f ∈ more, ∀ w ∈ f.long, Text.startsWith word w = false) :
    u.completions word = t.completions word := by
  have hnone : (more.flatMap fun f => f.long.map (·, f)).filter (Text.startsWith word ·.1) = [] := by
    simp only [List.filter_eq_nil_iff, List.mem_flatMap, List.mem_map]
    rintro _ ⟨f, hf, w, hw, rfl⟩
    simp [hmore f hf w hw]
  rw [completions, h, List.flatMap_append, List.filter_append, hnone, List.append_nil, completions]

theorem complete_append {word : String}
    (hmore : ∀ f ∈ more, ∀ w ∈ f.long, Text.startsWith word w = false) :
    u.complete word = t.complete word := by
  rw [complete, completions_append h hmore, complete]

end Append

variable {t : FlagTable} {f g : Flag} {word long : String}

theorem completions_of_pairwise {names : List (String × Flag)}
    (h : (t.flags.flatMap fun f => f.long.map (·, f)).filter (Text.startsWith word ·.1) = names)
    (hsorted : names.Pairwise (·.1 ≤ ·.1)) : t.completions word = names := by
  rw [completions, h, List.mergeSort_of_pairwise]
  simpa using hsorted

theorem nodup_flags (t : FlagTable) : t.flags.Nodup := by
  have hclaims := (List.nodup_flatMap.1 (conflicts_eq_nil.1 t.noConflict).2).2
  refine hclaims.imp fun {f g} hdisjoint heq => ?_
  exact hdisjoint (mem_claims_name.2 rfl) (mem_claims_name.2 (congrArg Flag.name heq.symm))

def startingWith (t : FlagTable) (word : String) : List Flag :=
  t.flags.filter (·.long.any (Text.startsWith word))

theorem mem_startingWith :
    f ∈ t.startingWith word ↔ ∃ long, (long, f) ∈ t.completions word := by
  simp [startingWith, mem_completions]

theorem startingWith_of_complete (h : t.complete word = .unique long f) :
    t.startingWith word = [f] := by
  obtain ⟨-, hf, hlong, hstarts⟩ := mem_of_complete h
  have hmem : f ∈ t.startingWith word :=
    mem_startingWith.2 ⟨long, mem_completions.2 ⟨hf, hlong, hstarts⟩⟩
  have hname : ∀ p ∈ t.completions word, p.2.name = f.name := by
    intro p hp
    unfold complete at h
    split at h
    · cases h
    split at h
    · cases h
    · rename_i hc
      cases h
      rw [hc, List.mem_singleton] at hp
      rw [hp]
    · rename_i hc
      split at h
      · cases h
      · rename_i hany
        cases h
        rw [hc] at hp
        simp only [Bool.or_eq_true, not_or, List.any_eq_true, not_exists, not_and] at hany
        rcases List.mem_cons.1 hp with rfl | hp
        · rfl
        · simpa using hany.1 p hp
  have hall : ∀ g ∈ t.startingWith word, g = f := by
    intro g hg
    obtain ⟨other, hother⟩ := mem_startingWith.1 hg
    exact eq_of_name (mem_completions.1 hother).1 hf (hname _ hother)
  have hnodup : (t.startingWith word).Nodup := t.nodup_flags.filter _
  exact List.perm_singleton.1 ((List.perm_ext_iff_of_nodup hnodup (List.nodup_singleton f)).2
    fun g => ⟨fun hg => List.mem_singleton.2 (hall g hg), fun hg => List.mem_singleton.1 hg ▸ hmem⟩)

end CurlScribe.FlagTable
