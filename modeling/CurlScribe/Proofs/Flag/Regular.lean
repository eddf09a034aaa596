import CurlScribe.Flag.Curl
import CurlScribe.Proofs.Flag.Lookup

namespace CurlScribe

/-- Long names are there and cannot be cut at an equals sign, no letter is a dash, and only a choice
has switches, which then are all of its spellings. -/
structure Flag.Regular (f : Flag) : Prop where
  named : f.long ≠ []
  words : ∀ w ∈ f.long, w ≠ "" ∧ '=' ∉ w.toList
  letters : "-" ∉ f.short
  choice : f.switches ≠ [] → f.kind = .choice
  switches : ∀ p ∈ f.switches, p.1 ∈ f.spellings ∧ f.switches.lookup p.1 = some p.2
  switched : f.switches ≠ [] → ∀ s ∈ f.spellings, (f.switches.lookup s).isSome = true

instance (f : Flag) : Decidable f.Regular :=
  decidable_of_iff
    (f.long ≠ [] ∧ (∀ w ∈ f.long, w ≠ "" ∧ '=' ∉ w.toList) ∧ "-" ∉ f.short ∧
      (f.switches ≠ [] → f.kind = .choice) ∧
      (∀ p ∈ f.switches, p.1 ∈ f.spellings ∧ f.switches.lookup p.1 = some p.2) ∧
      (f.switches ≠ [] → ∀ s ∈ f.spellings, (f.switches.lookup s).isSome = true))
    ⟨fun ⟨a, b, c, d, e, g⟩ => ⟨a, b, c, d, e, g⟩, fun ⟨a, b, c, d, e, g⟩ => ⟨a, b, c, d, e, g⟩⟩

namespace FlagTable

/-- No long name reads as the negation of another, and the flag for standard input takes nothing. -/
structure Regular (t : FlagTable) : Prop where
  flags : ∀ f ∈ t.flags, f.Regular
  negations : ∀ f ∈ t.flags, ∀ w ∈ f.long, (Text.afterStart? "no-" w).bind t.long? = none
  stdin : ∀ f ∈ t.flags, f.name = "stdin" → f.kind = .toggle

variable {t u : FlagTable}

theorem Regular.of_subset (h : t.flags ⊆ u.flags) (hu : u.Regular) : t.Regular where
  flags f hf := hu.flags f (h hf)
  negations f hf w hw := by
    have hn := hu.negations f (h hf) w hw
    rw [Option.bind_eq_none_iff] at hn ⊢
    intro rest hr
    have := hn rest hr
    by_contra hg
    obtain ⟨g, hg⟩ := Option.ne_none_iff_exists'.1 hg
    obtain ⟨hg, hw⟩ := long?_eq_some.1 hg
    rw [long?_eq_some.2 ⟨h hg, hw⟩] at this
    cases this
  stdin f hf := hu.stdin f (h hf)

theorem regular_program : program.Regular where
  flags := by decide +kernel
  negations := by decide +kernel
  stdin := by decide +kernel

theorem regular_curl : curl.Regular :=
  regular_program.of_subset (List.subset_append_left ..)

theorem curl_subset (ht : t = curl ∨ t = program) : curl.flags ⊆ t.flags := by
  rcases ht with rfl | rfl
  · exact List.Subset.refl _
  · exact List.subset_append_left ..

theorem regular_of_eq (ht : t = curl ∨ t = program) : t.Regular := by
  rcases ht with rfl | rfl
  · exact regular_curl
  · exact regular_program

end FlagTable

end CurlScribe
