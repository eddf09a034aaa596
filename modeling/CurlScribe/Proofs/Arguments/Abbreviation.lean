import CurlScribe.Proofs.Arguments.Origin
import CurlScribe.Proofs.Flag.Completion
import CurlScribe.Proofs.Flag.Extension
import CurlScribe.Proofs.Text.Cut

namespace CurlScribe

namespace Arguments

/-- Whether a word is neither a long name nor the negation of one, but at most the beginning of some. -/
structure IsCut (t : FlagTable) (word : String) : Prop where
  nonempty : word ≠ ""
  name : ∀ f ∈ t.flags, word ∉ f.long
  negation : ∀ f ∈ t.flags, f.kind = .toggle → f.negatable = true → ∀ long ∈ f.long,
    word ≠ "no-" ++ long

instance (t : FlagTable) (word : String) : Decidable (IsCut t word) :=
  decidable_of_iff (word ≠ "" ∧ (∀ f ∈ t.flags, word ∉ f.long) ∧
      ∀ f ∈ t.flags, f.kind = .toggle → f.negatable = true → ∀ long ∈ f.long, word ≠ "no-" ++ long)
    ⟨fun ⟨nonempty, name, negation⟩ => ⟨nonempty, name, negation⟩,
      fun h => ⟨h.nonempty, h.name, h.negation⟩⟩

def recorded (x : Noted Event Fault Unit) : Option (List Occurrence) :=
  x.result.toOption.map fun _ => x.notes.filterMap Event.occurrence?

/-- Spellings by which a flag takes the same values, and is set to the same by each of them or to
nothing. -/
structure Alike (f : Flag) (spelling other : String) : Prop where
  takesValue : f.takesValue spelling = f.takesValue other
  recorded : ∀ given, recorded (store f spelling given) = recorded (store f other given)

variable {t : FlagTable} {f : Flag} {word spelling other : String} {given : Setting}

section Store

theorem recorded_store : recorded (store f spelling given) =
    (setting f spelling given).toOption.map fun value => [⟨f.name, f.kind = .list, value⟩] := by
  have hremarks (remarks : List String) :
      (remarks.map fun remark => Event.notice (.deprecated remark)).filterMap Event.occurrence? = [] :=
    List.filterMap_eq_nil_iff.2 fun _ he => by
      obtain ⟨remark, -, rfl⟩ := List.mem_map.1 he
      rfl
  rw [store, recorded]
  cases setting f spelling given with
  | error e => rfl
  | ok value =>
    simp only [Noted.note_eq, Noted.ofExcept_eq, Noted.bind_ok, List.filterMap_append, hremarks]
    rfl

theorem alike_of_no_switches (h : f.switches = []) (spelling other : String) :
    Alike f spelling other where
  takesValue := by simp [Flag.takesValue, h]
  recorded given := by
    rw [recorded_store, recorded_store]
    congr 1
    unfold setting
    split
    · simp only [h, List.lookup_nil]
      split <;> rfl
    · rfl

end Store

section Resolve

theorem resolve_of_complete (hlong : t.long? word = none)
    (hnegation : ∀ rest, word = "no-" ++ rest → ∀ f, t.long? rest = some f →
      ¬ (f.kind = .toggle ∧ f.negatable = true)) :
    resolve t word =
      match t.complete word with
      | .none => .ok none
      | .unique long f => .ok (some (⟨f, Flag.longSpelling long⟩, false))
      | .ambiguous candidates => .error (.ambiguous word candidates) := by
  have hnone : ((Text.afterStart? "no-" word).bind fun rest => (t.long? rest).bind fun f =>
      if f.kind = .toggle ∧ f.negatable = true then
        some (Spelled.mk f (Flag.longSpelling rest), true) else none) = none := by
    rw [Option.bind_eq_none_iff]
    intro rest hrest
    rw [Option.bind_eq_none_iff]
    intro f hf
    exact if_neg (hnegation rest (Text.afterStart?_eq_some.1 hrest) f hf)
  cases hcomplete : t.complete word <;> simp [resolve, hlong, hnone, hcomplete]

theorem IsCut.resolve (h : IsCut t word) [Decidable (t.Ambiguous word)] :
    resolve t word =
      if t.Ambiguous word then .error (.ambiguous word (t.candidates word))
      else
        match t.completions word with
        | [] => .ok none
        | (long, f) :: _ => .ok (some (⟨f, Flag.longSpelling long⟩, false)) := by
  have hlong : t.long? word = none := (t.finds.long word).none_iff.2 h.name
  rw [resolve_of_complete hlong, FlagTable.complete_eq h.nonempty]
  · by_cases hambiguous : t.Ambiguous word
    · simp only [if_pos hambiguous]
    · simp only [if_neg hambiguous]
      cases t.completions word <;> rfl
  · rintro rest hrest f hf ⟨hk, hn⟩
    obtain ⟨hf, hmem⟩ := FlagTable.long?_eq_some.1 hf
    exact h.negation f hf hk hn rest hmem hrest

theorem resolve_begun {long : String} (h : t.Begins word long f) :
    resolve t long = .ok (some (⟨f, Flag.longSpelling long⟩, false)) :=
  resolve_exact (FlagTable.long?_eq_some.2 ⟨h.flag, h.name⟩)

theorem alike_of_begins {long other : String} {g : Flag} (h : ¬ t.Ambiguous word)
    (hlong : t.Begins word long f) (hother : t.Begins word other g) :
    g = f ∧ Alike f (Flag.longSpelling long) (Flag.longSpelling other) := by
  obtain rfl : f = g := by_contra fun hne => h (.flags hlong hother hne)
  refine ⟨rfl, ?_⟩
  by_cases heq : long = other
  · subst heq
    exact ⟨rfl, fun _ => rfl⟩
  · have hswitches : f.switches = [] :=
      by_contra fun hswitches => h (.switches hlong hother heq hswitches)
    exact alike_of_no_switches hswitches _ _

/-- A name that is cut short is unknown if no name begins so, ambiguous if names do that do not mean
the same, and otherwise one of those that begin so, any of which would do. -/
theorem resolve_cut (h : IsCut t word) :
    (resolve t word = .ok none ↔ ∀ long f, ¬ t.Begins word long f) ∧
    ((∃ fault, resolve t word = .error fault) ↔ t.Ambiguous word) ∧
    (∀ fault, resolve t word = .error fault → ∃ candidates, fault = .ambiguous word candidates ∧
      candidates.Pairwise (· < ·) ∧ ∀ long, long ∈ candidates ↔ ∃ f, t.Begins word long f) ∧
    ((∃ long f, t.Begins word long f) → ¬ t.Ambiguous word → ∃ long f, t.Begins word long f ∧
      resolve t word = .ok (some (⟨f, Flag.longSpelling long⟩, false)) ∧
      ∀ other g, t.Begins word other g → g = f ∧
        resolve t other = .ok (some (⟨f, Flag.longSpelling other⟩, false)) ∧
        Alike f (Flag.longSpelling long) (Flag.longSpelling other)) := by
  classical
  rw [h.resolve]
  by_cases hambiguous : t.Ambiguous word
  · have hbegins : ∃ long f, t.Begins word long f := by
      rcases hambiguous with ⟨hlong, -, -⟩ | ⟨hlong, -, -, -⟩ <;> exact ⟨_, _, hlong⟩
    rw [if_pos hambiguous]
    refine ⟨?_, by simp [hambiguous], ?_, fun _ hnot => absurd hambiguous hnot⟩
    · simpa using hbegins
    · rintro _ ⟨⟩
      exact ⟨t.candidates word, rfl, t.candidates_sorted word, fun _ => FlagTable.mem_candidates⟩
  · rw [if_neg hambiguous]
    cases hcompletions : t.completions word with
    | nil =>
      have hnone : ∀ long f, ¬ t.Begins word long f := by
        intro long f
        rw [← FlagTable.mem_completions_iff, hcompletions]
        exact List.not_mem_nil
      refine ⟨by simp [hnone], by simp [hambiguous], nofun, fun ⟨long, f, hlong⟩ => ?_⟩
      exact absurd hlong (hnone long f)
    | cons p rest =>
      obtain ⟨long, f⟩ := p
      have hlong : t.Begins word long f :=
        FlagTable.mem_completions_iff.1 (hcompletions ▸ List.mem_cons_self)
      refine ⟨?_, by simp [hambiguous], nofun, fun _ _ => ⟨long, f, hlong, rfl, ?_⟩⟩
      · simpa using ⟨long, f, hlong⟩
      · intro other g hother
        obtain ⟨rfl, halike⟩ := alike_of_begins hambiguous hlong hother
        exact ⟨rfl, resolve_begun hother, halike⟩

theorem resolve_cut_curl :
    (∃ long f, FlagTable.curl.Begins "kr" long f ∧
      resolve .curl "kr" = .ok (some (⟨f, Flag.longSpelling long⟩, false)) ∧
      Alike f (Flag.longSpelling long) (Flag.longSpelling "krb4")) ∧
    (∃ candidates, resolve .curl "tlsv" = .error (.ambiguous "tlsv" candidates) ∧
      "tlsv1.2" ∈ candidates ∧ "tls-max" ∉ candidates) ∧
    resolve .curl "ftps" = .ok none := by
  refine ⟨?_, ?_, ?_⟩
  · let krb : Flag := (Flag.text "krb" []).withDeprecated "krb4" "--krb4 is deprecated, use --krb"
    have hcompletions : FlagTable.curl.completions "kr" = [("krb", krb), ("krb4", krb)] :=
      FlagTable.completions_of_pairwise (by decide +kernel) (by decide)
    have hbegins : FlagTable.curl.Begins "kr" "krb4" krb := by
      rw [← FlagTable.mem_completions_iff, hcompletions]
      decide
    have hclear : ¬ FlagTable.curl.Ambiguous "kr" := by
      rw [FlagTable.ambiguous_iff hcompletions]
      decide
    obtain ⟨-, -, -, hunique⟩ := resolve_cut (show IsCut .curl "kr" by decide +kernel)
    obtain ⟨long, f, hlong, hresolve, hothers⟩ := hunique ⟨_, _, hbegins⟩ hclear
    exact ⟨long, f, hlong, hresolve, (hothers _ _ hbegins).2.2⟩
  · obtain ⟨tls, hmem, hname, hother, hswitches⟩ : ∃ f ∈ FlagTable.curl.flags, "tlsv1" ∈ f.long ∧
        "tlsv1.2" ∈ f.long ∧ f.switches ≠ [] := by decide +kernel
    have hfirst : FlagTable.curl.Begins "tlsv" "tlsv1" tls := ⟨hmem, hname, by decide⟩
    have hsecond : FlagTable.curl.Begins "tlsv" "tlsv1.2" tls := ⟨hmem, hother, by decide⟩
    obtain ⟨-, hfails, hcandidates, -⟩ :=
      resolve_cut (show IsCut .curl "tlsv" by decide +kernel)
    obtain ⟨fault, hfault⟩ := hfails.2 (.switches hfirst hsecond (by decide) hswitches)
    obtain ⟨candidates, rfl, -, hiff⟩ := hcandidates fault hfault
    refine ⟨candidates, hfault, (hiff _).2 ⟨tls, hsecond⟩, fun hmax => ?_⟩
    obtain ⟨f, hbegins⟩ := (hiff _).1 hmax
    exact absurd hbegins.start (by decide)
  · obtain ⟨hnone, -⟩ := resolve_cut (show IsCut .curl "ftps" by decide +kernel)
    refine hnone.2 fun long f hbegins => ?_
    have hno : ∀ f ∈ FlagTable.curl.flags, ∀ long ∈ f.long,
        Text.startsWith "ftps" long = false := by decide +kernel
    exact absurd hbegins.start (by simp [hno f hbegins.flag long hbegins.name])

end Resolve

end Arguments

end CurlScribe
