import CurlScribe.Proofs.Flag.Apart
import Mathlib.Data.String.Basic

namespace CurlScribe.FlagTable

structure Begins (t : FlagTable) (word long : String) (f : Flag) : Prop where
  flag : f ∈ t.flags
  name : long ∈ f.long
  start : Text.startsWith word long = true

/-- Names that do not mean the same: they are of two flags, or of one whose spellings select
choices. -/
inductive Ambiguous (t : FlagTable) (word : String) : Prop
  | flags {long other f g} : t.Begins word long f → t.Begins word other g → f ≠ g → Ambiguous t word
  | switches {long other f} : t.Begins word long f → t.Begins word other f → long ≠ other →
      f.switches ≠ [] → Ambiguous t word

variable {t : FlagTable} {word long : String} {f : Flag} {rest : List (String × Flag)}

theorem mem_completions_iff : (long, f) ∈ t.completions word ↔ t.Begins word long f := by
  rw [mem_completions]
  exact ⟨fun ⟨flag, name, start⟩ => ⟨flag, name, start⟩, fun h => ⟨h.flag, h.name, h.start⟩⟩

def candidates (t : FlagTable) (word : String) : List String := (t.completions word).map (·.1)

theorem mem_candidates : long ∈ t.candidates word ↔ ∃ f, t.Begins word long f := by
  simp [candidates, mem_completions_iff]

theorem nodup_candidates (t : FlagTable) (word : String) : (t.candidates word).Nodup := by
  have hnames : (t.flags.flatMap fun f => f.long.map (·, f)).map (·.1) = t.flags.flatMap (·.long) := by
    simp [List.map_flatMap, Function.comp_def]
  have hperm := (List.mergeSort_perm ((t.flags.flatMap fun f => f.long.map (·, f)).filter
    (Text.startsWith word ·.1)) (·.1 ≤ ·.1)).map (·.1)
  have hsub : (((t.flags.flatMap fun f => f.long.map (·, f)).filter
      (Text.startsWith word ·.1)).map (·.1)).Sublist (t.flags.flatMap (·.long)) :=
    hnames ▸ List.filter_sublist.map _
  exact hperm.nodup_iff.2 (hsub.nodup t.apart.longs)

theorem candidates_sorted (t : FlagTable) (word : String) :
    (t.candidates word).Pairwise (· < ·) := by
  let le (p q : String × Flag) : Bool := p.1 ≤ q.1
  have htrans (p q r : String × Flag) (hpq : le p q = true) (hqr : le q r = true) : le p r = true :=
    decide_eq_true (le_trans (of_decide_eq_true hpq) (of_decide_eq_true hqr))
  have htotal (p q : String × Flag) : (le p q || le q p) = true := by
    simpa [le] using le_total p.1 q.1
  have hle : (t.completions word).Pairwise fun p q => p.1 ≤ q.1 :=
    (List.pairwise_mergeSort htrans htotal _).imp of_decide_eq_true
  exact (List.pairwise_map.2 hle).imp₂ (fun _ _ => lt_of_le_of_ne) (t.nodup_candidates word)

section Completions

theorem ambiguous_iff (h : t.completions word = (long, f) :: rest) :
    t.Ambiguous word ↔ rest ≠ [] ∧ ((∃ p ∈ rest, p.2.name ≠ f.name) ∨ f.switches ≠ []) := by
  have hfirst : t.Begins word long f := mem_completions_iff.1 (h ▸ List.mem_cons_self)
  have hrest {p : String × Flag} (hp : p ∈ rest) : t.Begins word p.1 p.2 :=
    mem_completions_iff.1 (h ▸ List.mem_cons_of_mem _ hp)
  have hmem {name : String} {k : Flag} (hk : t.Begins word name k) :
      (name, k) = (long, f) ∨ (name, k) ∈ rest :=
    List.mem_cons.1 (h ▸ mem_completions_iff.2 hk)
  have hcase {name : String} {k : Flag} (hk : t.Begins word name k) (hne : k ≠ f) :
      ∃ p ∈ rest, p.2.name ≠ f.name := by
    have hin := (hmem hk).resolve_left fun heq => hne (congrArg Prod.snd heq)
    exact ⟨_, hin, fun hname => hne (eq_of_name hk.flag hfirst.flag hname)⟩
  have hnil (hother : ∃ p ∈ rest, p.2.name ≠ f.name) : rest ≠ [] :=
    hother.elim fun _ hp => List.ne_nil_of_mem hp.1
  constructor
  · intro hambiguous
    cases hambiguous with
    | @flags a b j k hj hk hne =>
      have hother : ∃ p ∈ rest, p.2.name ≠ f.name := by
        by_cases hjf : j = f
        · exact hcase hk fun hkf => hne (hjf.trans hkf.symm)
        · exact hcase hj hjf
      exact ⟨hnil hother, .inl hother⟩
    | @switches a b k ha hb hne hswitches =>
      by_cases hkf : k = f
      · subst hkf
        refine ⟨?_, .inr hswitches⟩
        rintro rfl
        have hlong {name : String} (hname : t.Begins word name k) : name = long := by
          simpa using hmem hname
        exact hne ((hlong ha).trans (hlong hb).symm)
      · have hother := hcase ha hkf
        exact ⟨hnil hother, .inl hother⟩
  · rintro ⟨hne, ⟨p, hp, hname⟩ | hswitches⟩
    · exact .flags hfirst (hrest hp) fun heq => hname (congrArg Flag.name heq.symm)
    · obtain ⟨p, hp⟩ := List.exists_mem_of_ne_nil rest hne
      have hlong : long ≠ p.1 := by
        have hnodup := t.nodup_candidates word
        rw [candidates, h, List.map_cons, List.nodup_cons] at hnodup
        exact fun heq => hnodup.1 (List.mem_map.2 ⟨p, hp, heq.symm⟩)
      by_cases hpf : p.2 = f
      · exact .switches hfirst (hpf ▸ hrest hp) hlong hswitches
      · exact .flags hfirst (hrest hp) (Ne.symm hpf)

theorem complete_eq (hword : word ≠ "") [Decidable (t.Ambiguous word)] :
    t.complete word =
      if t.Ambiguous word then .ambiguous (t.candidates word)
      else
        match t.completions word with
        | [] => .none
        | (long, f) :: _ => .unique long f := by
  unfold complete
  rw [if_neg hword]
  cases h : t.completions word with
  | nil =>
    have hnone : ¬ t.Ambiguous word := by
      have hbegins {long : String} {f : Flag} : ¬ t.Begins word long f := by
        rw [← mem_completions_iff, h]
        exact List.not_mem_nil
      rintro (⟨hlong, -, -⟩ | ⟨hlong, -, -, -⟩) <;> exact hbegins hlong
    rw [if_neg hnone]
  | cons p rest =>
    obtain ⟨long, f⟩ := p
    have hiff := ambiguous_iff h
    cases rest with
    | nil => rw [if_neg (by simp [hiff])]
    | cons q rest =>
      have hany : ((q :: rest).any (·.2.name ≠ f.name) || decide (f.switches ≠ [])) = true ↔
          t.Ambiguous word := by
        rw [hiff, Bool.or_eq_true, List.any_eq_true]
        simp
      by_cases hambiguous : t.Ambiguous word
      · rw [if_pos hambiguous, candidates, h]
        simp only [if_pos (hany.2 hambiguous), List.map_cons]
      · rw [if_neg hambiguous]
        simp only [if_neg (mt hany.1 hambiguous)]

end Completions

end CurlScribe.FlagTable
