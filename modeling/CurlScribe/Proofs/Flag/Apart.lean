import CurlScribe.Flag.Curl
import CurlScribe.Proofs.Flag.Lookup
import Mathlib.Data.List.Perm.Basic

namespace CurlScribe.FlagTable

/-- Flags of which no two share a name or a spelling. None has a spelling twice either, and each
short name is a letter. -/
structure Apart (flags : List Flag) : Prop where
  names : (flags.map (·.name)).Nodup
  longs : (flags.flatMap (·.long)).Nodup
  letters : ∀ f ∈ flags, ∀ letter ∈ f.short, letter.length = 1
  shorts : (flags.flatMap (·.short)).Nodup

structure Owned (flags : List Flag) (wanted : Flag → Prop) (found : Option Flag) : Prop where
  some_iff : ∀ f, found = some f ↔ f ∈ flags ∧ wanted f
  none_iff : found = none ↔ ∀ f ∈ flags, ¬ wanted f

/-- A table of these flags, in this order, that finds each of them by all that it claims. -/
structure Finds (t : FlagTable) (flags : List Flag) : Prop where
  order : t.flags = flags
  name : ∀ name, Owned flags (·.name = name) (t.find? name)
  long : ∀ word, Owned flags (word ∈ ·.long) (t.long? word)
  short : ∀ letter, Owned flags (letter ∈ ·.short) (t.short? letter)

structure Keeps (t u : FlagTable) : Prop where
  name : ∀ name f, t.find? name = some f → u.find? name = some f
  long : ∀ word f, t.long? word = some f → u.long? word = some f
  short : ∀ letter f, t.short? letter = some f → u.short? letter = some f

variable {t u : FlagTable} {flags more : List Flag} {wanted : Flag → Prop} {found other : Option Flag}

section Claims

theorem claims_perm (flags : List Flag) :
    (flags.flatMap Flag.claims).Perm ((flags.map (·.name)).map .name ++
      ((flags.flatMap (·.long)).map .long ++ (flags.flatMap (·.short)).map .short)) := by
  have hnames := flags.map_append_flatMap_perm (fun f => Flag.Claim.name f.name)
    (fun f => f.long.map .long ++ f.short.map .short)
  have hspellings := flags.flatMap_append_perm (fun f => f.long.map Flag.Claim.long)
    (fun f => f.short.map .short)
  rw [List.map_map, List.map_flatMap, List.map_flatMap]
  exact hnames.symm.trans (hspellings.symm.append_left _)

theorem nodup_claims : (flags.flatMap Flag.claims).Nodup ↔ (flags.map (·.name)).Nodup ∧
    (flags.flatMap (·.long)).Nodup ∧ (flags.flatMap (·.short)).Nodup := by
  have hname : Function.Injective Flag.Claim.name := fun _ _ => Flag.Claim.name.inj
  have hlong : Function.Injective Flag.Claim.long := fun _ _ => Flag.Claim.long.inj
  have hshort : Function.Injective Flag.Claim.short := fun _ _ => Flag.Claim.short.inj
  rw [(claims_perm flags).nodup_iff, List.nodup_append', List.nodup_append',
    List.nodup_map_iff hname, List.nodup_map_iff hlong, List.nodup_map_iff hshort]
  have hspellings : List.Disjoint ((flags.flatMap (·.long)).map Flag.Claim.long)
      ((flags.flatMap (·.short)).map .short) := by
    simp +contextual [List.disjoint_left, eq_comm]
  have hclaims : List.Disjoint ((flags.map (·.name)).map Flag.Claim.name)
      ((flags.flatMap (·.long)).map .long ++ (flags.flatMap (·.short)).map .short) := by
    simp [List.disjoint_left]
  simp only [hspellings, hclaims, and_true]

theorem shortFault?_eq_none : (∀ c ∈ flags.flatMap Flag.claims, shortFault? c = none) ↔
    ∀ f ∈ flags, ∀ letter ∈ f.short, letter.length = 1 := by
  constructor
  · intro h f hf letter hletter
    have hnone := h (.short letter) (List.mem_flatMap.2 ⟨f, hf, mem_claims_short.2 hletter⟩)
    simpa [shortFault?] using hnone
  · intro h c hc
    obtain ⟨f, hf, hc⟩ := List.mem_flatMap.1 hc
    cases c with
    | name => rfl
    | long => rfl
    | short letter => simp [shortFault?, h f hf letter (mem_claims_short.1 hc)]

theorem conflicts_eq_nil_iff : conflicts flags = [] ↔ Apart flags := by
  rw [conflicts_eq_nil, shortFault?_eq_none, nodup_claims]
  exact ⟨fun ⟨letters, names, longs, shorts⟩ => ⟨names, longs, letters, shorts⟩,
    fun h => ⟨h.letters, h.names, h.longs, h.shorts⟩⟩

theorem apart (t : FlagTable) : Apart t.flags := conflicts_eq_nil_iff.1 t.noConflict

instance (flags : List Flag) : Decidable (Apart flags) :=
  decidable_of_iff (conflicts flags = []) conflicts_eq_nil_iff

end Claims

section Building

theorem ofFlags_eq_ok : ofFlags flags = .ok t ↔ t.flags = flags := by
  unfold ofFlags
  split
  · rename_i hconflicts
    rw [Except.ok.injEq]
    constructor
    · rintro rfl
      rfl
    · rintro rfl
      rfl
  · rename_i c rest hconflicts
    constructor
    · rintro ⟨⟩
    · rintro rfl
      rw [t.noConflict] at hconflicts
      cases hconflicts

theorem exists_ofFlags_eq_ok : (∃ t, ofFlags flags = .ok t) ↔ Apart flags := by
  constructor
  · rintro ⟨t, ht⟩
    exact ofFlags_eq_ok.1 ht ▸ t.apart
  · intro h
    exact ⟨⟨flags, conflicts_eq_nil_iff.2 h⟩, ofFlags_eq_ok.2 rfl⟩

theorem extend_eq (t : FlagTable) (more : List Flag) :
    t.extend more = ofFlags (t.flags ++ more) := rfl

theorem owned (h : ∀ f, found = some f ↔ f ∈ flags ∧ wanted f) : Owned flags wanted found where
  some_iff := h
  none_iff := by
    rw [Option.eq_none_iff_forall_ne_some]
    exact forall_congr' fun f => by rw [ne_eq, h, not_and]

theorem Owned.keeps (h : Owned flags wanted found) (h' : Owned (flags ++ more) wanted other) {f : Flag}
    (hf : found = some f) : other = some f := by
  obtain ⟨hmem, hwanted⟩ := (h.some_iff f).1 hf
  exact (h'.some_iff f).2 ⟨List.mem_append_left more hmem, hwanted⟩

theorem finds (t : FlagTable) : t.Finds t.flags where
  order := rfl
  name _ := owned fun _ => find?_eq_some
  long _ := owned fun _ => long?_eq_some
  short _ := owned fun _ => short?_eq_some

theorem Finds.keeps (h : t.Finds flags) (h' : u.Finds (flags ++ more)) : t.Keeps u where
  name name _ := (h.name name).keeps (h'.name name)
  long word _ := (h.long word).keeps (h'.long word)
  short letter _ := (h.short letter).keeps (h'.short letter)

/-- Flags make a table just if they are apart. It finds all of them, and is extended by what would
have made a table together with them, which finds them as before. -/
theorem ofFlags_finds (flags : List Flag) :
    ((∃ t, ofFlags flags = .ok t) ↔ Apart flags) ∧
    ∀ t, ofFlags flags = .ok t → t.Finds flags ∧
      ∀ more, t.extend more = ofFlags (flags ++ more) ∧
        ((∃ u, t.extend more = .ok u) ↔ Apart (flags ++ more)) ∧
        ∀ u, t.extend more = .ok u → u.Finds (flags ++ more) ∧ t.Keeps u := by
  refine ⟨exists_ofFlags_eq_ok, fun t ht => ?_⟩
  obtain rfl := ofFlags_eq_ok.1 ht
  refine ⟨t.finds, fun more => ⟨t.extend_eq more, ?_, fun u hu => ?_⟩⟩
  · rw [t.extend_eq more]
    exact exists_ofFlags_eq_ok
  · rw [t.extend_eq more] at hu
    have hfinds : u.Finds (t.flags ++ more) := ofFlags_eq_ok.1 hu ▸ u.finds
    exact ⟨hfinds, t.finds.keeps hfinds⟩

theorem ofFlags_finds_header : ∃ t u,
    ofFlags [.toggle "location" ["L"], .text "request" ["X"]] = .ok t ∧
    t.extend [.list "header" ["H"]] = .ok u ∧
    u.long? "location" = some (.toggle "location" ["L"]) ∧
    u.short? "H" = some (.list "header" ["H"]) ∧ u.find? "data" = none ∧
    ¬ (∃ v, t.extend [{ name := "quote", kind := .text, long := ["quote", "quote"] }] = .ok v) ∧
    ¬ ∃ v, t.extend [.list "header" ["X"]] = .ok v := by
  obtain ⟨t, ht⟩ := (ofFlags_finds [.toggle "location" ["L"], .text "request" ["X"]]).1.2 (by decide)
  obtain ⟨hfinds, hextend⟩ := (ofFlags_finds _).2 t ht
  obtain ⟨u, hu⟩ := (hextend [.list "header" ["H"]]).2.1.2 (by decide)
  obtain ⟨hfinds', hkeeps⟩ := (hextend _).2.2 u hu
  refine ⟨t, u, ht, hu, ?_, ?_, ?_, ?_, ?_⟩
  · exact hkeeps.long "location" _ (((hfinds.long "location").some_iff _).2 (by decide))
  · exact ((hfinds'.short "H").some_iff _).2 (by decide)
  · exact (hfinds'.name "data").none_iff.2 (by decide)
  · rw [(hextend _).2.1]
    decide
  · rw [(hextend _).2.1]
    decide

end Building

end CurlScribe.FlagTable
