import CurlScribe.Proofs.Arguments.Record
import CurlScribe.Proofs.Request.WellFormed
import CurlScribe.Proofs.Target.Grouped

namespace CurlScribe

namespace Arguments

open Request

variable {t : FlagTable} {a : Arguments} {names : List String} {flag : String}
  {pieces others : List (String × String)}

/-- The texts given to some flags, each with its flag: the flags stand in the order they were given,
and the texts of each flag in the order they were given to it. -/
structure Gathers (a : Arguments) (names : List String) (pieces : List (String × String)) :
    Prop where
  order : pieces.map (·.1) = a.order.filter names.contains
  texts : ∀ name ∈ names, Fields.values name pieces = a.texts name

theorem Gathers.values_eq (h : a.Gathers names pieces) (h' : a.Gathers names others)
    (name : String) : Fields.values name pieces = Fields.values name others := by
  by_cases hname : name ∈ names
  · rw [h.texts name hname, h'.texts name hname]
  · have hnone (more : List (String × String)) (hmore : a.Gathers names more) :
        Fields.values name more = [] := by
      rw [Fields.values_eq_nil, hmore.order, List.mem_filter, List.contains_iff_mem]
      exact fun hm => hname hm.2
    rw [hnone _ h, hnone _ h']

theorem gathers_iff (hfits : Fits t a)
    (hlists : ∀ name ∈ names, ∃ f ∈ t.flags, f.name = name ∧ f.kind = .list) :
    a.Gathers names pieces ↔ pieces = a.textsOf names := by
  have hself : a.Gathers names (a.textsOf names) := by
    refine ⟨map_fst_textsOf fun o ho hin => ?_, fun name hname => values_textsOf hname⟩
    obtain ⟨f, hf, hn, hk⟩ := hlists _ hin
    exact hfits.isSome_of_list hf hk ho hn.symm
  constructor
  · intro h
    exact Fields.eq_of_values_eq (h.order.trans hself.order.symm) (h.values_eq hself)
  · rintro rfl
    exact hself

theorem mem_textsOf {piece : String × String} (h : piece ∈ a.textsOf names) :
    piece.1 ∈ names ∧ piece.2 ∈ a.texts piece.1 := by
  have hname : piece.1 ∈ names := by
    obtain ⟨o, ho, hpiece⟩ := List.mem_filterMap.1 h
    obtain ⟨text, -, rfl⟩ := Option.map_eq_some_iff.1 hpiece
    exact List.contains_iff_mem.1 (List.mem_filter.1 ho).2
  refine ⟨hname, values_textsOf hname ▸ ?_⟩
  exact List.mem_map.2 ⟨piece, List.mem_filter.2 ⟨h, decide_eq_true rfl⟩, rfl⟩

def Gives (a : Arguments) (names : List String) : Prop := ∃ name ∈ names, a.has name = true

theorem exists_lastOf? (h : a.Gives names) :
    ∃ flag ∈ names, a.lastOf? names = some flag ∧ a.has flag = true := by
  obtain ⟨name, hname, hhas⟩ := h
  have hmem : name ∈ a.order.filter names.contains :=
    List.mem_filter.2 ⟨List.contains_iff_mem.1 hhas, List.contains_iff_mem.2 hname⟩
  have hlast := List.getLast?_eq_some_getLast (List.ne_nil_of_mem hmem)
  obtain ⟨hflag, hin⟩ := List.mem_filter.1 (List.mem_of_getLast? hlast)
  exact ⟨_, List.contains_iff_mem.1 hin, hlast, List.contains_iff_mem.2 hflag⟩

theorem payload_of_data (hdata : a.Gives dataFlags) (hforms : ¬ a.Gives formFlags) :
    a.payload = .data (a.textsOf dataFlags) := by
  obtain ⟨name, hname, hhas⟩ := hdata
  obtain ⟨flag, hflag, hlast, hgiven⟩ :=
    exists_lastOf? ⟨name, List.mem_append_left formFlags hname, hhas⟩
  have hout : flag ∉ formFlags := fun hin => hforms ⟨flag, hin, hgiven⟩
  simp [payload, hlast, hout]

theorem payload_of_forms (hforms : a.Gives formFlags) (hdata : ¬ a.Gives dataFlags) :
    a.payload = .forms (a.textsOf formFlags) := by
  obtain ⟨name, hname, hhas⟩ := hforms
  obtain ⟨flag, hflag, hlast, hgiven⟩ :=
    exists_lastOf? ⟨name, List.mem_append_right dataFlags hname, hhas⟩
  have hin : flag ∈ formFlags :=
    (List.mem_append.1 hflag).resolve_left fun hin => hdata ⟨flag, hin, hgiven⟩
  simp [payload, hlast, hin]

theorem lists_of_payload (ht : t = .curl ∨ t = .program) :
    ∀ name ∈ dataFlags ++ formFlags, ∃ f ∈ t.flags, f.name = name ∧ f.kind = .list := by
  have hcurl : ∀ name ∈ dataFlags ++ formFlags,
      ∃ f ∈ FlagTable.curl.flags, f.name = name ∧ f.kind = .list := by decide +kernel
  intro name hname
  obtain ⟨f, hf, h⟩ := hcurl name hname
  exact ⟨f, FlagTable.curl_subset ht hf, h⟩

end Arguments

end CurlScribe
