import CurlScribe.Proofs.Text.Around
import CurlScribe.Proofs.Text.Cut
import CurlScribe.Proofs.Url.Encoded
import CurlScribe.Url.Form

namespace CurlScribe

theorem mapM_map_of_forall {α β : Type} {f : β → Option α} {g : α → β} {l : List α}
    (h : ∀ a ∈ l, f (g a) = some a) : (l.map g).mapM f = some l := by
  induction l with
  | nil => rfl
  | cons a l ih =>
    obtain ⟨ha, hl⟩ := List.forall_mem_cons.1 h
    rw [List.map_cons, List.mapM_cons, ha, ih hl]
    rfl

theorem map_of_mapM {α β : Type} {f : α → Option β} {l : List α} {m : List β}
    (h : l.mapM f = some m) : l.map f = m.map some := by
  induction l generalizing m with
  | nil =>
    obtain rfl : [] = m := Option.some.inj h
    rfl
  | cons a l ih =>
    rw [List.mapM_cons] at h
    obtain ⟨b, ha, h⟩ := Option.bind_eq_some_iff.1 h
    obtain ⟨m, hl, h⟩ := Option.bind_eq_some_iff.1 h
    obtain rfl := Option.some.inj h
    rw [List.map_cons, List.map_cons, ha, ih hl]

namespace Text

theorem cut_equals {name : String} (h : '=' ∉ name.toList) (content : String) :
    cut '=' (name ++ "=" ++ content) = (name, some content) :=
  cut_append h content

variable {sep : Char} {pieces : List String}

theorem splitList_joined (hne : pieces ≠ []) (h : ∀ piece ∈ pieces, sep ∉ piece.toList) :
    splitList sep (joined (.singleton sep) pieces).toList = pieces.map String.toList := by
  induction pieces with
  | nil => exact absurd rfl hne
  | cons piece pieces ih =>
    obtain ⟨hpiece, hpieces⟩ := List.forall_mem_cons.1 h
    by_cases hnil : pieces = []
    · subst hnil
      exact splitList_of_not_mem hpiece
    · rw [joined_cons _ _ hnil, String.toList_append, String.toList_append, String.toList_singleton,
        List.append_assoc, List.singleton_append, splitList_append hpiece, ih hnil hpieces]
      rfl

theorem split_joined (hne : pieces ≠ []) (h : ∀ piece ∈ pieces, sep ∉ piece.toList) :
    split sep (joined (.singleton sep) pieces) = pieces := by
  rw [split, splitList_joined hne h, List.map_map]
  simp [Function.comp_def]

end Text

namespace Url

open Text

variable {s name : List Char} {field : String × String} {fields : List (String × String)}

theorem percentDecode_of_not_mem (h : '%' ∉ s) : percentDecode s = s := by
  refine percentDecode_eq_self.2 ?_
  rintro ⟨before, a, b, after, rfl, -⟩
  simp at h

theorem map_plusToSpace_of_not_mem (h : '+' ∉ s) : s.map plusToSpace = s := by
  conv_rhs => rw [← List.map_id s]
  refine List.map_congr_left fun c hc => ?_
  have hne : c ≠ '+' := fun heq => h (heq ▸ hc)
  simp [plusToSpace, hne]

theorem formDecode_of_not_mem (h : '+' ∉ s) : formDecode s = .ofList (percentDecode s) := by
  rw [formDecode, map_plusToSpace_of_not_mem h]

theorem field?_append (hname : name ≠ []) (heq : '=' ∉ name) (value : List Char) :
    field? (name ++ '=' :: value) = some (formDecode name, formDecode value) := by
  rw [field?, cutList_append heq]
  cases name with
  | nil => exact absurd rfl hname
  | cons c name => rfl

/-- A field by its percent-encoding alone: a plus sign in it is one. -/
def percentField? (piece : List Char) : Option (String × String) :=
  match cutList '=' piece with
  | (_, none) => none
  | (name, some value) => some (.ofList (percentDecode name), .ofList (percentDecode value))

theorem percentField?_append (heq : '=' ∉ name) (value : List Char) :
    percentField? (name ++ '=' :: value) =
      some (.ofList (percentDecode name), .ofList (percentDecode value)) := by
  rw [percentField?, cutList_append heq]

theorem formFields?_eq (s : String) :
    formFields? s = (splitList '&' s.toList).mapM field? := by
  rw [formFields?]
  split
  · -- Nothing at all is one piece, which has no name.
    subst s
    rfl
  · rfl

section Encoded

structure IsPlainName (name : String) : Prop where
  ne : name ≠ ""
  plain : ∀ c ∈ ['=', '&', '+', '%'], c ∉ name.toList

def encodedField (field : String × String) : List Char :=
  field.1.toList ++ '=' :: percentEncode field.2.toList

variable (h : IsPlainName field.1)

include h

theorem not_mem_encodedField : '&' ∉ encodedField field := by
  have hcontent : '&' ∉ percentEncode field.2.toList :=
    not_mem_percentEncode (by decide) (by decide) _
  refine List.not_mem_append (h.plain '&' (by decide)) ?_
  exact List.not_mem_cons_of_ne_of_not_mem (by decide) hcontent

theorem percentField?_encodedField : percentField? (encodedField field) = some field := by
  have hname := percentDecode_of_not_mem (h.plain '%' (by decide))
  rw [encodedField, percentField?_append (h.plain '=' (by decide)), hname,
    percentDecode_percentEncode, String.ofList_toList, String.ofList_toList]

theorem field?_encodedField : field? (encodedField field) = some field := by
  have hname : field.1.toList ≠ [] := by simpa using h.ne
  have hcontent : '+' ∉ percentEncode field.2.toList :=
    not_mem_percentEncode (by decide) (by decide) _
  rw [encodedField, field?_append hname (h.plain '=' (by decide)),
    formDecode_of_not_mem (h.plain '+' (by decide)), formDecode_of_not_mem hcontent,
    percentDecode_of_not_mem (h.plain '%' (by decide)), percentDecode_percentEncode,
    String.ofList_toList, String.ofList_toList]

end Encoded

def encodedForm (fields : List (String × String)) : String :=
  joined "&" (fields.map fun field => .ofList (encodedField field))

section EncodedForm

variable (hne : fields ≠ []) (h : ∀ field ∈ fields, IsPlainName field.1)

include hne h

theorem splitList_encodedForm :
    splitList '&' (encodedForm fields).toList = fields.map encodedField := by
  have hpieces : ∀ piece ∈ fields.map fun field => String.ofList (encodedField field),
      '&' ∉ piece.toList := by
    refine List.forall_mem_map.2 fun field hfield => ?_
    simpa using not_mem_encodedField (h field hfield)
  have hsplit : splitList '&' (encodedForm fields).toList = _ :=
    splitList_joined (by simpa using hne) hpieces
  rw [hsplit, List.map_map]
  simp [Function.comp_def]

theorem formFields?_encodedForm : formFields? (encodedForm fields) = some fields := by
  rw [formFields?_eq, splitList_encodedForm hne h]
  exact mapM_map_of_forall fun field hfield => field?_encodedField (h field hfield)

theorem percentFields_encodedForm :
    (splitList '&' (encodedForm fields).toList).mapM percentField? = some fields := by
  rw [splitList_encodedForm hne h]
  exact mapM_map_of_forall fun field hfield => percentField?_encodedField (h field hfield)

end EncodedForm

end Url

end CurlScribe
