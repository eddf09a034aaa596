import CurlScribe.Proofs.Url.Form

namespace CurlScribe.Url

open Text

variable {c : Char} {s text : String} {piece : List Char} {field : String × String}
  {fields : List (String × String)}

section Texts

theorem isUnreserved_of_mem_formEncode (h : c ∈ (formEncode s).toList) (hplus : c ≠ '+')
    (hpercent : c ≠ '%') : isUnreserved c = true := by
  rw [formEncode, String.toList_ofList] at h
  obtain ⟨d, -, hd⟩ := List.mem_flatMap.1 h
  unfold formChar at hd
  split at hd
  · exact absurd (List.mem_singleton.1 hd) hplus
  · have hmem : c ∈ percentEncode [d] := by simpa [percentEncode] using hd
    exact isUnreserved_of_mem_percentEncode hmem hpercent

theorem not_mem_formEncode (hc : isUnreserved c = false) (hplus : c ≠ '+') (hpercent : c ≠ '%')
    (s : String) : c ∉ (formEncode s).toList := fun h => by
  simp [isUnreserved_of_mem_formEncode h hplus hpercent] at hc

theorem bytesFrom_formChar (c : Char) (rest : List Char) :
    bytesFrom 0 ((formChar c).map plusToSpace ++ rest) =
      String.utf8EncodeChar c ++ bytesFrom 0 rest := by
  unfold formChar
  split
  · rename_i hspace
    subst hspace
    exact bytesFrom_of_ne (by decide) rest
  · have hplus : '+' ∉ percentChar c := by
      have hmem : '+' ∉ percentEncode [c] := not_mem_percentEncode (by decide) (by decide) _
      simpa [percentEncode] using hmem
    rw [map_plusToSpace_of_not_mem hplus]
    exact bytesFrom_percentChar c rest

theorem formDecode_formEncode (s : String) : formDecode (formEncode s).toList = s := by
  have hread : percentDecode (s.toList.flatMap (fun c => (formChar c).map plusToSpace) ++ []) =
      s.toList ++ percentDecode [] :=
    percentDecode_flatMap_append bytesFrom_formChar s.toList []
  have hnil : percentDecode [] = [] := rfl
  rw [List.append_nil, hnil, List.append_nil] at hread
  rw [formDecode, formEncode, String.toList_ofList, List.map_flatMap, hread, String.ofList_toList]

theorem formEncode_ne (h : s ≠ "") : (formEncode s).toList ≠ [] := by
  intro hnil
  have hread := formDecode_formEncode s
  rw [hnil] at hread
  exact h hread.symm

theorem formDecode_ne (h : piece ≠ []) : formDecode piece ≠ "" := by
  obtain ⟨c, rest, rfl⟩ := List.exists_cons_of_ne_nil h
  have hbytes : bytesFrom 0 ((c :: rest).map plusToSpace) ≠ [] := by
    rw [List.map_cons]
    rcases bytesFrom_cons (plusToSpace c) (rest.map plusToSpace) with
      ⟨-, byte, after, -, hescape⟩ | ⟨-, hplain⟩
    · simp [hescape]
    · obtain ⟨first, tails, hfirst, -⟩ := exists_bytes (plusToSpace c)
      simp [hplain, hfirst]
  obtain ⟨byte, bytes, hcons⟩ := List.exists_cons_of_ne_nil hbytes
  rw [formDecode, percentDecode, hcons]
  simp [decodeUtf8, decodeFrom, String.ofList_eq_empty_iff]

end Texts

section Fields

structure IsForm (fields : List (String × String)) : Prop where
  ne : fields ≠ []
  named : ∀ field ∈ fields, field.1 ≠ ""

def formPiece (field : String × String) : String :=
  formEncode field.1 ++ "=" ++ formEncode field.2

theorem encodeFields_eq (fields : List (String × String)) :
    encodeFields fields = joined "&" (fields.map formPiece) := rfl

theorem not_mem_formPiece (field : String × String) : '&' ∉ (formPiece field).toList := by
  have hpart (s : String) : '&' ∉ (formEncode s).toList :=
    not_mem_formEncode (by decide) (by decide) (by decide) s
  simp [formPiece, hpart]

theorem field?_formPiece (h : field.1 ≠ "") : field? (formPiece field).toList = some field := by
  have heq : '=' ∉ (formEncode field.1).toList :=
    not_mem_formEncode (by decide) (by decide) (by decide) _
  have htext : (formPiece field).toList =
      (formEncode field.1).toList ++ '=' :: (formEncode field.2).toList := by
    simp [formPiece]
  rw [htext, field?_append (formEncode_ne h) heq, formDecode_formEncode, formDecode_formEncode]

theorem formFields?_encodeFields (h : IsForm fields) :
    formFields? (encodeFields fields) = some fields := by
  have hsplit : splitList '&' (encodeFields fields).toList =
      (fields.map formPiece).map String.toList := by
    rw [encodeFields_eq]
    exact splitList_joined (by simpa using h.ne)
      (List.forall_mem_map.2 fun field _ => not_mem_formPiece field)
  rw [formFields?_eq, hsplit, List.map_map]
  exact mapM_map_of_forall fun field hfield => field?_formPiece (h.named field hfield)

theorem named_of_field? (h : field? piece = some field) : field.1 ≠ "" := by
  unfold field? at h
  split at h
  · cases h
  · cases h
  · rename_i hname _
    cases h
    exact formDecode_ne hname

theorem isForm_of_formFields? (h : formFields? text = some fields) : IsForm fields := by
  rw [formFields?_eq] at h
  have hmap := map_of_mapM h
  constructor
  · rintro rfl
    exact splitList_ne_nil '&' text.toList (List.map_eq_nil_iff.1 hmap)
  · intro field hfield
    have hmem : some field ∈ (splitList '&' text.toList).map field? := by
      rw [hmap]
      exact List.mem_map_of_mem hfield
    obtain ⟨piece, -, hpiece⟩ := List.mem_map.1 hmem
    exact named_of_field? hpiece

/-- What is read as fields is the form of these exactly if it is the form of any fields. -/
theorem encodeFields_eq_iff (h : formFields? text = some fields) :
    encodeFields fields = text ↔ ∃ given, IsForm given ∧ encodeFields given = text := by
  constructor
  · intro heq
    exact ⟨fields, isForm_of_formFields? h, heq⟩
  · rintro ⟨given, hgiven, rfl⟩
    have hread := formFields?_encodeFields hgiven
    rw [h] at hread
    rw [Option.some.inj hread]

end Fields

end CurlScribe.Url
