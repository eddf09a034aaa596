import CurlScribe.Proofs.Target.Fields
import CurlScribe.Proofs.Text.Around
import CurlScribe.Target.Header
import Mathlib.Data.List.Induction
import Mathlib.Data.List.Nodup

/-!
Headers put together by their names. Each name is kept as it is first spelled, with all values that
are given under it, whatever the case of its letters.
-/

namespace CurlScribe

variable {headers : List (String × String)} {header : String × String}
  {seen names : List String} {name : String}

theorem Text.joined_append_singleton (sep s : String) {texts : List String} (h : texts ≠ []) :
    Text.joined sep (texts ++ [s]) = Text.joined sep texts ++ sep ++ s :=
  Text.joined_append sep h (List.cons_ne_nil s [])

def headerValues (headers : List (String × String)) (name : String) : List String :=
  (headers.filter fun (key, _) => Text.lower key = Text.lower name).map (·.2)

theorem mem_headerValues {value : String} :
    value ∈ headerValues headers name ↔
      ∃ key, (key, value) ∈ headers ∧ Text.lower key = Text.lower name := by
  simp [headerValues]

theorem headerValues_congr {other : String} (h : Text.lower name = Text.lower other) :
    headerValues headers name = headerValues headers other := by
  rw [headerValues, headerValues, h]

theorem headerValues_append_singleton : headerValues (headers ++ [header]) name =
    headerValues headers name ++ if Text.lower header.1 = Text.lower name then [header.2] else [] := by
  rw [headerValues, headerValues, List.filter_append, List.map_append]
  by_cases h : Text.lower header.1 = Text.lower name <;> simp [h]

def firstNames (seen : List String) : List (String × String) → List String
  | [] => []
  | (name, _) :: rest =>
    if seen.contains (Text.lower name) then firstNames seen rest
    else name :: firstNames (Text.lower name :: seen) rest

theorem mem_map_lower_firstNames {key : String} :
    key ∈ (firstNames seen headers).map Text.lower ↔
      key ∈ headers.map (Text.lower ·.1) ∧ key ∉ seen := by
  induction headers generalizing seen with
  | nil => simp [firstNames]
  | cons header rest ih =>
    rw [firstNames]
    split
    · rename_i hseen
      rw [ih, List.map_cons, List.mem_cons]
      have hseen : Text.lower header.1 ∈ seen := by simpa using hseen
      grind
    · rename_i hseen
      rw [List.map_cons, List.map_cons, List.mem_cons, List.mem_cons, ih]
      have hseen : Text.lower header.1 ∉ seen := by simpa using hseen
      grind

theorem nodup_map_lower_firstNames (seen : List String) (headers : List (String × String)) :
    ((firstNames seen headers).map Text.lower).Nodup := by
  induction headers generalizing seen with
  | nil => exact List.nodup_nil
  | cons header rest ih =>
    rw [firstNames]
    split
    · exact ih seen
    · rw [List.map_cons, List.nodup_cons, mem_map_lower_firstNames]
      exact ⟨fun h => h.2 List.mem_cons_self, ih _⟩

theorem mem_of_mem_firstNames (h : name ∈ firstNames seen headers) :
    ∃ header ∈ headers, header.1 = name := by
  induction headers generalizing seen with
  | nil => cases h
  | cons header rest ih =>
    rw [firstNames] at h
    split at h
    · obtain ⟨other, hmem, hname⟩ := ih h
      exact ⟨other, List.mem_cons_of_mem _ hmem, hname⟩
    · rcases List.mem_cons.1 h with rfl | h
      · exact ⟨header, List.mem_cons_self, rfl⟩
      · obtain ⟨other, hmem, hname⟩ := ih h
        exact ⟨other, List.mem_cons_of_mem _ hmem, hname⟩

theorem firstNames_append_singleton : firstNames seen (headers ++ [header]) =
    firstNames seen headers ++
      if Text.lower header.1 ∈ seen ∨ Text.lower header.1 ∈ headers.map (Text.lower ·.1) then []
      else [header.1] := by
  induction headers generalizing seen with
  | nil => by_cases h : Text.lower header.1 ∈ seen <;> simp [firstNames, h]
  | cons first rest ih =>
    rw [List.cons_append, firstNames, firstNames, ih, ih]
    by_cases hfirst : Text.lower first.1 ∈ seen
    · have hsame : Text.lower header.1 = Text.lower first.1 → Text.lower header.1 ∈ seen :=
        fun h => h ▸ hfirst
      simp only [List.contains_eq_mem, hfirst, decide_true, if_true, List.map_cons, List.mem_cons]
      congr 2
      grind
    · simp only [List.contains_eq_mem, hfirst, decide_false, Bool.false_eq_true, if_false,
        List.map_cons, List.mem_cons, List.cons_append]
      congr 3
      grind

theorem addHeader_of_not_mem (values : String → String)
    (h : Text.lower header.1 ∉ names.map Text.lower) :
    addHeader (names.map fun name => (name, values name)) header =
      (names.map fun name => (name, values name)) ++ [header] := by
  induction names with
  | nil => rfl
  | cons name names ih =>
    rw [List.map_cons, List.mem_cons, not_or] at h
    rw [List.map_cons, addHeader, if_neg (Ne.symm h.1), ih h.2, List.cons_append]

theorem addHeader_of_mem (values : String → String) (hnodup : (names.map Text.lower).Nodup)
    (h : Text.lower header.1 ∈ names.map Text.lower) :
    addHeader (names.map fun name => (name, values name)) header =
      names.map fun name => (name,
        if Text.lower name = Text.lower header.1 then values name ++ ", " ++ header.2
        else values name) := by
  induction names with
  | nil => simp at h
  | cons name names ih =>
    rw [List.map_cons, List.nodup_cons] at hnodup
    rw [List.map_cons, List.map_cons, addHeader]
    by_cases hname : Text.lower name = Text.lower header.1
    · rw [if_pos hname, if_pos hname]
      congr 1
      refine List.map_congr_left fun other hother => ?_
      have hne : Text.lower other ≠ Text.lower header.1 := fun heq =>
        hnodup.1 (hname ▸ heq ▸ List.mem_map_of_mem hother)
      rw [if_neg hne]
    · have hrest : Text.lower header.1 ∈ names.map Text.lower := by
        simpa [Ne.symm hname] using h
      rw [if_neg hname, if_neg hname, ih hnodup.2 hrest]

theorem mergeHeaders_append_singleton :
    mergeHeaders (headers ++ [header]) = addHeader (mergeHeaders headers) header := by
  rw [mergeHeaders, List.foldl_append]
  rfl

theorem mergeHeaders_eq (headers : List (String × String)) :
    mergeHeaders headers = (firstNames [] headers).map fun name =>
      (name, Text.joined ", " (headerValues headers name)) := by
  induction headers using List.reverseRecOn with
  | nil => rfl
  | append_singleton headers header ih =>
    have hmem : ∀ {key}, key ∈ (firstNames [] headers).map Text.lower ↔
        key ∈ headers.map (Text.lower ·.1) := by
      simp [mem_map_lower_firstNames]
    rw [mergeHeaders_append_singleton, ih, firstNames_append_singleton]
    by_cases h : Text.lower header.1 ∈ headers.map (Text.lower ·.1)
    · rw [addHeader_of_mem _ (nodup_map_lower_firstNames [] headers) (hmem.2 h)]
      simp only [List.not_mem_nil, h, or_true, if_true, List.append_nil]
      refine List.map_congr_left fun name hname => ?_
      rw [headerValues_append_singleton]
      by_cases heq : Text.lower name = Text.lower header.1
      · obtain ⟨first, hfirst, rfl⟩ := mem_of_mem_firstNames hname
        have hvalues : headerValues headers first.1 ≠ [] :=
          List.ne_nil_of_mem (mem_headerValues.2 ⟨first.1, hfirst, rfl⟩)
        rw [if_pos heq, if_pos heq.symm, Text.joined_append_singleton _ _ hvalues]
      · rw [if_neg heq, if_neg (Ne.symm heq), List.append_nil]
    · have hnone : headerValues headers header.1 = [] := by
        refine List.eq_nil_iff_forall_not_mem.2 fun value hvalue => h ?_
        obtain ⟨key, hkey, heq⟩ := mem_headerValues.1 hvalue
        exact List.mem_map.2 ⟨(key, value), hkey, heq⟩
      rw [addHeader_of_not_mem _ (mt hmem.1 h)]
      simp only [List.not_mem_nil, h, or_self, if_false, List.map_append, List.map_cons,
        List.map_nil, headerValues_append_singleton, hnone, if_true, List.nil_append]
      congr 1
      refine List.map_congr_left fun name hname => ?_
      have hne : Text.lower header.1 ≠ Text.lower name :=
        fun heq => h (hmem.1 (heq ▸ List.mem_map_of_mem hname))
      rw [if_neg hne, List.append_nil]

theorem map_lower_mergeHeaders (headers : List (String × String)) :
    (mergeHeaders headers).map (Text.lower ·.1) = (firstNames [] headers).map Text.lower := by
  rw [mergeHeaders_eq, List.map_map]
  rfl

theorem nodup_mergeHeaders (headers : List (String × String)) :
    ((mergeHeaders headers).map (Text.lower ·.1)).Nodup := by
  rw [map_lower_mergeHeaders]
  exact nodup_map_lower_firstNames [] headers

theorem mem_map_lower_mergeHeaders {key : String} :
    key ∈ (mergeHeaders headers).map (Text.lower ·.1) ↔ key ∈ headers.map (Text.lower ·.1) := by
  rw [map_lower_mergeHeaders, mem_map_lower_firstNames]
  simp

theorem exists_mem_mergeHeaders (h : header ∈ headers) :
    ∃ name, Text.lower name = Text.lower header.1 ∧
      (name, Text.joined ", " (headerValues headers header.1)) ∈ mergeHeaders headers := by
  have hkey : Text.lower header.1 ∈ (firstNames [] headers).map Text.lower :=
    mem_map_lower_firstNames.2 ⟨List.mem_map_of_mem h, List.not_mem_nil⟩
  obtain ⟨name, hname, heq⟩ := List.mem_map.1 hkey
  refine ⟨name, heq, ?_⟩
  rw [mergeHeaders_eq, ← headerValues_congr heq]
  exact List.mem_map_of_mem hname

end CurlScribe
