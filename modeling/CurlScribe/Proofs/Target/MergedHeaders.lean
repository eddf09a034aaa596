import CurlScribe.Conversion
import CurlScribe.Proofs.Target.Merge

namespace CurlScribe

variable {headers : List (String × String)} {header : String × String} {seen : List String}
  {t : Target}

def isRepeated (headers : List (String × String)) (item : (String × String) × Nat) : Bool :=
  (headers.take item.2).any fun earlier => Text.lower earlier.1 = Text.lower item.1.1

def firstHeaders (headers : List (String × String)) : List (String × String) :=
  (headers.zipIdx.filter fun item => !isRepeated headers item).map (·.1)

def laterHeaders (headers : List (String × String)) : List (String × String) :=
  (headers.zipIdx.filter (isRepeated headers)).map (·.1)

theorem names_zipIdx (before headers : List (String × String))
    (hseen : ∀ key, key ∈ seen ↔ key ∈ before.map (Text.lower ·.1)) :
    firstNames seen headers =
      ((headers.zipIdx before.length).filter fun item =>
        !isRepeated (before ++ headers) item).map (·.1.1) ∧
    repeatedNames seen headers =
      ((headers.zipIdx before.length).filter (isRepeated (before ++ headers))).map (·.1.1) := by
  induction headers generalizing before seen with
  | nil => exact ⟨rfl, rfl⟩
  | cons header rest ih =>
    have happ : before ++ header :: rest = before ++ [header] ++ rest := by simp
    have hlength : (before ++ [header]).length = before.length + 1 := by simp
    have hrepeated : isRepeated (before ++ header :: rest) (header, before.length) =
        seen.contains (Text.lower header.1) := by
      rw [isRepeated, List.take_left, Bool.eq_iff_iff, List.contains_iff_mem, hseen]
      simp
    rw [List.zipIdx_cons, List.filter_cons, List.filter_cons, hrepeated, firstNames, repeatedNames]
    cases hmem : seen.contains (Text.lower header.1) with
    | true =>
      have hkept : ∀ key, key ∈ seen ↔ key ∈ (before ++ [header]).map (Text.lower ·.1) := by
        have hmem : Text.lower header.1 ∈ seen := List.contains_iff_mem.1 hmem
        grind
      obtain ⟨hfirst, hlater⟩ := ih (before ++ [header]) hkept
      rw [happ, ← hlength]
      simp [hfirst, hlater]
    | false =>
      have hadded : ∀ key, key ∈ Text.lower header.1 :: seen ↔
          key ∈ (before ++ [header]).map (Text.lower ·.1) := by
        grind
      obtain ⟨hfirst, hlater⟩ := ih (before ++ [header]) hadded
      rw [happ, ← hlength]
      simp [hfirst, hlater]

theorem firstNames_eq (headers : List (String × String)) :
    firstNames [] headers = (firstHeaders headers).map (·.1) := by
  rw [firstHeaders, List.map_map]
  exact (names_zipIdx [] headers fun _ => Iff.rfl).1

theorem repeatedNames_eq (headers : List (String × String)) :
    repeatedNames [] headers = (laterHeaders headers).map (·.1) := by
  rw [laterHeaders, List.map_map]
  exact (names_zipIdx [] headers fun _ => Iff.rfl).2

section Distinct

theorem addHeader_of_new (h : Text.lower header.1 ∉ headers.map (Text.lower ·.1)) :
    addHeader headers header = headers ++ [header] := by
  induction headers with
  | nil => rfl
  | cons first rest ih =>
    rw [List.map_cons, List.mem_cons, not_or] at h
    rw [addHeader, if_neg (Ne.symm h.1), ih h.2, List.cons_append]

theorem mergeHeaders_of_nodup (h : (headers.map (Text.lower ·.1)).Nodup) :
    mergeHeaders headers = headers := by
  induction headers using List.reverseRecOn with
  | nil => rfl
  | append_singleton headers header ih =>
    rw [List.map_append, List.nodup_append] at h
    obtain ⟨hheaders, -, hnew⟩ := h
    rw [mergeHeaders_append_singleton, ih hheaders]
    exact addHeader_of_new fun hmem => hnew _ hmem _ (List.mem_singleton_self _) rfl

theorem repeatedNames_of_nodup (h : (headers.map (Text.lower ·.1)).Nodup)
    (hseen : ∀ key ∈ headers.map (Text.lower ·.1), key ∉ seen) :
    repeatedNames seen headers = [] := by
  induction headers generalizing seen with
  | nil => rfl
  | cons header rest ih =>
    rw [List.map_cons, List.nodup_cons] at h
    rw [List.map_cons, List.forall_mem_cons] at hseen
    have hfirst : seen.contains (Text.lower header.1) = false := by simpa using hseen.1
    rw [repeatedNames, hfirst]
    refine ih h.2 fun key hkey hmem => ?_
    rcases List.mem_cons.1 hmem with rfl | hmem
    · exact h.1 hkey
    · exact hseen.2 key hkey hmem

end Distinct

namespace Target

def mapsHeaders : List Target := [.ansible, .javascript, .node, .nodeAxios, .python]

theorem prefix_notes_write (ht : t ∈ mapsHeaders) (r : Request) :
    t.featureNotices r ++ r.mergeNotices t <+: (t.write r).notes := by
  simp only [mapsHeaders, List.mem_cons, List.not_mem_nil, or_false] at ht
  rcases ht with rfl | rfl | rfl | rfl | rfl
  · exact List.prefix_append _ _
  · exact (List.prefix_append _ _).trans (List.prefix_append _ _)
  · exact (List.prefix_append _ _).trans (List.prefix_append _ _)
  · exact List.prefix_append _ _
  · have hnotices : Target.python.featureNotices r ++ r.mergeNotices .python <+:
        RequestsScript.notices r :=
      (List.prefix_append _ _).trans (List.prefix_append _ _)
    exact hnotices.trans (List.prefix_append _ _)

end Target

/-- Merging keeps the first header of each name where and as it is, with all values of that name,
and tells of each of the others once. What it gives is merged already. -/
theorem mergedHeaders_whole (t : Target) (r : Request) :
    (r.mergedHeaders.map (Text.lower ·.1)).Nodup ∧
    r.mergedHeaders = ((firstHeaders r.headers).map fun header =>
      (header.1, Text.joined ", " (headerValues r.headers header.1))) ∧
    r.mergeNotices t = (laterHeaders r.headers).map (fun header => .headersJoined t header.1) ∧
    (t ∈ Target.mapsHeaders →
      t.featureNotices r ++ r.mergeNotices t <+: (t.write r).notes) ∧
    { r with headers := r.mergedHeaders }.mergedHeaders = r.mergedHeaders ∧
    { r with headers := r.mergedHeaders }.mergeNotices t = [] := by
  have hnodup : (r.mergedHeaders.map (Text.lower ·.1)).Nodup := nodup_mergeHeaders r.headers
  refine ⟨hnodup, ?_, ?_, fun ht => Target.prefix_notes_write ht r,
    mergeHeaders_of_nodup hnodup, ?_⟩
  · rw [Request.mergedHeaders, mergeHeaders_eq, firstNames_eq, List.map_map]
    rfl
  · rw [Request.mergeNotices, repeatedNames_eq, List.map_map]
    rfl
  · have hnone : repeatedNames [] r.mergedHeaders = [] :=
      repeatedNames_of_nodup hnodup fun _ _ => List.not_mem_nil
    exact congrArg (List.map _) hnone

theorem mergedHeaders_whole_interleaved : ∃ r,
    r.headers = [("Accept", "a"), ("B", "1"), ("ACCEPT", "b"), ("b", "2"), ("accept", "c")] ∧
    r.mergedHeaders = [("Accept", "a, b, c"), ("B", "1, 2")] ∧ .python ∈ Target.mapsHeaders ∧
    [.headersJoined .python "ACCEPT", .headersJoined .python "b",
      .headersJoined .python "accept"] <+: (Target.python.write r).notes := by
  let r : Request := { method := .get, url := "http://h/", headers :=
    [("Accept", "a"), ("B", "1"), ("ACCEPT", "b"), ("b", "2"), ("accept", "c")] }
  have ht : .python ∈ Target.mapsHeaders := by decide
  obtain ⟨-, hmerged, hnotices, hnotes, -⟩ := mergedHeaders_whole .python r
  have hnotes := hnotes ht
  have hfeatures : Target.python.featureNotices r = [] := by decide
  rw [hfeatures, hnotices, List.nil_append] at hnotes
  exact ⟨r, rfl, hmerged.trans (by decide), ht, hnotes⟩

end CurlScribe
