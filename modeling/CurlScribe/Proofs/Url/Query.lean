import CurlScribe.Proofs.Url.Authority

namespace CurlScribe.Url

open Text

def beforeQuery (s : List Char) : List Char := s.takeWhile fun c => c ≠ '?' && c ≠ '#'

def queryIn (s : List Char) : List Char := (cutList '?' (cutList '#' s).1).2.getD []

def fragmentIn (s : List Char) : Option (List Char) := (cutList '#' s).2

def parameters (query : List Char) : List (List Char) := (splitList '&' query).filter (· ≠ [])

/-- What stands between a query and what is added to it. -/
def joint (given : List Char) : List Char :=
  if given = [] ∨ given.getLast? = some '?' ∨ given.getLast? = some '&' then [] else ['&']

/-- Whether the first parameter that is added to a query goes on with the last one that is there. -/
def Merges (given added : List Char) : Prop :=
  given.getLast? = some '?' ∧ added.head? ≠ some '&'

instance (given added : List Char) : Decidable (Merges given added) :=
  inferInstanceAs (Decidable (_ ∧ _))

section Parts

structure Parts (s path : List Char) (query fragment : Option (List Char)) : Prop where
  eq : s = path ++ query.elim [] ('?' :: ·) ++ fragment.elim [] ('#' :: ·)
  mark : '?' ∉ path
  hash : '#' ∉ path
  query : ∀ given ∈ query, '#' ∉ given

variable {s path : List Char} {query fragment : Option (List Char)}

theorem exists_parts (s : List Char) : ∃ path query fragment, Parts s path query fragment := by
  have hbase := append_elim_cutList '?' (cutList '#' s).1
  have hhash := not_mem_fst_cutList '#' s
  rw [← hbase, List.mem_append, not_or] at hhash
  refine ⟨_, (cutList '?' (cutList '#' s).1).2, (cutList '#' s).2, ?_,
    not_mem_fst_cutList '?' (cutList '#' s).1, hhash.1, fun given hgiven => ?_⟩
  · rw [hbase, append_elim_cutList]
  · have hmem := hhash.2
    rw [Option.mem_def.1 hgiven] at hmem
    exact mt (List.mem_cons_of_mem _) hmem

theorem Parts.cutList_hash (h : Parts s path query fragment) :
    cutList '#' s = (path ++ query.elim [] ('?' :: ·), fragment) := by
  have hbase : '#' ∉ path ++ query.elim [] ('?' :: ·) := by
    have hquery := h.query
    cases query <;> simp_all [h.hash]
  rw [h.eq, cutList_append_elim hbase]

theorem Parts.queryIn (h : Parts s path query fragment) : queryIn s = query.getD [] := by
  rw [Url.queryIn, h.cutList_hash, cutList_append_elim h.mark]

theorem Parts.fragmentIn (h : Parts s path query fragment) : fragmentIn s = fragment := by
  rw [Url.fragmentIn, h.cutList_hash]

theorem Parts.beforeQuery (h : Parts s path query fragment) : beforeQuery s = path := by
  have hpath : ∀ c ∈ path, (c ≠ '?' && c ≠ '#') = true := by
    intro c hc
    have hmark : c ≠ '?' := fun heq => h.mark (heq ▸ hc)
    have hhash : c ≠ '#' := fun heq => h.hash (heq ▸ hc)
    simp [hmark, hhash]
  rw [Url.beforeQuery, h.eq, List.append_assoc, List.takeWhile_append_of_pos hpath]
  cases query <;> cases fragment <;> simp

end Parts

section Parameters

variable {given added : List Char}

@[simp] theorem parameters_nil : parameters [] = [] := rfl

theorem parameters_append (s rest : List Char) :
    parameters (s ++ '&' :: rest) = parameters s ++ parameters rest := by
  rw [parameters, splitList_append_separator, List.filter_append]
  rfl

theorem parameters_append_of_ends (h : given.getLast? = some '&') (added : List Char) :
    parameters (given ++ added) = parameters given ++ parameters added := by
  obtain ⟨before, rfl⟩ := List.getLast?_eq_some_iff.1 h
  rw [List.append_assoc, List.singleton_append, parameters_append, parameters_append]
  simp

theorem parameters_append_of_starts (h : added.head? = some '&') (given : List Char) :
    parameters (given ++ added) = parameters given ++ parameters added := by
  obtain ⟨rest, rfl⟩ := List.head?_eq_some_iff.1 h
  have hrest : parameters ('&' :: rest) = parameters rest := parameters_append [] rest
  rw [parameters_append, hrest]

theorem parameters_of_not_mem (h : '&' ∉ given) (hne : given ≠ []) : parameters given = [given] := by
  rw [parameters, splitList_of_not_mem h]
  simp [hne]

theorem exists_last_parameter {c : Char} (hlast : given.getLast? = some c) (hc : c ≠ '&') :
    ∃ ahead last, '&' ∉ last ∧ parameters given = ahead ++ [last] ∧
      ∀ more, parameters (given ++ more) = ahead ++ parameters (last ++ more) := by
  rcases hcut : cutLastList '&' given with ⟨_ | before, last⟩
  · have hmem : '&' ∉ given := fst_cutLastList_eq_none.1 (by rw [hcut])
    have hne : given ≠ [] := by
      rintro rfl
      cases hlast
    exact ⟨[], given, hmem, parameters_of_not_mem hmem hne, fun _ => rfl⟩
  · obtain ⟨rfl, hmem⟩ := cutLastList_eq_some.1 hcut
    have hne : last ≠ [] := by
      rintro rfl
      rw [List.getLast?_concat] at hlast
      exact hc (Option.some.inj hlast).symm
    refine ⟨parameters before, last, hmem, ?_, fun more => ?_⟩
    · rw [parameters_append, parameters_of_not_mem hmem hne]
    · rw [List.append_assoc, List.cons_append, parameters_append]

theorem exists_first_parameter (hne : added ≠ []) (hhead : added.head? ≠ some '&') :
    ∃ first behind, parameters added = first :: behind ∧
      ∀ last, '&' ∉ last → parameters (last ++ added) = (last ++ first) :: behind := by
  rcases hcut : cutList '&' added with ⟨first, _ | rest⟩
  · obtain ⟨rfl, hmem⟩ := cutList_eq_none.1 hcut
    refine ⟨first, [], parameters_of_not_mem hmem hne, fun last hlast => ?_⟩
    exact parameters_of_not_mem (List.not_mem_append hlast hmem) (by simp [hne])
  · obtain ⟨rfl, hmem⟩ := cutList_eq_some.1 hcut
    have hfirst : first ≠ [] := by
      rintro rfl
      exact hhead rfl
    refine ⟨first, parameters rest, ?_, fun last hlast => ?_⟩
    · rw [parameters_append, parameters_of_not_mem hmem hfirst]
      rfl
    · rw [← List.append_assoc, parameters_append,
        parameters_of_not_mem (List.not_mem_append hlast hmem) (by simp [hfirst])]
      rfl

theorem parameters_append_joint (h : ¬ Merges given added) :
    parameters (given ++ joint given ++ added) = parameters given ++ parameters added := by
  unfold joint
  split
  · rename_i hends
    rw [List.append_nil]
    rcases hends with rfl | hmark | hand
    · rfl
    · exact parameters_append_of_starts (by simpa [Merges, hmark] using h) given
    · exact parameters_append_of_ends hand added
  · rw [List.append_assoc]
    exact parameters_append given added

theorem parameters_append_of_merges (h : Merges given added) (hne : added ≠ []) :
    ∃ ahead last first behind, parameters given = ahead ++ [last] ∧
      parameters added = first :: behind ∧
      parameters (given ++ joint given ++ added) = ahead ++ (last ++ first) :: behind := by
  have hjoint : joint given = [] := if_pos (.inr (.inl h.1))
  obtain ⟨ahead, last, hmem, hgiven, happend⟩ := exists_last_parameter h.1 (by decide)
  obtain ⟨first, behind, hadded, hprepend⟩ := exists_first_parameter hne h.2
  refine ⟨ahead, last, first, behind, hgiven, hadded, ?_⟩
  rw [hjoint, List.append_nil, happend, hprepend last hmem]

end Parameters

section Joint

variable {base : List Char}

theorem endsWith_singleton (c : Char) (s : String) :
    endsWith (.singleton c) s = decide (s.toList.getLast? = some c) := by
  rw [Bool.eq_iff_iff, decide_eq_true_iff, endsWith, List.isPrefixOf_iff_prefix,
    List.reverse_prefix, String.toList_singleton, List.getLast?_eq_some_iff]
  constructor
  · rintro ⟨before, h⟩
    exact ⟨before, h.symm⟩
  · rintro ⟨before, h⟩
    exact ⟨before, h.symm⟩

theorem queryJoint_of_query {path given : List Char} :
    (queryJoint (.ofList (path ++ '?' :: given))).toList = joint given := by
  have hmark : hasChar '?' (.ofList (path ++ '?' :: given)) = true := by simp [hasChar]
  have hends (c : Char) : endsWith (.singleton c) (.ofList (path ++ '?' :: given)) =
      decide (('?' :: given).getLast? = some c) := by
    rw [endsWith_singleton, String.toList_ofList, List.getLast?_append_of_ne_nil _ (by simp)]
  have hlast (c : Char) (hc : c ≠ '?') :
      ('?' :: given).getLast? = some c ↔ given.getLast? = some c := by
    cases given with
    | nil => simp [Ne.symm hc]
    | cons d given => rw [List.getLast?_cons_cons]
  have hquestion : ('?' :: given).getLast? = some '?' ↔ given = [] ∨ given.getLast? = some '?' := by
    cases given with
    | nil => simp
    | cons d given => simp [List.getLast?_cons_cons]
  have hmarkEnd : endsWith "?" (.ofList (path ++ '?' :: given)) =
      decide (given = [] ∨ given.getLast? = some '?') := (hends '?').trans (by simp only [hquestion])
  have handEnd : endsWith "&" (.ofList (path ++ '?' :: given)) =
      decide (given.getLast? = some '&') := (hends '&').trans (by simp only [hlast '&' (by decide)])
  rw [queryJoint, hmark, hmarkEnd, handEnd, joint]
  by_cases hq : given = [] ∨ given.getLast? = some '?' <;>
    by_cases ha : given.getLast? = some '&' <;> simp_all

theorem queryJoint_of_not_mem (h : '?' ∉ base) : queryJoint (.ofList base) = "?" := by
  simp [queryJoint, hasChar, h]

end Joint

section AddQuery

variable {url query : String} {path : List Char} {given fragment : Option (List Char)}

theorem Parts.addQuery (h : Parts url.toList path given fragment) (hne : query ≠ "")
    (hhash : '#' ∉ query.toList) :
    Parts (addQuery url query).toList path
      (some (given.getD [] ++ joint (given.getD []) ++ query.toList)) fragment := by
  have hadd := toList_addQuery url hne
  rw [h.cutList_hash] at hadd
  have hgiven : '#' ∉ given.getD [] := by
    have hquery := h.query
    cases given <;> simp_all
  have hjoint : '#' ∉ joint (given.getD []) := by
    unfold joint
    split <;> simp
  refine ⟨?_, h.mark, h.hash, ?_⟩
  · rw [hadd]
    cases given with
    | none =>
      have hmark := queryJoint_of_not_mem h.mark
      simp [hmark, joint]
    | some given =>
      simp only [Option.elim_some, Option.getD_some, queryJoint_of_query, List.append_assoc,
        List.cons_append]
  · rintro _ ⟨⟩
    simp [hgiven, hjoint, hhash]

/-- Adding to the query of a URL leaves what is before the query and the fragment as they are, and
puts the parameters that are added behind those that are there. Only if the query ends in a question
mark does its last parameter go on with the first one that is added. -/
theorem parameters_addQuery (hne : query ≠ "") (hhash : '#' ∉ query.toList) :
    beforeQuery (addQuery url query).toList = beforeQuery url.toList ∧
      fragmentIn (addQuery url query).toList = fragmentIn url.toList ∧
      (parameters (queryIn (addQuery url query).toList) =
          parameters (queryIn url.toList) ++ parameters query.toList ↔
        ¬ Merges (queryIn url.toList) query.toList) ∧
      (Merges (queryIn url.toList) query.toList → ∃ ahead last first behind,
        parameters (queryIn url.toList) = ahead ++ [last] ∧
          parameters query.toList = first :: behind ∧
          parameters (queryIn (addQuery url query).toList) = ahead ++ (last ++ first) :: behind) := by
  obtain ⟨path, given, fragment, hurl⟩ := exists_parts url.toList
  have hsent := hurl.addQuery hne hhash
  have hquery : query.toList ≠ [] := by simpa using hne
  rw [hurl.queryIn, hsent.queryIn, hurl.beforeQuery, hsent.beforeQuery, hurl.fragmentIn,
    hsent.fragmentIn, Option.getD_some]
  generalize given.getD [] = given
  refine ⟨rfl, rfl, ?_, fun hmerges => parameters_append_of_merges hmerges hquery⟩
  constructor
  · intro heq hmerges
    obtain ⟨ahead, last, first, behind, hgiven, hadded, hmerged⟩ :=
      parameters_append_of_merges hmerges hquery
    rw [hgiven, hadded, hmerged] at heq
    have hlength := congrArg List.length heq
    simp at hlength
  · exact parameters_append_joint

theorem parameters_addQuery_fragment :
    addQuery "http://h/?a=1#f?" "b=2&c" = "http://h/?a=1&b=2&c#f?" ∧
      parameters (queryIn (addQuery "http://h/?a=1#f?" "b=2&c").toList) =
        [['a', '=', '1'], ['b', '=', '2'], ['c']] := by
  obtain ⟨-, -, hiff, -⟩ :=
    @parameters_addQuery "http://h/?a=1#f?" "b=2&c" (by decide) (by decide)
  exact ⟨by decide, (hiff.2 (by decide)).trans (by decide)⟩

theorem parameters_addQuery_merged :
    addQuery "http://h/?a=1?" "b=2" = "http://h/?a=1?b=2" ∧
      parameters (queryIn (addQuery "http://h/?a=1?" "b=2").toList) ≠
        parameters (queryIn "http://h/?a=1?".toList) ++ parameters "b=2".toList := by
  decide

end AddQuery

end CurlScribe.Url
