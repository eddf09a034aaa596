import CurlScribe.Proofs.Noted
import CurlScribe.Proofs.Text.Cut
import CurlScribe.Url.Form
import CurlScribe.Url.Split
import Mathlib

namespace CurlScribe.Url

def normal (s : List Char) : List Char := (s.dropWhile isLeading).filter (!isLineOrTab ·)

def authorityIn (s : List Char) : List Char := (cutAuthority (cutScheme (normal s)).2).1

theorem ofList_eq_ok {s : List Char} {u : Url} (h : ofList s = .ok u) :
    u.scheme = (cutScheme (normal s)).1 ∧ u.authority = authorityIn s := by
  unfold ofList at h
  simp only at h
  obtain ⟨_, -, h⟩ := bind_eq_ok_iff.1 h
  obtain ⟨_, -, h⟩ := bind_eq_ok_iff.1 h
  cases h
  exact ⟨rfl, rfl⟩

inductive IsScheme : List Char → Prop
  | mk {c name} : c.isAlpha = true → (c :: name).all isSchemeChar = true → IsScheme (c :: name)

theorem isSchemeChar_toLower {c : Char} (h : isSchemeChar c = true) :
    isSchemeChar c.toLower = true := by
  by_cases hu : c.isUpper = true
  · have hl : c.toLower.isAlpha = true := by
      rw [Char.isAlpha_toLower_eq_isAlpha, Char.isAlpha, hu, Bool.true_or]
    simp [isSchemeChar, Char.isAlphanum, hl]
  · rw [Char.toLower_eq_of_not_isUpper hu]
    exact h

theorem IsScheme.map_toLower {scheme : List Char} (h : IsScheme scheme) :
    IsScheme (scheme.map Char.toLower) := by
  cases h with
  | @mk c name hc hall =>
    refine .mk ((Char.isAlpha_toLower_eq_isAlpha c).trans hc) ?_
    rw [← List.map_cons, List.all_map, List.all_eq_true]
    intro d hd
    exact isSchemeChar_toLower (List.all_eq_true.1 hall d hd)

theorem IsScheme.isSchemeChar {scheme : List Char} (h : IsScheme scheme) {c : Char}
    (hc : c ∈ scheme) : isSchemeChar c = true := by
  cases h with
  | mk _ hall => exact List.all_eq_true.1 hall c hc

theorem cutScheme_append {scheme : List Char} (h : IsScheme scheme) (rest : List Char) :
    cutScheme (scheme ++ ':' :: rest) = (scheme.map Char.toLower, rest) := by
  cases h with
  | @mk c name hc hall =>
    have hcolon : ':' ∉ c :: name := fun hm => absurd (List.all_eq_true.1 hall _ hm) (by decide)
    rw [cutScheme, Text.cutList_append hcolon]
    simp only [hc, hall, Bool.and_true, if_true]

theorem eq_of_cutScheme {s scheme rest : List Char} (h : cutScheme s = (scheme, rest))
    (hne : scheme ≠ []) :
    ∃ given, IsScheme given ∧ s = given ++ ':' :: rest ∧ scheme = given.map Char.toLower := by
  unfold cutScheme at h
  split at h
  · rename_i c name after hcut
    split at h
    · rename_i hs
      cases h
      obtain ⟨hc, hall⟩ := Bool.and_eq_true_iff.1 hs
      exact ⟨c :: name, .mk hc hall, (Text.cutList_eq_some.1 hcut).1, rfl⟩
    · cases h
      exact absurd rfl hne
  · cases h
    exact absurd rfl hne

theorem not_isLineOrTab_of_isSchemeChar {c : Char} (h : isSchemeChar c = true) :
    isLineOrTab c = false := by
  rw [Bool.eq_false_iff]
  intro hl
  simp only [isLineOrTab, Bool.or_eq_true, decide_eq_true_eq] at hl
  rcases hl with (rfl | rfl) | rfl <;> exact absurd h (by decide)

theorem not_isLineOrTab_of_endsAuthority {c : Char} (h : endsAuthority c = true) :
    isLineOrTab c = false := by
  simp only [endsAuthority, Bool.or_eq_true, decide_eq_true_eq] at h
  rcases h with (rfl | rfl) | rfl <;> rfl

theorem not_isLeading_of_isAlpha {c : Char} (h : c.isAlpha = true) : isLeading c = false := by
  have : 65 ≤ c.toNat := by
    simp only [Char.isAlpha, Char.isUpper, Char.isLower, UInt32.le_iff_toNat_le, Bool.or_eq_true,
      Bool.and_eq_true, decide_eq_true_eq, ge_iff_le, Char.reduceVal, UInt32.reduceToNat,
      Char.toNat_val] at h
    omega
  simp [isLeading]
  omega

theorem normal_append {scheme : List Char} (h : IsScheme scheme) (rest : List Char) :
    normal (scheme ++ rest) = scheme ++ rest.filter (!isLineOrTab ·) := by
  cases h with
  | @mk c name hc hall =>
    have hclean : (c :: name).filter (!isLineOrTab ·) = c :: name :=
      List.filter_eq_self.2 fun d hd => by
        simp [not_isLineOrTab_of_isSchemeChar (List.all_eq_true.1 hall d hd)]
    rw [normal, List.cons_append, List.dropWhile_cons_of_neg (by simp [not_isLeading_of_isAlpha hc]),
      ← List.cons_append, List.filter_append, hclean]

/-- The text of a URL with a host behind the scheme, and behind it nothing or what ends it. -/
structure Located (s scheme host rest : List Char) : Prop where
  eq : s = scheme ++ ':' :: '/' :: '/' :: (host ++ rest)
  scheme : IsScheme scheme
  host : ∀ c ∈ host, endsAuthority c = false
  rest : ∀ c ∈ rest.head?, endsAuthority c = true

variable {s scheme host rest : List Char}

theorem located_of_scheme (h : IsScheme scheme) (behind : List Char) :
    Located (scheme ++ ':' :: '/' :: '/' :: behind) scheme (behind.takeWhile (!endsAuthority ·))
      (behind.dropWhile (!endsAuthority ·)) := by
  refine ⟨?_, h, ?_, ?_⟩
  · rw [List.takeWhile_append_dropWhile]
  · intro c hc
    simpa using List.all_eq_true.1 List.all_takeWhile c hc
  · intro c hc
    have := List.head?_dropWhile_not (!endsAuthority ·) behind
    rw [Option.mem_def.1 hc] at this
    simpa using this

theorem exists_located (h : cutScheme s = (scheme, '/' :: '/' :: rest)) (hne : scheme ≠ []) :
    ∃ given, scheme = given.map Char.toLower ∧
      Located s given (rest.takeWhile (!endsAuthority ·)) (rest.dropWhile (!endsAuthority ·)) := by
  obtain ⟨given, hs, rfl, rfl⟩ := eq_of_cutScheme h hne
  exact ⟨given, rfl, located_of_scheme hs rest⟩

theorem cutAuthority_append (hhost : ∀ c ∈ host, endsAuthority c = false)
    (hrest : ∀ c ∈ rest.head?, endsAuthority c = true) :
    cutAuthority ('/' :: '/' :: (host ++ rest)) = (host, rest) := by
  have hh : ∀ c ∈ host, (!endsAuthority c) = true := by simpa using hhost
  rw [cutAuthority, List.takeWhile_append_of_pos hh, List.dropWhile_append_of_pos hh]
  cases rest with
  | nil => simp
  | cons c rest =>
    have hc : endsAuthority c = true := hrest c rfl
    simp [hc]

theorem Located.normal (h : Located s scheme host rest) :
    Located (normal s) scheme (host.filter (!isLineOrTab ·)) (rest.filter (!isLineOrTab ·)) := by
  refine ⟨?_, h.scheme, fun c hc => h.host c (List.mem_filter.1 hc).1, ?_⟩
  · rw [h.eq, normal_append h.scheme]
    simp [isLineOrTab]
  · cases rest with
    | nil => simp
    | cons c rest =>
      have hc : endsAuthority c = true := h.rest c rfl
      simp [not_isLineOrTab_of_endsAuthority hc, hc]

theorem Located.authorityIn (h : Located s scheme host rest) :
    authorityIn s = host.filter (!isLineOrTab ·) := by
  rw [Url.authorityIn, h.normal.eq, cutScheme_append h.scheme,
    cutAuthority_append h.normal.host h.normal.rest]

theorem Located.not_mem (h : Located s scheme host rest) {c : Char} (hs : isSchemeChar c = false)
    (hc : endsAuthority c = true) (hslash : c ≠ '/') (hcolon : c ≠ ':') :
    c ∉ scheme ++ ':' :: '/' :: '/' :: host := by
  have hscheme : c ∉ scheme := fun hm => by simp [h.scheme.isSchemeChar hm] at hs
  have hhost : c ∉ host := fun hm => by simp [h.host c hm] at hc
  simp [hscheme, hhost, hslash, hcolon]

def queryJoint (base : String) : String :=
  if !Text.hasChar '?' base then "?"
  else if Text.endsWith "?" base || Text.endsWith "&" base then ""
  else "&"

theorem toList_addQuery (url : String) {query : String} (hq : query ≠ "") :
    (addQuery url query).toList = (Text.cutList '#' url.toList).1 ++
      ((queryJoint (.ofList (Text.cutList '#' url.toList).1)).toList ++ query.toList ++
        (Text.cutList '#' url.toList).2.elim [] ('#' :: ·)) := by
  rcases h : Text.cutList '#' url.toList with ⟨base, _ | fragment⟩ <;>
    simp [addQuery, queryJoint, hq, Text.cut, h]

theorem any_queryJoint {p : Char → Bool} (hmark : p '?' = false) (hand : p '&' = false)
    (base : String) : (queryJoint base).toList.any p = false := by
  unfold queryJoint
  split
  · simp [hmark]
  · split <;> simp [hand]

theorem any_addQuery {p : Char → Bool} (hmark : p '?' = false) (hand : p '&' = false)
    (url query : String) :
    (addQuery url query).toList.any p = (url.toList.any p || query.toList.any p) := by
  by_cases hq : query = ""
  · simp [addQuery, hq]
  have hurl := congrArg (List.any · p) (Text.append_elim_cutList '#' url.toList)
  simp only [List.any_append] at hurl
  simp only [toList_addQuery url hq, List.any_append, any_queryJoint hmark hand, Bool.false_or,
    ← hurl]
  ac_rfl

theorem Located.addQuery {url : String} (h : Located url.toList scheme host rest)
    (query : String) : ∃ rest, Located (addQuery url query).toList scheme host rest := by
  by_cases hq : query = ""
  · exact ⟨rest, by simpa [Url.addQuery, hq] using h⟩
  have hurl : url.toList = (scheme ++ ':' :: '/' :: '/' :: host) ++ rest := by simp [h.eq]
  have hhash := h.not_mem (c := '#') (by decide) (by decide) (by decide) (by decide)
  have hmark := h.not_mem (c := '?') (by decide) (by decide) (by decide) (by decide)
  have heq := toList_addQuery url hq
  rw [hurl, Text.cutList_append_left hhash] at heq
  have hhead : ∀ c ∈ (Text.cutList '#' rest).1.head?, endsAuthority c = true :=
    fun c hc => h.rest c (Text.head?_fst_cutList hc)
  generalize Text.cutList '#' rest = cut at heq hhead
  obtain ⟨base, fragment⟩ := cut
  have hjoint : base = [] →
      queryJoint (.ofList (scheme ++ ':' :: '/' :: '/' :: host ++ base)) = "?" := by
    rintro rfl
    rw [List.append_nil]
    generalize scheme ++ ':' :: '/' :: '/' :: host = s at hmark
    simp [queryJoint, Text.hasChar, hmark]
  simp only at heq
  generalize queryJoint _ = joint at heq hjoint
  refine ⟨base ++ (joint.toList ++ query.toList ++ fragment.elim [] ('#' :: ·)), by simp [heq],
    h.scheme, h.host, ?_⟩
  -- Only where nothing but a fragment is behind the host does the query come right after it.
  cases base with
  | nil => simp [hjoint rfl, endsAuthority]
  | cons c base => simpa using hhead

end CurlScribe.Url
