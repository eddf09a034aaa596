import CurlScribe.Proofs.Url.Accepted
import CurlScribe.Request.Location

namespace CurlScribe.Request

open Url

variable {raw : String} {l : Location} {s : List Char}

/-- What a text must have to give a location, and which one it gives. -/
theorem locate_eq_ok : locate raw = .ok l ↔
    raw ≠ "" ∧ raw.toList.any isForbidden = false ∧
      ∃ u port, Url.ofList (withScheme raw.toList) = .ok u ∧ u.port? = .ok port ∧
        u.scheme ≠ [] ∧ u.host? ≠ none ∧
        l = ⟨.ofList (if (credentials? u).isSome then withoutCredentials u (withScheme raw.toList)
          else withScheme raw.toList), credentials? u⟩ := by
  constructor
  · intro h
    unfold locate at h
    simp only at h
    split at h
    · cases h
    rename_i hraw
    obtain ⟨u, hu, h⟩ := bind_eq_ok_iff.1 h
    obtain ⟨port, hport, h⟩ := bind_eq_ok_iff.1 h
    split at h
    · cases h
    rename_i hhost
    simp only [Bool.or_eq_true, decide_eq_true_eq, not_or] at hraw hhost
    refine ⟨hraw.1, by simpa using hraw.2, u, port, mapError_eq_ok_iff.1 hu,
      mapError_eq_ok_iff.1 hport, hhost.1, hhost.2, ?_⟩
    cases hc : credentials? u <;> rw [hc] at h <;> cases h <;> rfl
  · rintro ⟨hne, hany, u, port, hu, hport, hscheme, hhost, rfl⟩
    have hraw : (raw = "" || raw.toList.any isForbidden) = false := by simp [hne, hany]
    have hpart : (u.scheme = [] || u.host? = none) = false := by simp [hscheme, hhost]
    simp only [locate, hraw, hu, Except.mapError, Bool.false_eq_true, if_false]
    simp only [bind, Except.bind, hport, hpart, Bool.false_eq_true, if_false]
    cases hc : credentials? u <;> rfl

theorem cutScheme_withScheme (s : List Char) :
    ∃ scheme rest, scheme ≠ [] ∧ cutScheme (withScheme s) = (scheme, '/' :: '/' :: rest) := by
  by_cases hs : hasScheme s = true
  · rw [withScheme, if_pos hs]
    rcases hcut : cutScheme s with ⟨scheme, rest⟩
    simp only [hasScheme, hcut, Bool.and_eq_true, decide_eq_true_eq] at hs
    obtain ⟨rest, rfl⟩ := List.isPrefixOf_iff_prefix.1 hs.2
    exact ⟨scheme, rest, hs.1, rfl⟩
  · have hhttp : IsScheme "http".toList := .mk (by decide) (by decide)
    rw [withScheme, if_neg hs]
    exact ⟨_, s, by decide, cutScheme_append hhttp ('/' :: '/' :: s)⟩

theorem isForbidden_of_isLeading {c : Char} (h : isLeading c = true) : isForbidden c = true := by
  simp_all [isLeading, isForbidden]

theorem isForbidden_of_isLineOrTab {c : Char} (h : isLineOrTab c = true) :
    isForbidden c = true := by
  simp only [isLineOrTab, Bool.or_eq_true, decide_eq_true_eq] at h
  rcases h with (rfl | rfl) | rfl <;> rfl

theorem normal_eq_self (h : s.any isForbidden = false) : normal s = s := by
  have h : ∀ c ∈ s, ¬isForbidden c = true := by simpa using h
  have hd : s.dropWhile isLeading = s := by
    cases s with
    | nil => rfl
    | cons c s =>
      have : isLeading c ≠ true := fun hc => h c (by simp) (isForbidden_of_isLeading hc)
      simp [this]
  rw [normal, hd, List.filter_eq_self]
  intro c hc
  by_cases hl : isLineOrTab c = true
  · exact absurd (isForbidden_of_isLineOrTab hl) (h c hc)
  · simpa using hl

theorem any_isForbidden_withScheme (h : s.any isForbidden = false) :
    (withScheme s).any isForbidden = false := by
  unfold withScheme
  split
  · exact h
  · rw [List.any_append, h]
    rfl

theorem credentials?_eq_none {u : Url} (h : credentials? u = none) : '@' ∉ u.authority := by
  simpa [credentials?, Text.fst_cutLastList_eq_none] using h

theorem located_withoutCredentials {u : Url} {given host rest : List Char}
    (h : Located s given host rest) (hscheme : u.scheme = given.map Char.toLower)
    (hauthority : u.authority = host) :
    Located (withoutCredentials u s) u.scheme (hostPart u.authority) rest := by
  refine ⟨?_, hscheme ▸ h.scheme.map_toLower, ?_, h.rest⟩
  · have hdrop : s.drop (u.scheme.length + 3 + u.authority.length) = rest := by
      rw [h.eq, hscheme, hauthority, List.length_map]
      have : given ++ ':' :: '/' :: '/' :: (host ++ rest) =
          (given ++ [':', '/', '/'] ++ host) ++ rest := by simp
      rw [this]
      apply List.drop_left'
      simp
      omega
    simp [withoutCredentials, hdrop]
  · intro c hc
    exact h.host c (hauthority ▸ Text.mem_of_mem_snd_cutLastList hc)

theorem exists_locate_eq_ok : (∃ l, locate raw = .ok l) ↔
    raw.toList.any isForbidden = false ∧ Accepted (authorityIn (withScheme raw.toList)) := by
  constructor
  · rintro ⟨l, h⟩
    obtain ⟨-, hraw, u, port, hu, hport, -, hhost, -⟩ := locate_eq_ok.1 h
    exact ⟨hraw, (accepted_iff hu).2 ⟨hhost, port, hport⟩⟩
  · rintro ⟨hraw, haccepted⟩
    obtain ⟨u, hu⟩ := exists_ofList_eq_ok.2 ⟨haccepted.brackets, haccepted.lookalikes⟩
    obtain ⟨hhost, port, hport⟩ := (accepted_iff hu).1 haccepted
    have hscheme : u.scheme ≠ [] := by
      obtain ⟨scheme, more, hne, hcut⟩ := cutScheme_withScheme raw.toList
      rwa [(ofList_eq_ok hu).1, normal_eq_self (any_isForbidden_withScheme hraw), hcut]
    have hne : raw ≠ "" := by
      rintro rfl
      exact haccepted.host rfl
    exact ⟨_, locate_eq_ok.2 ⟨hne, hraw, u, port, hu, hport, hscheme, hhost, rfl⟩⟩

theorem locate_scheme (h : locate raw = .ok l) :
    ∃ given scheme rest, scheme.map Char.toLower = given.map Char.toLower ∧
      Located (withScheme raw.toList) given (authorityIn (withScheme raw.toList)) rest ∧
      Located l.url.toList scheme (hostPart (authorityIn (withScheme raw.toList))) rest := by
  obtain ⟨-, hraw, u, port, hu, -, -, -, rfl⟩ := locate_eq_ok.1 h
  obtain ⟨hscheme, hauthority⟩ := ofList_eq_ok hu
  have hnormal := normal_eq_self (any_isForbidden_withScheme hraw)
  obtain ⟨scheme, more, hne, hcut⟩ := cutScheme_withScheme raw.toList
  obtain ⟨given, hgiven, hloc⟩ := exists_located hcut hne
  -- Nothing is dropped from the text, so its authority is where the URL was cut.
  rw [hnormal, hcut, hgiven] at hscheme
  have hhost : authorityIn (withScheme raw.toList) = more.takeWhile (!endsAuthority ·) := by
    rw [authorityIn, hnormal, hcut, cutAuthority]
  rw [← hhost] at hloc
  cases hc : credentials? u with
  | none =>
    have hat := credentials?_eq_none hc
    rw [hauthority] at hat
    refine ⟨given, given, _, rfl, hloc, ?_⟩
    rw [hostPart, Text.snd_cutLastList_of_not_mem hat]
    simpa using hloc
  | some c =>
    have hlower : u.scheme.map Char.toLower = given.map Char.toLower := by
      rw [hscheme, List.map_map]
      exact List.map_congr_left fun d _ => Char.toLower_toLower_eq_toLower d
    refine ⟨given, u.scheme, _, hlower, hloc, ?_⟩
    rw [← hauthority]
    simpa using located_withoutCredentials hloc hscheme hauthority

theorem locate_parts (h : locate raw = .ok l) :
    ∃ given scheme rest, Located (withScheme raw.toList) given
        (authorityIn (withScheme raw.toList)) rest ∧
      Located l.url.toList scheme (hostPart (authorityIn (withScheme raw.toList))) rest := by
  obtain ⟨given, scheme, rest, -, hloc⟩ := locate_scheme h
  exact ⟨given, scheme, rest, hloc⟩

theorem locate_located (h : locate raw = .ok l) :
    ∃ scheme host rest, Located l.url.toList scheme host rest ∧ '@' ∉ host := by
  obtain ⟨given, scheme, rest, -, hloc⟩ := locate_parts h
  exact ⟨scheme, _, rest, hloc, Text.not_mem_snd_cutLastList '@' _⟩

theorem isForbidden_of_isSchemeChar {c : Char} (h : isSchemeChar c = true) :
    isForbidden c = false := by
  rw [Bool.eq_false_iff]
  intro hf
  simp only [isForbidden, Bool.or_eq_true, decide_eq_true_eq] at hf
  rcases hf with hle | rfl
  · have hsmall : ∀ n ≤ 0x20, isSchemeChar (Char.ofNat n) = false := by decide
    simpa [h] using hsmall c.toNat hle
  · exact absurd h (by decide)

theorem any_isForbidden_located {scheme host rest : List Char} (h : Located s scheme host rest) :
    s.any isForbidden = (host.any isForbidden || rest.any isForbidden) := by
  have hscheme : scheme.any isForbidden = false := by
    simpa using fun c hc => isForbidden_of_isSchemeChar (h.scheme.isSchemeChar hc)
  have hmarks : isForbidden ':' = false ∧ isForbidden '/' = false := by decide
  simp [h.eq, hscheme, hmarks]

theorem any_isForbidden_locate (h : locate raw = .ok l) : l.url.toList.any isForbidden = false := by
  obtain ⟨given, scheme, rest, hloc, hloc'⟩ := locate_parts h
  have hraw := any_isForbidden_withScheme (locate_eq_ok.1 h).2.1
  rw [any_isForbidden_located hloc, Bool.or_eq_false_iff] at hraw
  rw [any_isForbidden_located hloc', hraw.2, Bool.or_false, List.any_eq_false]
  intro c hc
  exact List.any_eq_false.1 hraw.1 c (mem_of_mem_hostPart hc)

theorem authorityIn_locate (h : locate raw = .ok l) :
    authorityIn l.url.toList = hostPart (authorityIn (withScheme raw.toList)) := by
  have hurl := any_isForbidden_locate h
  obtain ⟨given, scheme, rest, -, hloc⟩ := locate_parts h
  rw [any_isForbidden_located hloc, Bool.or_eq_false_iff, List.any_eq_false] at hurl
  rw [hloc.authorityIn, List.filter_eq_self]
  intro c hc
  simpa using fun hl => hurl.1 c hc (isForbidden_of_isLineOrTab hl)

theorem withScheme_located {scheme host rest : List Char} (h : Located s scheme host rest) :
    withScheme s = s := by
  have hne : scheme.map Char.toLower ≠ [] := by
    cases h.scheme with
    | mk _ _ => simp
  rw [withScheme, if_pos]
  simp [hasScheme, h.eq, cutScheme_append h.scheme, hne]

theorem credentials?_of_not_mem {u : Url} (h : '@' ∉ u.authority) : credentials? u = none := by
  simp [credentials?, Text.fst_cutLastList_eq_none.2 h]

theorem locate_eq_self {url : String} {scheme host rest : List Char}
    (h : Located url.toList scheme host rest) : locate url = .ok ⟨url, none⟩ ↔
      url.toList.any isForbidden = false ∧ Accepted (authorityIn url.toList) ∧
        '@' ∉ authorityIn url.toList := by
  have hself := withScheme_located h
  constructor
  · intro hl
    obtain ⟨hurl, haccepted⟩ := exists_locate_eq_ok.1 ⟨_, hl⟩
    obtain ⟨-, -, u, -, hu, -, -, -, hlocation⟩ := locate_eq_ok.1 hl
    rw [hself] at haccepted hu
    have hnone := (Location.mk.injEq .. ▸ hlocation).2
    exact ⟨hurl, haccepted, (ofList_eq_ok hu).2 ▸ credentials?_eq_none hnone.symm⟩
  · rintro ⟨hurl, haccepted, hat⟩
    obtain ⟨l, hl⟩ := exists_locate_eq_ok.2 ⟨hurl, hself.symm ▸ haccepted⟩
    obtain ⟨-, -, u, -, hu, -, -, -, rfl⟩ := locate_eq_ok.1 hl
    rw [hself] at hu
    rw [hl, credentials?_of_not_mem ((ofList_eq_ok hu).2 ▸ hat), hself]
    simp

end CurlScribe.Request
