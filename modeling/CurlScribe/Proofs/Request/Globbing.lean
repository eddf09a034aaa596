import CurlScribe.Proofs.Request.Topic

namespace CurlScribe

namespace Request

open Url

variable {url : String} {scheme host rest : List Char} {c : Char}

/-- Whether a brace or a bracket stands somewhere behind a slash. -/
def GlobBehindSlash (s : List Char) : Prop :=
  ∃ before after, s = before ++ '/' :: after ∧ ∃ c ∈ after, isGlob c = true

theorem GlobBehindSlash.mem (h : GlobBehindSlash rest) : ∃ c ∈ rest, isGlob c = true := by
  obtain ⟨before, after, rfl, c, hc, hglob⟩ := h
  exact ⟨c, by simp [hc], hglob⟩

theorem globBehindSlash_path (path : List Char) :
    GlobBehindSlash ('/' :: path) ↔ ∃ c ∈ '/' :: path, isGlob c = true := by
  refine ⟨GlobBehindSlash.mem, ?_⟩
  rintro ⟨c, hc, hglob⟩
  have hne : c ≠ '/' := by
    rintro rfl
    exact absurd hglob (by decide)
  exact ⟨[], path, rfl, c, List.mem_of_ne_of_mem hne hc, hglob⟩

theorem afterHost_of_located (h : Located url.toList scheme host rest) :
    afterHost url = (Text.cutList '/' rest).2.getD [] := by
  have hcolon : ':' ∉ scheme := fun hm => absurd (h.scheme.isSchemeChar hm) (by decide)
  have hslash : '/' ∉ host := fun hm => absurd (h.host '/' hm) (by decide)
  have hurl : url.toList = scheme ++ ("://".toList ++ (host ++ rest)) := by simp [h.eq]
  have hcut : Text.cutOnList "://".toList url.toList = (scheme, some (host ++ rest)) := by
    rw [hurl]
    exact Text.cutOnList_append hcolon _
  rw [afterHost, Text.cutOn, hcut]
  simp [Text.cutList_append_left hslash]

theorem any_isGlob_afterHost (h : Located url.toList scheme host rest) :
    (afterHost url).any isGlob = true ↔ GlobBehindSlash rest := by
  rw [afterHost_of_located h, List.any_eq_true]
  rcases hcut : Text.cutList '/' rest with ⟨first, _ | after⟩
  · obtain ⟨rfl, hslash⟩ := Text.cutList_eq_none.1 hcut
    constructor
    · rintro ⟨c, hc, -⟩
      cases hc
    · rintro ⟨before, after, rfl, -⟩
      exact absurd (by simp) hslash
  · obtain ⟨rfl, hfirst⟩ := Text.cutList_eq_some.1 hcut
    constructor
    · exact fun hglob => ⟨first, after, rfl, hglob⟩
    · rintro ⟨before, behind, heq, hglob⟩
      have hsuffix : behind <:+ after := by
        obtain ⟨more, rfl, hmore⟩ | ⟨more, rfl, hmore⟩ := List.append_eq_append_iff.1 heq
        · cases more with
          | nil => simp_all
          | cons d more =>
            obtain ⟨rfl, rfl⟩ := List.cons_eq_cons.1 hmore
            exact ⟨more ++ ['/'], by simp⟩
        · cases more with
          | nil => simp_all
          | cons d more =>
            obtain ⟨rfl, -⟩ := List.cons_eq_cons.1 hmore
            exact absurd (by simp) hfirst
      obtain ⟨c, hc, hc'⟩ := hglob
      exact ⟨c, hsuffix.subset hc, hc'⟩

end Request

namespace Arguments

open Request Url

variable {a : Arguments} {r : Request} {l : Location} {scheme host rest : List Char}

theorem notes_location (hl : a.location.result = .ok l) : ∃ url others,
    a.urls = url :: others ∧ locate url = .ok l ∧
      a.location.notes = (if others = [] then [] else [.severalUrls (others.length + 1) url])
        ++ a.locationNotices l := by
  obtain ⟨url, others, hurls, hlocate⟩ := location_eq_ok.1 hl
  refine ⟨url, others, hurls, hlocate, ?_⟩
  simp [location, hurls, hlocate]

theorem count_locationNotices (h : Located l.url.toList scheme host rest) :
    ((a.locationNotices l).count .globbing ≤ 1) ∧
      (.globbing ∈ a.locationNotices l ↔ a.isOn "globoff" = false ∧ GlobBehindSlash rest) := by
  have hfirst : (if l.credentials.isSome then
      [if (a.text? "user").isSome then Notice.credentialsRemoved else .credentialsMoved]
      else []).count .globbing = 0 := by
    split <;> [split; skip] <;> rfl
  rw [← List.one_le_count_iff, locationNotices, List.count_append, hfirst, Nat.zero_add,
    ← any_isGlob_afterHost h]
  cases a.isOn "globoff" <;> cases (afterHost l.url).any isGlob <;> decide

theorem count_globbing (hr : a.request.result = .ok r) : ∃ url others l,
    a.urls = url :: others ∧ locate url = .ok l ∧
      a.request.notes.count .globbing = (a.locationNotices l).count .globbing := by
  obtain ⟨l, hl, hfilter⟩ := filter_notes_topic hr
  obtain ⟨url, others, hurls, hlocate, hnotes⟩ := notes_location hl
  have hothers : (if others = [] then [] else
      [Notice.severalUrls (others.length + 1) url]).count .globbing = 0 := by
    split <;> rfl
  have hcount := congrArg (List.count Notice.globbing) (hfilter .location)
  rw [List.count_filter (by rfl), noticesOn, hnotes, List.count_append, hothers,
    Nat.zero_add] at hcount
  exact ⟨url, others, l, hurls, hlocate, hcount⟩

/-- The notice on braces and brackets is taken at most once, and just if they are not taken
literally and one stands behind a slash in what is behind the host. So it speaks of all of them
behind the host, except where a query or a fragment is right behind it and has some, but none behind
a slash. -/
theorem globbing_noticed (hr : a.request.result = .ok r) : ∃ url others l scheme host rest,
    a.urls = url :: others ∧ locate url = .ok l ∧ Located l.url.toList scheme host rest ∧
    a.request.notes.count .globbing ≤ 1 ∧
    (.globbing ∈ a.request.notes ↔ a.isOn "globoff" = false ∧ GlobBehindSlash rest) ∧
    ((.globbing ∈ a.request.notes ↔ a.isOn "globoff" = false ∧ ∃ c ∈ rest, isGlob c = true) ↔
      (a.isOn "globoff" = false → rest.head? = some '?' ∨ rest.head? = some '#' →
        (∃ c ∈ rest, isGlob c = true) → GlobBehindSlash rest)) := by
  obtain ⟨url, others, l, hurls, hlocate, hcount⟩ := count_globbing hr
  obtain ⟨scheme, host, rest, hloc, -⟩ := locate_located hlocate
  obtain ⟨hone, hmem⟩ := count_locationNotices (a := a) hloc
  have hnoticed :
      .globbing ∈ a.request.notes ↔ a.isOn "globoff" = false ∧ GlobBehindSlash rest := by
    rw [← hmem, ← List.one_le_count_iff, ← List.one_le_count_iff, hcount]
  refine ⟨url, others, l, scheme, host, rest, hurls, hlocate, hloc, hcount ▸ hone, hnoticed, ?_⟩
  rw [hnoticed]
  constructor
  · exact fun hexact hoff _ hglob => (hexact.2 ⟨hoff, hglob⟩).2
  · intro hquery
    refine ⟨fun ⟨hoff, hglob⟩ => ⟨hoff, hglob.mem⟩, fun ⟨hoff, hglob⟩ => ⟨hoff, ?_⟩⟩
    have ⟨c, hc, _⟩ := hglob
    obtain ⟨d, behind, rfl⟩ := List.exists_cons_of_ne_nil (List.ne_nil_of_mem hc)
    have hd : endsAuthority d = true := hloc.rest d rfl
    simp only [endsAuthority, Bool.or_eq_true, decide_eq_true_eq] at hd
    obtain (rfl | rfl) | rfl := hd
    · exact (globBehindSlash_path behind).2 hglob
    · exact hquery hoff (.inl rfl) hglob
    · exact hquery hoff (.inr rfl) hglob

theorem globbing_noticed_address : ∃ a r scheme host rest,
    parse .curl true ["-L", "u:p@[::1]?a/\x7b\x7d"] = ⟨[], .ok a⟩ ∧
    a.request = ⟨[.credentialsMoved, .globbing], .ok r⟩ ∧
    Located "http://[::1]?a/\x7b\x7d".toList scheme host rest ∧ GlobBehindSlash rest := by
  let a : Arguments := ⟨[⟨"location", false, .toggle true⟩], ["u:p@[::1]?a/\x7b\x7d"]⟩
  let r : Request :=
    { method := .get, url := "http://[::1]?a/\x7b\x7d", auth := .basic "u" "p",
      followRedirects := true }
  have hr : a.request.result = .ok r := by decide +kernel
  have hnotes : a.request.notes = [.credentialsMoved, .globbing] := by decide +kernel
  obtain ⟨url, others, l, scheme, host, rest, hurls, hl, hloc, -, hnoticed, -⟩ :=
    globbing_noticed hr
  obtain ⟨rfl, rfl⟩ := List.cons_eq_cons.1 hurls
  have hurl : l = ⟨"http://[::1]?a/\x7b\x7d", some ("u", "p")⟩ := by
    have hl' : locate "u:p@[::1]?a/\x7b\x7d" =
        .ok ⟨"http://[::1]?a/\x7b\x7d", some ("u", "p")⟩ := by rfl
    exact Except.ok.inj (hl.symm.trans hl')
  rw [hurl] at hloc
  refine ⟨a, r, scheme, host, rest, by cbv, ?_, hloc, (hnoticed.1 (by simp [hnotes])).2⟩
  rw [Noted.eq_of_result hr, hnotes]

theorem globbing_noticed_query : ∃ a r,
    parse .curl false ["http://h?\x7ba\x7d"] = ⟨[], .ok a⟩ ∧ a.request = ⟨[], .ok r⟩ ∧
    a.isOn "globoff" = false ∧
    locate "http://h?\x7ba\x7d" = .ok ⟨"http://h?\x7ba\x7d", none⟩ ∧
    Located "http://h?\x7ba\x7d".toList "http".toList ['h'] ['?', '\x7b', 'a', '\x7d'] ∧
    isGlob '\x7b' = true := by
  let a : Arguments := ⟨[], ["http://h?\x7ba\x7d"]⟩
  let r : Request := { method := .get, url := "http://h?\x7ba\x7d" }
  have hr : a.request.result = .ok r := by decide
  have hnotes : a.request.notes = [] := by decide
  have hloc : Located "http://h?\x7ba\x7d".toList "http".toList ['h'] ['?', '\x7b', 'a', '\x7d'] :=
    ⟨by simp, .mk (by decide) (by decide), by simp [endsAuthority], by simp [endsAuthority]⟩
  refine ⟨a, r, by cbv, ?_, by decide, by rfl, hloc, rfl⟩
  rw [Noted.eq_of_result hr, hnotes]

end Arguments

end CurlScribe
