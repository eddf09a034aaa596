import CurlScribe.Conversion
import CurlScribe.Proofs.Request.WellFormed
import CurlScribe.Proofs.Target.Code
import CurlScribe.Proofs.Target.Merge

namespace CurlScribe

open Code (lit)

variable {r : Request} {t : Target} {name : String} {names : List String}

def Request.givenNames (r : Request) : List String := r.headers.map (Text.lower ·.1)

def Request.hasRawBody (r : Request) : Bool := r.body matches .raw _ _

theorem lower_contentType : Text.lower "Content-Type" = "content-type" := by decide

theorem lower_cookie : Text.lower "Cookie" = "cookie" := by decide

theorem lower_authorization : Text.lower "Authorization" = "authorization" := by decide

theorem hasHeader_iff (h : Text.lower name = name) :
    r.hasHeader name = true ↔ name ∈ r.givenNames := by
  simp [Request.hasHeader, Request.header?, lastHeader?, Request.givenNames, h]

theorem mem_map_lower_mergedHeaders :
    name ∈ r.mergedHeaders.map (Text.lower ·.1) ↔ name ∈ r.givenNames :=
  mem_map_lower_mergeHeaders

section Added

theorem map_lower_typeHeader (r : Request) :
    r.typeHeader.map (Text.lower ·.1) = [] ∨
      r.typeHeader.map (Text.lower ·.1) = ["content-type"] ∧ "content-type" ∉ r.givenNames := by
  unfold Request.typeHeader Request.impliedType?
  split
  · exact .inl rfl
  · rename_i hheader
    rw [hasHeader_iff (by decide)] at hheader
    cases r.bodyType? with
    | none => exact .inl rfl
    | some type => exact .inr ⟨congrArg ([·]) lower_contentType, hheader⟩

theorem map_lower_ite_typeHeader (r : Request) (wanted : Bool) :
    (if wanted then r.typeHeader else []).map (Text.lower ·.1) = [] ∨
      (if wanted then r.typeHeader else []).map (Text.lower ·.1) = ["content-type"] ∧
        "content-type" ∉ r.givenNames := by
  cases wanted with
  | false => exact .inl rfl
  | true => exact map_lower_typeHeader r

theorem map_lower_cookieHeaders (h : r.cookies ≠ []) :
    r.cookieHeaders.map (Text.lower ·.1) = ["cookie"] := by
  rw [Request.cookieHeaders, if_neg h]
  exact congrArg ([·]) lower_cookie

theorem not_mem_givenNames_of_auth (hr : r.WellFormed) (h : r.auth ≠ .none) :
    "authorization" ∉ r.givenNames := by
  intro hmem
  obtain ⟨header, hheader, hname⟩ := List.mem_map.1 hmem
  exact hr.auth h header hheader hname

theorem map_lower_bearerHeader (hr : r.WellFormed) :
    r.bearerHeader.map (Text.lower ·.1) = [] ∨
      r.bearerHeader.map (Text.lower ·.1) = ["authorization"] ∧
        "authorization" ∉ r.givenNames := by
  unfold Request.bearerHeader
  split
  · rename_i token hauth
    have hsome : r.auth ≠ .none := by simp [hauth]
    exact .inr ⟨congrArg ([·]) lower_authorization, not_mem_givenNames_of_auth hr hsome⟩
  · exact .inl rfl

end Added

namespace Target

/-- Whether the Cookie header made of the cookies takes the place of one that is given, which is
spelled in the same way. -/
def ReplacesCookie (t : Target) (r : Request) : Prop :=
  t = .ansible ∧ r.cookies ≠ [] ∧ "Cookie" ∈ r.mergedHeaders.map (·.1)

/-- Whether a Cookie header made of the cookies stands beside those that are given. -/
def AddsCookie (t : Target) (r : Request) : Prop :=
  t ≠ .python ∧ r.cookies ≠ [] ∧ ¬ t.ReplacesCookie r

/-- The names in lower case that a target may add to those that are given: each is new, except that
of a Cookie header. -/
structure Adds (t : Target) (r : Request) (names : List String) : Prop where
  nodup : names.Nodup
  new : ∀ name ∈ names, name ∈ r.givenNames → name = "cookie"
  cookie : "cookie" ∈ names ↔ t.AddsCookie r

theorem Adds.of_perm {type cookie auth : List String}
    (htype : type = [] ∨ type = ["content-type"] ∧ "content-type" ∉ r.givenNames)
    (hcookie : cookie = [] ∧ ¬ t.AddsCookie r ∨ cookie = ["cookie"] ∧ t.AddsCookie r)
    (hauth : auth = [] ∨ auth = ["authorization"] ∧ "authorization" ∉ r.givenNames)
    (hnames : names.Perm (type ++ cookie ++ auth)) : t.Adds r names := by
  constructor
  case nodup =>
    rw [hnames.nodup_iff]
    rcases htype with rfl | ⟨rfl, -⟩ <;> rcases hcookie with ⟨rfl, -⟩ | ⟨rfl, -⟩ <;>
      rcases hauth with rfl | ⟨rfl, -⟩ <;> simp
  case new =>
    intro name hname hgiven
    rw [hnames.mem_iff, List.mem_append, List.mem_append] at hname
    rcases hname with (hname | hname) | hname
    · rcases htype with rfl | ⟨rfl, hnew⟩
      · cases hname
      · exact absurd (List.mem_singleton.1 hname ▸ hgiven) hnew
    · rcases hcookie with ⟨rfl, -⟩ | ⟨rfl, -⟩
      · cases hname
      · exact List.mem_singleton.1 hname
    · rcases hauth with rfl | ⟨rfl, hnew⟩
      · cases hname
      · exact absurd (List.mem_singleton.1 hname ▸ hgiven) hnew
  case cookie =>
    rw [hnames.mem_iff]
    rcases htype with rfl | ⟨rfl, -⟩ <;> rcases hcookie with ⟨rfl, h⟩ | ⟨rfl, h⟩ <;>
      rcases hauth with rfl | ⟨rfl, -⟩ <;> simp [h]

theorem Adds.nodup_append (h : t.Adds r names) :
    (r.mergedHeaders.map (Text.lower ·.1) ++ names).Nodup ↔
      ¬ (t.AddsCookie r ∧ r.hasHeader "cookie" = true) := by
  rw [List.nodup_append, hasHeader_iff (by decide), ← h.cookie]
  constructor
  · rintro ⟨-, -, hapart⟩ ⟨hmem, hgiven⟩
    exact hapart _ (mem_map_lower_mergedHeaders.2 hgiven) _ hmem rfl
  · intro hnot
    refine ⟨nodup_mergeHeaders _, h.nodup, ?_⟩
    rintro given hgiven _ hmem rfl
    have hgiven := mem_map_lower_mergedHeaders.1 hgiven
    have hcookie := h.new given hmem hgiven
    exact hnot ⟨hcookie ▸ hmem, hcookie ▸ hgiven⟩

def headerEntries? (r : Request) : Target → Option (List (String × Code))
  | .python => some (RequestsScript.literals (RequestsScript.headers r))
  | .javascript => some (FetchCall.headers .browser r)
  | .node => some (FetchCall.headers .node r)
  | .nodeAxios => some (AxiosCall.headers r)
  | .ansible => some (ObjectLiteral.literals (AnsiblePlaybook.headers r))
  | _ => none

end Target

@[simp] theorem map_lower_literals (items : List (String × String)) :
    (ObjectLiteral.literals items).map (Text.lower ·.1) = items.map (Text.lower ·.1) := by
  rw [ObjectLiteral.literals, List.map_map]
  rfl

theorem mem_literals {value : String} {items : List (String × String)} (h : (name, value) ∈ items) :
    (name, lit value) ∈ ObjectLiteral.literals items :=
  List.mem_map.2 ⟨(name, value), h, rfl⟩

namespace RequestsScript

theorem literals_eq (items : List (String × String)) :
    literals items = ObjectLiteral.literals items := rfl

theorem headers_eq (r : Request) : headers r =
    r.mergedHeaders ++ (if r.hasRawBody then r.typeHeader else []) ++ r.bearerHeader := rfl

theorem adds_headers (hr : r.WellFormed) : ∃ names, Target.python.Adds r names ∧
    (literals (headers r)).map (Text.lower ·.1) =
      r.mergedHeaders.map (Text.lower ·.1) ++ names := by
  have hnone : ¬ Target.python.AddsCookie r := fun h => h.1 rfl
  refine ⟨_, .of_perm (map_lower_ite_typeHeader r r.hasRawBody) (.inl ⟨rfl, hnone⟩)
    (map_lower_bearerHeader hr) (.refl _), ?_⟩
  rw [literals_eq, map_lower_literals, headers_eq, List.map_append, List.map_append,
    List.append_nil, List.append_assoc]

end RequestsScript

theorem cookie_of_ne (hpython : t ≠ .python) (hansible : t ≠ .ansible) :
    r.cookieHeaders.map (Text.lower ·.1) = [] ∧ ¬ t.AddsCookie r ∨
      r.cookieHeaders.map (Text.lower ·.1) = ["cookie"] ∧ t.AddsCookie r := by
  by_cases hcookies : r.cookies = []
  · refine .inl ⟨?_, fun h => h.2.1 hcookies⟩
    rw [Request.cookieHeaders, if_pos hcookies]
    rfl
  · exact .inr ⟨map_lower_cookieHeaders hcookies, hpython, hcookies, fun h => hansible h.1⟩

namespace FetchCall

def authHeader (platform : Platform) (r : Request) : List (String × Code) :=
  ObjectLiteral.literals r.bearerHeader ++
    match r.auth with
    | .basic user password => [("Authorization", basicHeader platform user password)]
    | _ => []

theorem headers_eq (platform : Platform) (r : Request) : headers platform r =
    ObjectLiteral.literals (r.mergedHeaders ++ r.typeHeader ++ r.cookieHeaders) ++
      authHeader platform r := by
  rw [headers, authHeader, ObjectLiteral.literals, ObjectLiteral.literals, List.map_append,
    List.append_assoc]
  rfl

theorem map_lower_authHeader (hr : r.WellFormed) (platform : Platform) :
    (authHeader platform r).map (Text.lower ·.1) = [] ∨
      (authHeader platform r).map (Text.lower ·.1) = ["authorization"] ∧
        "authorization" ∉ r.givenNames := by
  rw [authHeader, List.map_append, map_lower_literals]
  cases hauth : r.auth with
  | basic user password =>
    have hbearer : r.bearerHeader = [] := by rw [Request.bearerHeader, hauth]
    rw [hbearer]
    exact .inr ⟨congrArg ([·]) lower_authorization,
      not_mem_givenNames_of_auth hr (hauth ▸ nofun)⟩
  | _ =>
    rw [List.map_nil, List.append_nil]
    exact map_lower_bearerHeader hr

theorem adds_headers (hr : r.WellFormed) (platform : Platform) :
    ∃ names, platform.target.Adds r names ∧ (headers platform r).map (Text.lower ·.1) =
      r.mergedHeaders.map (Text.lower ·.1) ++ names := by
  have hpython : platform.target ≠ .python := by cases platform <;> decide
  have hansible : platform.target ≠ .ansible := by cases platform <;> decide
  refine ⟨_, .of_perm (map_lower_typeHeader r) (cookie_of_ne hpython hansible)
    (map_lower_authHeader hr platform) (.refl _), ?_⟩
  simp [headers_eq]

end FetchCall

namespace AxiosCall

theorem adds_headers (hr : r.WellFormed) : ∃ names, Target.nodeAxios.Adds r names ∧
    (headers r).map (Text.lower ·.1) = r.mergedHeaders.map (Text.lower ·.1) ++ names := by
  refine ⟨_, .of_perm (map_lower_typeHeader r) (cookie_of_ne (by decide) (by decide))
    (map_lower_bearerHeader hr) (.refl _), ?_⟩
  simp [headers]

end AxiosCall

namespace AnsiblePlaybook

def withCookie (r : Request) : List (String × String) :=
  if r.cookies = [] then r.mergedHeaders else Fields.put "Cookie" r.cookieHeader r.mergedHeaders

def lastHeaders (r : Request) : List (String × String) :=
  r.bearerHeader ++ if r.hasRawBody then r.typeHeader else []

theorem nodup_names (r : Request) : (r.mergedHeaders.map (·.1)).Nodup :=
  .of_map Text.lower (by
    rw [List.map_map]
    exact nodup_mergeHeaders r.headers)

theorem nodup_withCookie (r : Request) : ((withCookie r).map (·.1)).Nodup := by
  unfold withCookie
  split
  · exact nodup_names r
  · exact Fields.nodup_put (nodup_names r)

theorem mem_withCookie {item : String × String} (hcookies : r.cookies ≠ []) :
    item ∈ withCookie r ↔
      item = ("Cookie", r.cookieHeader) ∨ item.1 ≠ "Cookie" ∧ item ∈ r.mergedHeaders := by
  rw [withCookie, if_neg hcookies]
  exact Fields.mem_put (nodup_names r)

theorem map_lower_lastHeaders (r : Request) : (lastHeaders r).map (Text.lower ·.1) =
    r.bearerHeader.map (Text.lower ·.1) ++
      (if r.hasRawBody then r.typeHeader else []).map (Text.lower ·.1) :=
  List.map_append

theorem adds_lastHeaders (hr : r.WellFormed) :
    Target.python.Adds r ((lastHeaders r).map (Text.lower ·.1)) := by
  refine .of_perm (map_lower_ite_typeHeader r r.hasRawBody)
    (.inl ⟨rfl, fun h => h.1 rfl⟩) (map_lower_bearerHeader hr) ?_
  rw [map_lower_lastHeaders, List.append_nil]
  exact List.perm_append_comm

theorem lower_of_mem_withCookie {item : String × String} (h : item ∈ withCookie r) :
    Text.lower item.1 = "cookie" ∨ Text.lower item.1 ∈ r.givenNames := by
  have hmerged (hitem : item ∈ r.mergedHeaders) : Text.lower item.1 ∈ r.givenNames :=
    mem_map_lower_mergedHeaders.1 (List.mem_map_of_mem hitem)
  by_cases hcookies : r.cookies = []
  · rw [withCookie, if_pos hcookies] at h
    exact .inr (hmerged h)
  · rcases (mem_withCookie hcookies).1 h with rfl | ⟨-, hitem⟩
    · exact .inl lower_cookie
    · exact .inr (hmerged hitem)

theorem headers_eq (hr : r.WellFormed) : headers r = withCookie r ++ lastHeaders r := by
  have hadds := adds_lastHeaders hr
  have hlast : ((lastHeaders r).map (·.1)).Nodup :=
    .of_map Text.lower (by
      rw [List.map_map]
      exact hadds.nodup)
  have hnodup : ((withCookie r ++ lastHeaders r).map (·.1)).Nodup := by
    rw [List.map_append, List.nodup_append]
    refine ⟨nodup_withCookie r, hlast, ?_⟩
    rintro key hkey _ hadded rfl
    obtain ⟨item, hitem, rfl⟩ := List.mem_map.1 hkey
    obtain ⟨added, hadded, hname⟩ := List.mem_map.1 hadded
    have hmem : Text.lower item.1 ∈ (lastHeaders r).map (Text.lower ·.1) :=
      hname ▸ List.mem_map_of_mem hadded
    have hcookie : Text.lower item.1 ≠ "cookie" := by
      intro heq
      exact (hadds.cookie.1 (heq ▸ hmem)).1 rfl
    rcases lower_of_mem_withCookie hitem with heq | hgiven
    · exact hcookie heq
    · exact hcookie (hadds.new _ hmem hgiven)
  have hwith : Fields.putAll r.mergedHeaders r.cookieHeaders = withCookie r := by
    unfold Request.cookieHeaders withCookie
    split <;> rfl
  calc headers r
    _ = Fields.ofItems (r.mergedHeaders ++ r.cookieHeaders ++ r.bearerHeader ++
        if r.hasRawBody then r.typeHeader else []) := rfl
    _ = Fields.ofItems (r.mergedHeaders ++ (r.cookieHeaders ++ lastHeaders r)) := by
      rw [lastHeaders, List.append_assoc, List.append_assoc]
    _ = Fields.putAll (withCookie r) (lastHeaders r) := by
      rw [Fields.ofItems_append, Fields.ofItems_of_nodup (nodup_names r), Fields.putAll_append,
        hwith]
    _ = withCookie r ++ lastHeaders r := Fields.putAll_of_nodup hnodup

theorem map_lower_withCookie (r : Request) : ∃ cookie,
    (cookie = [] ∧ ¬ Target.ansible.AddsCookie r ∨
      cookie = ["cookie"] ∧ Target.ansible.AddsCookie r) ∧
    (withCookie r).map (Text.lower ·.1) = r.mergedHeaders.map (Text.lower ·.1) ++ cookie := by
  by_cases hcookies : r.cookies = []
  · refine ⟨[], .inl ⟨rfl, fun h => h.2.1 hcookies⟩, ?_⟩
    rw [withCookie, if_pos hcookies, List.append_nil]
  · rw [withCookie, if_neg hcookies]
    by_cases hmem : "Cookie" ∈ r.mergedHeaders.map (·.1)
    · refine ⟨[], .inl ⟨rfl, fun h => h.2.2 ⟨rfl, hcookies, hmem⟩⟩, ?_⟩
      have hkeys : (Fields.put "Cookie" r.cookieHeader r.mergedHeaders).map (·.1) =
          r.mergedHeaders.map (·.1) := Fields.map_fst_put_of_mem hmem
      have hlower := congrArg (List.map Text.lower) hkeys
      rw [List.map_map, List.map_map] at hlower
      rw [List.append_nil]
      exact hlower
    · refine ⟨["cookie"], .inr ⟨rfl, nofun, hcookies, fun h => hmem h.2.2⟩, ?_⟩
      rw [Fields.put_of_not_mem hmem, List.map_append]
      exact congrArg (_ ++ [·]) lower_cookie

theorem adds_headers (hr : r.WellFormed) : ∃ names, Target.ansible.Adds r names ∧
    (ObjectLiteral.literals (headers r)).map (Text.lower ·.1) =
      r.mergedHeaders.map (Text.lower ·.1) ++ names := by
  obtain ⟨cookie, hcookie, hnames⟩ := map_lower_withCookie r
  refine ⟨cookie ++ (lastHeaders r).map (Text.lower ·.1), ?_, ?_⟩
  · refine .of_perm (map_lower_ite_typeHeader r r.hasRawBody) hcookie
      (map_lower_bearerHeader hr) ?_
    rw [map_lower_lastHeaders, ← List.append_assoc, List.append_assoc _ cookie]
    exact List.perm_append_comm
  · rw [map_lower_literals, headers_eq hr, List.map_append, hnames, List.append_assoc]

end AnsiblePlaybook

namespace Target

variable {entries : List (String × Code)}

theorem adds_entries (hr : r.WellFormed) (h : t.headerEntries? r = some entries) :
    ∃ names, t.Adds r names ∧
      entries.map (Text.lower ·.1) = r.mergedHeaders.map (Text.lower ·.1) ++ names := by
  cases t <;> cases h
  case ansible => exact AnsiblePlaybook.adds_headers hr
  case javascript => exact FetchCall.adds_headers hr .browser
  case node => exact FetchCall.adds_headers hr .node
  case nodeAxios => exact AxiosCall.adds_headers hr
  case python => exact RequestsScript.adds_headers hr

theorem nodup_entries (hr : r.WellFormed) (h : t.headerEntries? r = some entries) :
    (entries.map (Text.lower ·.1)).Nodup ↔ ¬ (t.AddsCookie r ∧ r.hasHeader "cookie" = true) := by
  obtain ⟨names, hadds, hnames⟩ := adds_entries hr h
  rw [hnames, hadds.nodup_append]

theorem mem_entries (hr : r.WellFormed) (h : t.headerEntries? r = some entries) {value : String}
    (hmem : (name, value) ∈ r.mergedHeaders) (hkept : t.ReplacesCookie r → name ≠ "Cookie") :
    (name, lit value) ∈ entries := by
  cases t <;> cases h
  case ansible =>
    apply mem_literals
    rw [AnsiblePlaybook.headers_eq hr]
    apply List.mem_append_left
    by_cases hcookies : r.cookies = []
    · rwa [AnsiblePlaybook.withCookie, if_pos hcookies]
    · refine (AnsiblePlaybook.mem_withCookie hcookies).2 (.inr ⟨fun hname => ?_, hmem⟩)
      exact hkept ⟨rfl, hcookies, List.mem_map.2 ⟨_, hmem, hname⟩⟩ hname
  case javascript | node =>
    rw [FetchCall.headers_eq]
    apply List.mem_append_left
    apply mem_literals
    simp [hmem]
  case nodeAxios =>
    apply mem_literals
    simp [hmem]
  case python =>
    apply mem_literals
    simp [RequestsScript.headers, hmem]

theorem cookie_mem_entries (hr : r.WellFormed) (h : t.headerEntries? r = some entries)
    (hpython : t ≠ .python) (hcookies : r.cookies ≠ []) :
    ("Cookie", lit r.cookieHeader) ∈ entries := by
  have hmem : ("Cookie", r.cookieHeader) ∈ r.cookieHeaders := by
    simp [Request.cookieHeaders, hcookies]
  cases t <;> cases h
  case ansible =>
    apply mem_literals
    rw [AnsiblePlaybook.headers_eq hr]
    exact List.mem_append_left _ ((AnsiblePlaybook.mem_withCookie hcookies).2 (.inl rfl))
  case javascript | node =>
    rw [FetchCall.headers_eq]
    apply List.mem_append_left
    apply mem_literals
    simp [hmem]
  case nodeAxios =>
    apply mem_literals
    simp [hmem]
  case python => exact absurd rfl hpython

theorem exists_mem_entries (hr : r.WellFormed) (h : t.headerEntries? r = some entries)
    {header : String × String} (hheader : header ∈ r.headers)
    (hkept : t.ReplacesCookie r → Text.lower header.1 ≠ "cookie") :
    ∃ e ∈ entries, Text.lower e.1 = Text.lower header.1 ∧
      e.2 = lit (Text.joined ", " (headerValues r.headers header.1)) := by
  obtain ⟨name, hname, hmem⟩ := exists_mem_mergeHeaders hheader
  refine ⟨_, mem_entries hr h hmem fun hreplaces heq => hkept hreplaces ?_, hname, rfl⟩
  rw [← hname, heq, lower_cookie]

theorem eq_of_replacesCookie (hr : r.WellFormed) (h : t.headerEntries? r = some entries)
    (hreplaces : t.ReplacesCookie r) {e : String × Code} (he : e ∈ entries)
    (hname : Text.lower e.1 = "cookie") : e = ("Cookie", lit r.cookieHeader) := by
  have hpython : t ≠ .python := by
    rintro rfl
    cases hreplaces.1
  have hnodup := (nodup_entries hr h).2 fun hadds => hadds.1.2.2 hreplaces
  exact List.inj_on_of_nodup_map hnodup he
    (cookie_mem_entries hr h hpython hreplaces.2.1) (hname.trans lower_cookie.symm)

end Target

end CurlScribe
