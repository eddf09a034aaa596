import CurlScribe.Arguments.Scan
import CurlScribe.Proofs.Noted
import CurlScribe.Proofs.Request.Location
import CurlScribe.Request.Build

namespace CurlScribe

open Request

/-- A part has a value or a file, and a value that is the contents of a file has the file. -/
structure Part.WellFormed (p : Part) : Prop where
  one : p.value.isSome = !p.file.isSome
  fromFile : p.fromFile = true → p.file.isSome = true

structure Request.WellFormed (r : Request) : Prop where
  method : r.method.name ≠ ""
  auth : r.auth ≠ .none → ∀ h ∈ r.headers, Text.lower h.1 ≠ "authorization"
  multipartType : ∀ parts, r.body = .multipart parts → ∀ h ∈ r.headers,
    Text.lower h.1 = "content-type" →
      Text.startsWith "multipart/form-data" (Text.lower h.2) = false
  parts : ∀ parts, r.body = .multipart parts → ∀ p ∈ parts, p.WellFormed
  fields : ∀ text fields, r.body = .urlencoded text fields → Url.formFields? text = some fields
  upload : r.uploadFile.isSome = true → r.body = .none
  file : ∀ data path, r.body = .raw data (some path) → data = ""
  authority : '@' ∉ Url.authorityIn r.url.toList

theorem filePart_wellFormed (name : String) (fromFile : Bool) (content : String) :
    (filePart name fromFile content).WellFormed := by
  unfold filePart
  constructor <;> simp

theorem formPart_wellFormed (name content : String) : (formPart name content).WellFormed := by
  unfold formPart
  split
  · exact filePart_wellFormed ..
  · exact filePart_wellFormed ..
  · constructor <;> simp

theorem part?_wellFormed {p : Part} {value : String × String} (h : part? value = some p) :
    p.WellFormed := by
  unfold part? at h
  simp only at h
  split at h
  · cases h
  · cases h
  · split at h
    · cases h
      constructor <;> simp
    · cases h
      exact formPart_wellFormed ..

theorem Part.WellFormed.isVoid {p : Part} (h : p.WellFormed) : p.isVoid = false := by
  obtain ⟨name, value, file, filename, contentType, fromFile⟩ := p
  obtain ⟨hone, hfile⟩ := h
  cases fromFile <;> cases file <;> cases value <;> simp_all [Part.isVoid, Part.source]

theorem formParts_wellFormed {values : List (String × String)} :
    ∀ p ∈ formParts values, p.WellFormed := by
  intro p hp
  obtain ⟨value, -, hvalue⟩ := List.mem_filterMap.1 hp
  exact part?_wellFormed hvalue

theorem dataBody_fields {pieces headers fields : List (String × String)} {text : String}
    (h : dataBody pieces headers = .urlencoded text fields) :
    Url.formFields? text = some fields := by
  unfold dataBody at h
  split at h
  · cases h
  · simp only at h
    split at h
    · rename_i hf
      cases h
      split at hf
      · exact hf
      · cases hf
    · cases h

theorem dataBody_file {pieces headers : List (String × String)} {data path : String}
    (h : dataBody pieces headers = .raw data (some path)) : data = "" := by
  unfold dataBody at h
  split at h
  · cases h
    rfl
  · simp only at h
    split at h <;> cases h

theorem dataBody_ne_multipart {pieces headers : List (String × String)} {parts : List Part} :
    dataBody pieces headers ≠ .multipart parts := by
  unfold dataBody
  split
  · simp
  · simp only
    split <;> simp

namespace Arguments

variable {a : Arguments}

theorem body_cases (a : Arguments) :
    a.body = .none ∨ (∃ pieces, a.body = dataBody pieces a.headers) ∨
      ∃ values, a.payload = .forms values ∧ a.body = .multipart (formParts values) := by
  unfold body
  split
  · exact .inl rfl
  · split
    · exact .inl rfl
    · exact .inr (.inl ⟨_, rfl⟩)
  · exact .inr (.inr ⟨_, ‹_›, rfl⟩)

theorem forms_of_body {parts : List Part} (h : a.body = .multipart parts) :
    ∃ values, a.payload = .forms values ∧ parts = formParts values := by
  rcases a.body_cases with hb | ⟨pieces, hb⟩ | ⟨values, hp, hb⟩
  · rw [hb] at h
    cases h
  · exact absurd (hb ▸ h) dataBody_ne_multipart
  · rw [hb] at h
    cases h
    exact ⟨values, hp, rfl⟩

theorem body_fields {text : String} {fields : List (String × String)}
    (h : a.body = .urlencoded text fields) : Url.formFields? text = some fields := by
  rcases a.body_cases with hb | ⟨pieces, hb⟩ | ⟨values, -, hb⟩
  · rw [hb] at h
    cases h
  · exact dataBody_fields (hb ▸ h)
  · rw [hb] at h
    cases h

theorem body_file {data path : String} (h : a.body = .raw data (some path)) : data = "" := by
  rcases a.body_cases with hb | ⟨pieces, hb⟩ | ⟨values, -, hb⟩
  · rw [hb] at h
    cases h
  · exact dataBody_file (hb ▸ h)
  · rw [hb] at h
    cases h

theorem sentHeaders_of_forms {values : List (String × String)} (h : a.payload = .forms values) :
    a.sentHeaders = withoutMultipartType a.headers := by
  rw [sentHeaders, h]

theorem auth_eq_none {inUrl : Option (String × String)} {headers : List (String × String)}
    (h : hasAuthorization headers = true) : a.auth inUrl headers = .none := by
  rw [auth, if_pos h]

theorem body_of_uploadFile (h : a.uploadFile.isSome = true) : a.body = .none := by
  unfold uploadFile at h
  split at h
  · assumption
  · cases h

theorem location_eq_ok {l : Location} :
    a.location.result = .ok l ↔ ∃ url others, a.urls = url :: others ∧ locate url = .ok l := by
  unfold location
  split
  · rename_i hnil
    simp [hnil]
  · rename_i url others hurls
    simp [Noted.result_bind_eq_ok, hurls]

theorem sentUrl_authority {url : String} {scheme host rest : List Char}
    (h : Url.Located url.toList scheme host rest) :
    Url.authorityIn (a.sentUrl url).toList = host.filter (!Url.isLineOrTab ·) := by
  unfold sentUrl
  split
  · split
    · obtain ⟨_, hadd⟩ := h.addQuery (joinedData _)
      exact hadd.authorityIn
    · exact h.authorityIn
  · exact h.authorityIn

theorem request_eq_ok {r : Request} : a.request.result = .ok r ↔
    ∃ l redirects, a.location.result = .ok l ∧ a.maxRedirects = .ok redirects ∧
      r = { a.requestTo l with maxRedirects := redirects } := by
  unfold request
  simp only [Noted.result_bind_eq_ok, Noted.note, Noted.ofExcept, Except.ok.injEq, Noted.pure_eq]
  constructor
  · rintro ⟨l, hl, -, -, redirects, hredirects, -, -, rfl⟩
    exact ⟨l, redirects, hl, hredirects, rfl⟩
  · rintro ⟨l, redirects, hl, hredirects, rfl⟩
    exact ⟨l, hl, (), trivial, redirects, hredirects, (), trivial, rfl⟩

theorem request_eq_error {f : Request.Fault} : a.request.result = .error f ↔
    a.location.result = .error f ∨
      ∃ l, a.location.result = .ok l ∧ a.maxRedirects = .error f := by
  unfold request
  rcases a.location with ⟨notes, e | l⟩
  · simp
  · rcases a.maxRedirects with e | redirects <;> simp

theorem wellFormed_of_request {r : Request} (h : a.request.result = .ok r) : r.WellFormed := by
  obtain ⟨l, redirects, hl, -, rfl⟩ := request_eq_ok.1 h
  obtain ⟨url, others, -, hl⟩ := location_eq_ok.1 hl
  constructor
  case method => exact a.method.nonempty
  case auth =>
    intro hauth header hm hname
    have : hasAuthorization a.sentHeaders = true :=
      List.any_eq_true.2 ⟨header, hm, decide_eq_true hname⟩
    exact hauth (auth_eq_none this)
  case multipartType =>
    intro parts hbody header hm hname
    obtain ⟨values, hp, -⟩ := forms_of_body hbody
    have hm : header ∈ withoutMultipartType a.headers := sentHeaders_of_forms hp ▸ hm
    have := (List.mem_filter.1 hm).2
    simpa [isMultipartType, hname] using this
  case parts =>
    intro parts hbody
    obtain ⟨values, -, rfl⟩ := forms_of_body hbody
    exact formParts_wellFormed
  case fields =>
    intro text fields hbody
    exact body_fields hbody
  case upload =>
    intro hupload
    exact body_of_uploadFile hupload
  case file =>
    intro data path hbody
    exact body_file hbody
  case authority =>
    obtain ⟨scheme, host, rest, hloc, hat⟩ := locate_located hl
    show '@' ∉ Url.authorityIn (a.sentUrl l.url).toList
    rw [sentUrl_authority hloc]
    intro hm
    exact hat (List.mem_filter.1 hm).1

/-- Whatever the arguments are, the request that they describe is well formed. -/
theorem request_wellFormed {r : Request} (h : a.request.result = .ok r) : r.WellFormed :=
  wellFormed_of_request h

theorem request_wellFormed_form : ∃ a r,
    (parse .curl true ["-u", "me:x", "-Fa=@f;type=t", "http://b:c@h/p", "-H",
      "Content-Type: multipart/form-data"]).result = .ok a ∧
    a.request.result = .ok r ∧
    r.body = .multipart [{ name := "a", file := some "f", contentType := some "t" }] ∧
    r.WellFormed := by
  let a : Arguments := ⟨[⟨"user", false, .word "me:x"⟩, ⟨"form", true, .word "a=@f;type=t"⟩,
    ⟨"header", true, .word "Content-Type: multipart/form-data"⟩], ["http://b:c@h/p"]⟩
  have hl : locate "http://b:c@h/p" = .ok ⟨"http://h/p", some ("b", "c")⟩ :=
    locate_eq_ok.2 ⟨by decide, by cbv, ⟨"http".toList, "b:c@h".toList, "/p".toList, [], []⟩, none,
      by cbv, by cbv, by decide, by cbv; simp, by cbv⟩
  have h : a.request.result = .ok _ :=
    request_eq_ok.2 ⟨_, none, location_eq_ok.2 ⟨_, [], rfl, hl⟩, by cbv, rfl⟩
  have hbody : a.body = .multipart [{ name := "a", file := some "f", contentType := some "t" }] := by
    cbv
  exact ⟨a, _, by cbv, h, hbody, request_wellFormed h⟩

end Arguments

end CurlScribe
