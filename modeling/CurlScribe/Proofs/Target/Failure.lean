import CurlScribe.Conversion
import CurlScribe.Proofs.Number.Overflow
import CurlScribe.Proofs.Request.Relocation

namespace CurlScribe

open Target Url

variable {r : Request} {f : Target.Fault}

namespace Target

/-- What a target has no form for: a module that reads no standard input, and a file of tests that
holds no other files. -/
def Inexpressible (r : Request) : Target → Prop
  | .ansible => (∃ data, r.body = .raw data (some "-")) ∨ r.uploadFile = some "-"
  | .strest =>
    r.uploadFile.isSome = true ∨ (∃ data path, r.body = .raw data (some path)) ∨
      ∃ parts, r.body = .multipart parts ∧ ∃ p ∈ parts, p.file.isSome = true
  | _ => False

def timesInMilliseconds (r : Request) : Target → List Binary64
  | .go | .javascript | .node | .nodeAxios => r.timeout.toList
  | .php => r.timeout.toList ++ r.connectTimeout.toList
  | _ => []

def splitsUrl : Target → Bool
  | .ansible | .json | .strest => true
  | _ => false

def TooLong (time : Binary64) : Prop := Binary64.overflow ≤ time.size * 1000

def TimesFit (t : Target) (r : Request) : Prop := ∀ x ∈ t.timesInMilliseconds r, ¬ TooLong x

def UrlSplits (t : Target) (r : Request) : Prop :=
  t.splitsUrl = true → Paired (authorityIn r.url.toList)

end Target

section Faults

theorem tooLong_iff {x : Binary64} : TooLong x ↔ x.times? 1000 = none := by
  rw [Binary64.times?_eq_none_iff, TooLong, Nat.cast_ofNat]

theorem milliseconds_eq_error {x : Binary64} :
    milliseconds x = .error f ↔ TooLong x ∧ f = .tooLong x := by
  rw [tooLong_iff, milliseconds]
  cases x.times? 1000 <;> simp [eq_comm]

theorem mapM_milliseconds_eq_error {time : Option Binary64} :
    time.mapM milliseconds = .error f ↔
      ∃ x ∈ time, TooLong x ∧ f = .tooLong x := by
  cases time with
  | none => simp [pure, Except.pure]
  | some x => simp [map_eq_error_iff, milliseconds_eq_error]

theorem exists_mapM_milliseconds_eq_ok {time : Option Binary64} :
    (∃ ms, time.mapM milliseconds = .ok ms) ↔
      ∀ x ∈ time, ¬ TooLong x := by
  simp only [exists_eq_ok_iff, Ne, mapM_milliseconds_eq_error]
  constructor
  · intro h x hx hlong
    exact h _ ⟨x, hx, hlong, rfl⟩
  · rintro h f ⟨x, hx, hlong, -⟩
    exact h x hx hlong

theorem mapError_badUrl_eq_error {s : String} :
    (Url.ofString s).mapError Target.Fault.badUrl = .error f ↔
      ∃ reason, Url.ofString s = .error reason ∧ f = .badUrl reason := by
  simp only [mapError_eq_error_iff, eq_comm (b := f)]

theorem mapM_proxyAddress_eq_error {proxy : Option String} :
    proxy.mapM ProxyAddress.ofString = .error f ↔
      ∃ p ∈ proxy, ∃ reason, Url.ofString (proxyUrl p) = .error reason ∧ f = .badUrl reason := by
  cases proxy with
  | none => simp [pure, Except.pure]
  | some p =>
    simp [ProxyAddress.ofString, bind_eq_error_iff, mapError_badUrl_eq_error, pure, Except.pure]

theorem checkParts_of_wellFormed (h : ∀ parts, r.body = .multipart parts → ∀ p ∈ parts,
    p.WellFormed) : r.checkParts = .ok () := by
  unfold Request.checkParts
  split
  · rename_i parts _ hparts
    have hnone : parts.find? (·.isVoid) = none := by
      rw [List.find?_eq_none]
      intro p hp
      simp [(h parts hparts p hp).isVoid]
    rw [hnone]
  · rfl

end Faults

theorem GoProgram.write_eq_error : (GoProgram.write r).result = .error f ↔
    ∃ x ∈ r.timeout, TooLong x ∧ f = .tooLong x := by
  simp [GoProgram.write, Noted.result_bind_eq_error, mapM_milliseconds_eq_error]

theorem FetchCall.write_eq_error {platform : FetchCall.Platform} :
    (FetchCall.write platform r).result = .error f ↔
      ∃ x ∈ r.timeout, TooLong x ∧ f = .tooLong x := by
  simp [FetchCall.write, Noted.result_bind_eq_error, mapM_milliseconds_eq_error]

theorem AxiosCall.write_eq_error : (AxiosCall.write r).result = .error f ↔
    (∃ x ∈ r.timeout, TooLong x ∧ f = .tooLong x) ∨
    (∀ x ∈ r.timeout, ¬ TooLong x) ∧
      ∃ p ∈ r.proxy, ∃ reason, Url.ofString (proxyUrl p) = .error reason ∧
        f = .badUrl reason := by
  simp only [← exists_mapM_milliseconds_eq_ok, ← mapM_milliseconds_eq_error,
    ← mapM_proxyAddress_eq_error]
  simp [AxiosCall.write, Noted.result_bind_eq_error]

theorem PhpScript.write_eq_error (hparts : r.checkParts = .ok ()) :
    (PhpScript.write r).result = .error f ↔
      (∃ x ∈ r.timeout, TooLong x ∧ f = .tooLong x) ∨
      (∀ x ∈ r.timeout, ¬ TooLong x) ∧
        ∃ x ∈ r.connectTimeout, TooLong x ∧ f = .tooLong x := by
  simp only [← exists_mapM_milliseconds_eq_ok, ← mapM_milliseconds_eq_error]
  simp [PhpScript.write, Noted.result_bind_eq_error, hparts]

theorem RequestsScript.write_ne_error : (RequestsScript.write r).result ≠ .error f := by
  simp [RequestsScript.write]

theorem RubyScript.write_eq_error (hparts : r.checkParts = .ok ()) :
    (RubyScript.write r).result = .error f ↔
      ∃ p ∈ r.proxy, ∃ reason, Url.ofString (proxyUrl p) = .error reason ∧
        f = .badUrl reason := by
  rw [← mapM_proxyAddress_eq_error]
  simp [RubyScript.write, Noted.result_bind_eq_error, hparts]

theorem JsonDocument.write_eq_error : (JsonDocument.write r).result = .error f ↔
    ∃ reason, Url.ofString r.url = .error reason ∧ f = .badUrl reason := by
  simp [JsonDocument.write, Noted.result_bind_eq_error, mapError_badUrl_eq_error]

theorem AnsiblePlaybook.write_eq_error : (AnsiblePlaybook.write r).result = .error f ↔
    (∃ data, r.body = .raw data (some "-")) ∧ f = .bodyFromInput ∨
    (∀ data, r.body ≠ .raw data (some "-")) ∧ r.uploadFile = some "-" ∧ f = .uploadFromInput ∨
    (∀ data, r.body ≠ .raw data (some "-")) ∧ r.uploadFile ≠ some "-" ∧
      ∃ reason, Url.ofString r.url = .error reason ∧ f = .badUrl reason := by
  unfold AnsiblePlaybook.write
  simp only [← mapError_badUrl_eq_error]
  split
  · rename_i data hbody
    simp [hbody, eq_comm (b := f)]
  · rename_i hbody
    have hbody : ∀ data, r.body ≠ .raw data (some "-") := hbody
    by_cases hupload : r.uploadFile = some "-"
    · simp [hbody, hupload, eq_comm (b := f)]
    · simp [hbody, hupload, Noted.result_bind_eq_error]

theorem StrestFile.mapM_partValue_eq_error {parts : List Part} :
    parts.mapM partValue = .error f ↔ (∃ p ∈ parts, p.file.isSome = true) ∧ f = .partFromFile := by
  induction parts with
  | nil => simp [pure, Except.pure]
  | cons p parts ih =>
    rw [List.mapM_cons, bind_eq_error_iff]
    cases hfile : p.file with
    | some path =>
      have hpart : partValue p = .error .partFromFile := by rw [partValue, hfile]
      simp [hpart, hfile, eq_comm (b := f)]
    | none =>
      have hpart : partValue p = .ok (p.name, .ofOption p.value) := by rw [partValue, hfile]
      simp [hpart, hfile, map_eq_error_iff, ih]

theorem StrestFile.postData_eq_error : postData r = .error f ↔
    r.uploadFile.isSome = true ∧ f = .uploadOfFile ∨
    r.uploadFile = none ∧ (∃ data path, r.body = .raw data (some path)) ∧ f = .bodyFromFile ∨
    r.uploadFile = none ∧ (∃ parts, r.body = .multipart parts ∧ ∃ p ∈ parts, p.file.isSome = true) ∧
      f = .partFromFile := by
  unfold postData
  cases hupload : r.uploadFile with
  | some path => simp [eq_comm (b := f)]
  | none =>
    cases hbody : r.body with
    | none => simp
    | urlencoded text fields => simp
    | raw data file => cases file <;> simp [eq_comm (b := f)]
    | multipart parts => simp [map_eq_error_iff, mapM_partValue_eq_error]

theorem StrestFile.write_eq_error : (StrestFile.write r).result = .error f ↔
    (∃ reason, Url.ofString r.url = .error reason ∧ f = .badUrl reason) ∨
    (∃ u, Url.ofString r.url = .ok u) ∧ postData r = .error f := by
  simp [StrestFile.write, Noted.result_bind_eq_error, mapError_badUrl_eq_error,
    mapError_eq_ok_iff]

/-- What arguments without a proxy ensure of their request: nothing but its shape, its times and the
brackets of its URL can keep it from being written. -/
structure Request.Sound (r : Request) : Prop where
  proxy : r.proxy = none
  parts : r.checkParts = .ok ()
  url : (∃ u, Url.ofString r.url = .ok u) ↔ Paired (authorityIn r.url.toList)

namespace Target

variable {t : Target}

theorem not_urlSplits_iff (hr : r.Sound) :
    ¬ t.UrlSplits r ↔ t.splitsUrl = true ∧ ∃ reason, Url.ofString r.url = .error reason := by
  rw [UrlSplits, ← hr.url, Classical.not_imp]
  cases Url.ofString r.url <;> simp

theorem cases_of_write_eq_error (hr : r.Sound) (h : (t.write r).result = .error f) :
    (t.Inexpressible r ∧ (t = .strest → t.UrlSplits r) ∧
        (Failure.target t f).isUnforeseen = false) ∨
      (∃ x ∈ t.timesInMilliseconds r, TooLong x ∧ f = .tooLong x) ∨
      ¬ t.UrlSplits r ∧ ∃ reason, f = .badUrl reason := by
  cases t with
  | ansible =>
    rcases AnsiblePlaybook.write_eq_error.1 h with
      ⟨hbody, rfl⟩ | ⟨-, hupload, rfl⟩ | ⟨-, -, reason, hreason, rfl⟩
    · exact .inl ⟨.inl hbody, nofun, rfl⟩
    · exact .inl ⟨.inr hupload, nofun, rfl⟩
    · exact .inr (.inr ⟨(not_urlSplits_iff hr).2 ⟨rfl, reason, hreason⟩, reason, rfl⟩)
  | go =>
    obtain ⟨x, hx, hlong⟩ := GoProgram.write_eq_error.1 h
    exact .inr (.inl ⟨x, Option.mem_toList.2 hx, hlong⟩)
  | javascript =>
    obtain ⟨x, hx, hlong⟩ := FetchCall.write_eq_error.1 h
    exact .inr (.inl ⟨x, Option.mem_toList.2 hx, hlong⟩)
  | json =>
    obtain ⟨reason, hreason, rfl⟩ := JsonDocument.write_eq_error.1 h
    exact .inr (.inr ⟨(not_urlSplits_iff hr).2 ⟨rfl, reason, hreason⟩, reason, rfl⟩)
  | node =>
    obtain ⟨x, hx, hlong⟩ := FetchCall.write_eq_error.1 h
    exact .inr (.inl ⟨x, Option.mem_toList.2 hx, hlong⟩)
  | nodeAxios =>
    rcases AxiosCall.write_eq_error.1 h with ⟨x, hx, hlong⟩ | ⟨-, p, hp, -⟩
    · exact .inr (.inl ⟨x, Option.mem_toList.2 hx, hlong⟩)
    · simp [hr.proxy] at hp
  | php =>
    rcases (PhpScript.write_eq_error hr.parts).1 h with ⟨x, hx, hlong⟩ | ⟨-, x, hx, hlong⟩
    · exact .inr (.inl ⟨x, List.mem_append_left _ (Option.mem_toList.2 hx), hlong⟩)
    · exact .inr (.inl ⟨x, List.mem_append_right _ (Option.mem_toList.2 hx), hlong⟩)
  | python => exact absurd h RequestsScript.write_ne_error
  | ruby =>
    obtain ⟨p, hp, -⟩ := (RubyScript.write_eq_error hr.parts).1 h
    simp [hr.proxy] at hp
  | strest =>
    rcases StrestFile.write_eq_error.1 h with ⟨reason, hreason, rfl⟩ | ⟨hsplits, hdata⟩
    · exact .inr (.inr ⟨(not_urlSplits_iff hr).2 ⟨rfl, reason, hreason⟩, reason, rfl⟩)
    · have hsplits : UrlSplits .strest r := fun _ => hr.url.1 hsplits
      rcases StrestFile.postData_eq_error.1 hdata with
        ⟨hupload, rfl⟩ | ⟨-, hbody, rfl⟩ | ⟨-, hbody, rfl⟩
      · exact .inl ⟨.inl hupload, fun _ => hsplits, rfl⟩
      · exact .inl ⟨.inr (.inl hbody), fun _ => hsplits, rfl⟩
      · exact .inl ⟨.inr (.inr hbody), fun _ => hsplits, rfl⟩

theorem write_of_inexpressible (hr : r.Sound) (h : t.Inexpressible r)
    (hsplits : t = .strest → t.UrlSplits r) :
    ∃ f, (t.write r).result = .error f ∧ (Failure.target t f).isUnforeseen = false := by
  cases t with
  | ansible =>
    by_cases hbody : ∃ data, r.body = .raw data (some "-")
    · exact ⟨_, AnsiblePlaybook.write_eq_error.2 (.inl ⟨hbody, rfl⟩), rfl⟩
    · have hupload := h.resolve_left hbody
      rw [not_exists] at hbody
      exact ⟨_, AnsiblePlaybook.write_eq_error.2 (.inr (.inl ⟨hbody, hupload, rfl⟩)), rfl⟩
  | strest =>
    have hsplits := hr.url.2 (hsplits rfl rfl)
    have hwrite {f : Target.Fault} (hdata : StrestFile.postData r = .error f) :=
      StrestFile.write_eq_error.2 (.inr ⟨hsplits, hdata⟩)
    cases hupload : r.uploadFile with
    | some path =>
      have hsome : r.uploadFile.isSome = true := by rw [hupload, Option.isSome_some]
      exact ⟨_, hwrite (StrestFile.postData_eq_error.2 (.inl ⟨hsome, rfl⟩)), rfl⟩
    | none =>
      rcases h with h | hbody | hbody
      · rw [hupload] at h
        cases h
      · exact ⟨_, hwrite (StrestFile.postData_eq_error.2 (.inr (.inl ⟨hupload, hbody, rfl⟩))), rfl⟩
      · exact ⟨_, hwrite (StrestFile.postData_eq_error.2 (.inr (.inr ⟨hupload, hbody, rfl⟩))), rfl⟩
  | _ => exact h.elim

theorem write_of_tooLong {x : Binary64} (hr : r.Sound) (hx : x ∈ t.timesInMilliseconds r)
    (hlong : TooLong x) : ∃ f, (t.write r).result = .error f := by
  cases t with
  | go =>
    exact ⟨_, GoProgram.write_eq_error.2 ⟨x, Option.mem_toList.1 hx, hlong, rfl⟩⟩
  | javascript =>
    exact ⟨_, FetchCall.write_eq_error.2 ⟨x, Option.mem_toList.1 hx, hlong, rfl⟩⟩
  | node =>
    exact ⟨_, FetchCall.write_eq_error.2 ⟨x, Option.mem_toList.1 hx, hlong, rfl⟩⟩
  | nodeAxios =>
    exact ⟨_, AxiosCall.write_eq_error.2 (.inl ⟨x, Option.mem_toList.1 hx, hlong, rfl⟩)⟩
  | php =>
    by_cases hfits : ∀ y ∈ r.timeout, ¬ TooLong y
    · rcases List.mem_append.1 hx with hx | hx
      · exact absurd hlong (hfits x (Option.mem_toList.1 hx))
      · exact ⟨_, (PhpScript.write_eq_error hr.parts).2
          (.inr ⟨hfits, x, Option.mem_toList.1 hx, hlong, rfl⟩)⟩
    · push Not at hfits
      obtain ⟨y, hy, hlong⟩ := hfits
      exact ⟨_, (PhpScript.write_eq_error hr.parts).2 (.inl ⟨y, hy, hlong, rfl⟩)⟩
  | _ => cases hx

theorem write_of_not_urlSplits (hr : r.Sound) (h : ¬ t.UrlSplits r) :
    ∃ f, (t.write r).result = .error f := by
  obtain ⟨hsplits, reason, hreason⟩ := (not_urlSplits_iff hr).1 h
  cases t with
  | ansible =>
    by_cases hshape : Inexpressible r .ansible
    · obtain ⟨f, hf, -⟩ := write_of_inexpressible hr hshape nofun
      exact ⟨f, hf⟩
    · obtain ⟨hbody, hupload⟩ := not_or.1 hshape
      rw [not_exists] at hbody
      exact ⟨_, AnsiblePlaybook.write_eq_error.2
        (.inr (.inr ⟨hbody, hupload, reason, hreason, rfl⟩))⟩
  | json => exact ⟨_, JsonDocument.write_eq_error.2 ⟨reason, hreason, rfl⟩⟩
  | strest => exact ⟨_, StrestFile.write_eq_error.2 (.inl ⟨reason, hreason, rfl⟩)⟩
  | _ => cases hsplits

end Target

namespace Arguments

variable {a : Arguments}

theorem request_sound (h : a.request.result = .ok r) (hproxy : r.proxy = none) : r.Sound := by
  refine ⟨hproxy, ?_, exists_ofString_url h⟩
  obtain ⟨l, redirects, -, -, rfl⟩ := request_eq_ok.1 h
  apply checkParts_of_wellFormed
  intro parts hbody
  obtain ⟨values, -, rfl⟩ := forms_of_body hbody
  exact formParts_wellFormed

/-- A request without a proxy is written unless the target has no form for it, a time is too long in
milliseconds, or a bracket of the URL's host stands alone. The program has words for the first of
these only, and a file of tests comes to them only behind a URL that can be taken apart. -/
theorem write_gives_up (hr : a.request.result = .ok r) (hproxy : r.proxy = none) (t : Target) :
    ((∃ code, (t.write r).result = .ok code) ↔
      ¬ t.Inexpressible r ∧ t.TimesFit r ∧ t.UrlSplits r) ∧
    ((∃ f, (t.write r).result = .error f ∧ (Failure.target t f).isUnforeseen = false) ↔
      t.Inexpressible r ∧ (t = .strest → t.UrlSplits r)) ∧
    ∀ f, (t.write r).result = .error f → (Failure.target t f).isUnforeseen = true →
      (∃ x ∈ t.timesInMilliseconds r, TooLong x ∧ f = .tooLong x) ∨
      ¬ t.UrlSplits r ∧ ∃ reason, f = .badUrl reason := by
  have hsound := request_sound hr hproxy
  have hcases {f : Target.Fault} (hf : (t.write r).result = .error f) :=
    Target.cases_of_write_eq_error hsound hf
  refine ⟨⟨fun hcode => ?_, fun ⟨hshape, hfits, hsplits⟩ => exists_eq_ok_iff.2 fun f hf => ?_⟩,
    ⟨fun ⟨f, hf, hforeseen⟩ => ?_, fun ⟨hshape, hsplits⟩ =>
      Target.write_of_inexpressible hsound hshape hsplits⟩, fun f hf hunforeseen => ?_⟩
  · have hwritten (h : ∃ f, (t.write r).result = .error f) : False := by
      obtain ⟨f, hf⟩ := h
      exact exists_eq_ok_iff.1 hcode f hf
    have hsplits : t.UrlSplits r := by
      by_contra hsplits
      exact hwritten (Target.write_of_not_urlSplits hsound hsplits)
    refine ⟨fun hshape => ?_, fun x hx hlong => ?_, hsplits⟩
    · obtain ⟨f, hf, -⟩ := Target.write_of_inexpressible hsound hshape fun _ => hsplits
      exact hwritten ⟨f, hf⟩
    · exact hwritten (Target.write_of_tooLong hsound hx hlong)
  · rcases hcases hf with ⟨hshape', -⟩ | ⟨x, hx, hlong, -⟩ | ⟨hsplits', -⟩
    · exact hshape hshape'
    · exact hfits x hx hlong
    · exact hsplits' hsplits
  · rcases hcases hf with ⟨hshape, hsplits, -⟩ | ⟨x, -, -, rfl⟩ | ⟨-, reason, rfl⟩
    · exact ⟨hshape, hsplits⟩
    · cases hforeseen
    · cases hforeseen
  · refine (hcases hf).resolve_left fun ⟨_, _, hforeseen⟩ => ?_
    rw [hforeseen] at hunforeseen
    cases hunforeseen

theorem write_gives_up_input : ∃ a r,
    (parse .curl true ["-d@-", "-m1.5", "http://h/"]).result = .ok a ∧
    a.request.result = .ok r ∧ r.proxy = none ∧
    (∃ f, (Target.ansible.write r).result = .error f ∧
      (Failure.target .ansible f).isUnforeseen = false) ∧
    ∃ code, (Target.go.write r).result = .ok code := by
  let a : Arguments := ⟨[⟨"data", true, .word "@-"⟩, ⟨"max-time", false, .word "1.5"⟩],
    ["http://h/"]⟩
  let time : Binary64 := ⟨false, 6755399441055744, -52, by decide⟩
  let r : Request :=
    { method := .post, url := "http://h/", body := .raw "" (some "-"), timeout := some time }
  have hr : a.request.result = .ok r := by decide
  have htime : time.times? 1000 ≠ none := by decide
  have hfits : Target.go.TimesFit r := fun x hx => by
    rw [List.mem_singleton.1 hx]
    exact mt tooLong_iff.1 htime
  obtain ⟨-, hansible, -⟩ := write_gives_up hr rfl .ansible
  obtain ⟨hgo, -, -⟩ := write_gives_up hr rfl .go
  exact ⟨a, r, by cbv, hr, rfl, hansible.2 ⟨.inl ⟨"", rfl⟩, nofun⟩, hgo.2 ⟨id, hfits, nofun⟩⟩

theorem write_gives_up_unforeseen :
    (∃ a r x, (parse .curl true ["-m1e306", "http://h/"]).result = .ok a ∧
      a.request.result = .ok r ∧ r.proxy = none ∧ ¬ Target.go.Inexpressible r ∧
      (Target.go.write r).result = .error (.tooLong x) ∧
      (Failure.target .go (.tooLong x)).isUnforeseen = true) ∧
    ∃ a r reason, (parse .curl true ["-Tf", "http://u]@[::1/"]).result = .ok a ∧
      a.request.result = .ok r ∧ r.proxy = none ∧ Target.strest.Inexpressible r ∧
      (Target.strest.write r).result = .error (.badUrl reason) ∧
      (Failure.target .strest (.badUrl reason)).isUnforeseen = true := by
  constructor
  · let a : Arguments := ⟨[⟨"max-time", false, .word "1e306"⟩], ["http://h/"]⟩
    let time : Binary64 := ⟨false, 6413338752028713, 964, by decide⟩
    let r : Request := { method := .get, url := "http://h/", timeout := some time }
    exact ⟨a, r, time, by cbv, by decide +kernel, rfl, id, by decide +kernel, rfl⟩
  · let a : Arguments := ⟨[⟨"upload-file", false, .word "f"⟩], ["http://u]@[::1/"]⟩
    let r : Request :=
      { method := .put, url := "http://[::1/", auth := .basic "u]" "", uploadFile := some "f" }
    exact ⟨a, r, .brackets, by cbv, by decide, rfl, .inl rfl, by decide, rfl⟩

end Arguments

end CurlScribe
