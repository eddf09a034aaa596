import CurlScribe.Proofs.Json.Rendered
import CurlScribe.Proofs.Number.Shortest
import CurlScribe.Proofs.Request.Relocation
import CurlScribe.Target.JsonDocument

namespace CurlScribe.JsonDocument

open Json

variable {r r' : Request} {query query' code : String}

section Present

variable {α : Type} {entries others : List (String × Option α)}

def present (entries : List (String × Option α)) : List (String × α) :=
  entries.filterMap fun (key, value?) => value?.map (key, ·)

theorem present_append : present (entries ++ others) = present entries ++ present others :=
  List.filterMap_append

theorem mem_keys_of_mem_present {key : String} {value : α} (h : (key, value) ∈ present entries) :
    key ∈ entries.map (·.1) := by
  obtain ⟨⟨k, value?⟩, hentry, hvalue⟩ := List.mem_filterMap.1 h
  obtain ⟨v, -, heq⟩ := Option.map_eq_some_iff.1 hvalue
  cases heq
  exact List.mem_map_of_mem hentry

theorem eq_of_present_eq (hkeys : entries.map (·.1) = others.map (·.1))
    (hnodup : (entries.map (·.1)).Nodup) (h : present entries = present others) :
    entries = others := by
  induction entries generalizing others with
  | nil => exact (List.map_eq_nil_iff.1 hkeys.symm).symm
  | cons entry entries ih =>
    cases others with
    | nil => cases hkeys
    | cons other others =>
      obtain ⟨key, value?⟩ := entry
      obtain ⟨key', value'?⟩ := other
      obtain ⟨hkey, hmore⟩ : key = key' ∧ entries.map (·.1) = others.map (·.1) :=
        List.cons.inj hkeys
      obtain ⟨hnew, hdistinct⟩ := List.nodup_cons.1 hnodup
      subst hkey
      cases value? with
      | none =>
        cases value'? with
        | none => rw [ih hmore hdistinct h]
        | some value' =>
          -- A value is there under the key on one side only.
          have hmem : (key, value') ∈ present entries := by
            have hcons : present entries = (key, value') :: present others := h
            rw [hcons]
            exact .head _
          exact absurd (mem_keys_of_mem_present hmem) hnew
      | some value =>
        cases value'? with
        | none =>
          have hmem : (key, value) ∈ present others := by
            have hcons : (key, value) :: present entries = present others := h
            rw [← hcons]
            exact .head _
          exact absurd (hmore ▸ mem_keys_of_mem_present hmem) hnew
        | some value' =>
          have hcons : (key, value) :: present entries = (key, value') :: present others := h
          obtain ⟨hvalue, hrest⟩ := List.cons.inj hcons
          rw [ih hmore hdistinct hrest, (Prod.mk.inj hvalue).2]

end Present

section Entries

def given (wanted : Bool) (value : Json) : Option Json := if wanted then some value else none

theorem field_eq_present (wanted : Bool) (key : String) (value : Json) :
    field wanted key value = present [(key, given wanted value)] := by
  cases wanted <;> rfl

theorem text?_eq_present (key : String) (value : Option String) :
    text? key value = present [(key, value.map .string)] := by
  cases value <;> rfl

theorem toList_map_eq_present {α : Type} (key : String) (value : Option α) (f : α → Json) :
    (value.map fun a => (key, f a)).toList = present [(key, value.map f)] := by
  cases value <;> rfl

theorem bodyFields_eq_present (r : Request) : bodyFields r =
    present [("files", (bodyFields r).lookup "files"), ("data", (bodyFields r).lookup "data")] := by
  unfold bodyFields
  cases r.body with
  | none => rfl
  | raw data file => cases file <;> rfl
  | urlencoded text fields => rfl
  | multipart parts =>
    simp only [partFields, field]
    split <;> split <;> rfl

theorem authFields_eq_present (r : Request) : authFields r =
    present [("auth", (authFields r).lookup "auth"),
      ("auth_type", (authFields r).lookup "auth_type")] := by
  unfold authFields
  cases r.auth <;> rfl

def entries (r : Request) (query : String) : List (String × Option Json) :=
  [("url", some (.string (bareUrl r.url))), ("raw_url", some (.string r.url)),
   ("method", some (.string (Text.lower r.method.name))),
   ("queries", given (query ≠ "") (texts (Url.queryFields query))),
   ("cookies", given (r.cookies ≠ []) (texts r.cookies)),
   ("headers", given (r.headers ≠ []) (texts r.headers)),
   ("files", (bodyFields r).lookup "files"), ("data", (bodyFields r).lookup "data"),
   ("upload_file", r.uploadFile.map .string), ("auth", (authFields r).lookup "auth"),
   ("auth_type", (authFields r).lookup "auth_type"), ("cookie_jar", r.cookieJar.map .string),
   ("insecure", given r.tls.insecure (.bool true)), ("cert", r.tls.cert.map .string),
   ("key", r.tls.key.map .string), ("cacert", r.tls.cacert.map .string),
   ("proxy", r.proxy.map .string),
   ("proxy_auth", r.proxyAuth.map fun (name, password) => user name password),
   ("follow_redirects", given r.followRedirects (.bool true)),
   ("max_redirects", r.maxRedirects.map fun n => .number (toString n)),
   ("timeout", r.timeout.map (.number ·.text)),
   ("connect_timeout", r.connectTimeout.map (.number ·.text)),
   ("http_version", (r.httpVersion.map (·.name)).map .string),
   ("compressed", given r.compressed (.bool true))]

theorem document_eq (r : Request) (query : String) :
    document r query = .object (present (entries r query)) := by
  rw [document, transferFields, bodyFields_eq_present, authFields_eq_present]
  simp only [field_eq_present, text?_eq_present, toList_map_eq_present, List.append_assoc,
    ← present_append]
  rfl

theorem nodup_keys (r : Request) (query : String) : ((entries r query).map (·.1)).Nodup := by
  simp only [entries, List.map_cons, List.map_nil]
  decide

/-- What two requests agree in that have the same document. -/
structure SameSettings (r r' : Request) : Prop where
  url : r.url = r'.url
  method : Text.lower r.method.name = Text.lower r'.method.name
  cookieJar : r.cookieJar = r'.cookieJar
  tls : r.tls = r'.tls
  proxy : r.proxy = r'.proxy
  proxyAuth : r.proxyAuth = r'.proxyAuth
  followRedirects : r.followRedirects = r'.followRedirects
  maxRedirects : r.maxRedirects = r'.maxRedirects
  timeout : r.timeout = r'.timeout
  connectTimeout : r.connectTimeout = r'.connectTimeout
  httpVersion : r.httpVersion = r'.httpVersion
  compressed : r.compressed = r'.compressed
  uploadFile : r.uploadFile = r'.uploadFile
  auth : r.auth = r'.auth

theorem given_injective {wanted wanted' : Bool} {value value' : Json}
    (h : given wanted value = given wanted' value') : wanted = wanted' := by
  cases wanted <;> cases wanted' <;> first | rfl | cases h

theorem user_injective : Function.Injective fun p : String × String => user p.1 p.2 := by
  rintro ⟨name, password⟩ ⟨name', password'⟩ h
  simpa [user] using h

theorem httpVersion_name_injective : Function.Injective HttpVersion.name := by
  intro v w h
  cases v <;> cases w <;> first | rfl | exact absurd h (by decide)

theorem auth_eq_of_authFields_eq (h : authFields r = authFields r') : r.auth = r'.auth := by
  unfold authFields at h
  cases hr : r.auth <;> cases hr' : r'.auth <;> simp_all [user]

theorem entries_eq_of_document_eq (h : document r query = document r' query') :
    entries r query = entries r' query' := by
  rw [document_eq, document_eq] at h
  have hkeys : (entries r query).map (·.1) = (entries r' query').map (·.1) := by
    simp only [entries, List.map_cons, List.map_nil]
  exact eq_of_present_eq hkeys (nodup_keys r query) (Json.object.inj h)

theorem sameSettings_of_document_eq (h : document r query = document r' query') :
    SameSettings r r' := by
  have hentries := entries_eq_of_document_eq h
  simp only [entries, List.cons.injEq, Prod.mk.injEq, true_and, and_true] at hentries
  obtain ⟨-, hurl, hmethod, -, -, -, -, -, hupload, hauth, htype, hjar, hinsecure, hcert, hkey,
    hcacert, hproxy, hproxyAuth, hfollow, hmax, htimeout, hconnect, hversion, hcompressed⟩ :=
    hentries
  have hstring {s s' : Option String} (hs : s.map Json.string = s'.map Json.string) : s = s' :=
    Option.map_injective (fun _ _ => Json.string.inj) hs
  have hnumber {t t' : Option Binary64}
      (ht : t.map (Json.number ·.text) = t'.map (Json.number ·.text)) : t = t' :=
    Option.map_injective (fun _ _ h => Binary64.text_injective (Json.number.inj h)) ht
  have hauthFields : authFields r = authFields r' := by
    rw [authFields_eq_present, hauth, htype, ← authFields_eq_present]
  have htls : r.tls = ⟨r.tls.insecure, r.tls.cert, r.tls.key, r.tls.cacert⟩ := rfl
  constructor
  case url => exact Json.string.inj (Option.some.inj hurl)
  case method => exact Json.string.inj (Option.some.inj hmethod)
  case cookieJar => exact hstring hjar
  case tls => rw [htls, given_injective hinsecure, hstring hcert, hstring hkey, hstring hcacert]
  case proxy => exact hstring hproxy
  case proxyAuth => exact Option.map_injective user_injective hproxyAuth
  case followRedirects => exact given_injective hfollow
  case maxRedirects =>
    exact Option.map_injective
      (fun _ _ h => Numeral.Decimal.toString_int_injective (Json.number.inj h)) hmax
  case timeout => exact hnumber htimeout
  case connectTimeout => exact hnumber hconnect
  case httpVersion => exact Option.map_injective httpVersion_name_injective (hstring hversion)
  case compressed => exact given_injective hcompressed
  case uploadFile => exact hstring hupload
  case auth => exact auth_eq_of_authFields_eq hauthFields

end Entries

section Reading

theorem readable_number {n : Int} (h : (Nat.toDigits 10 n.natAbs).length ≤ Numeral.maxDigits) :
    Readable (.number (toString n)) := by
  rw [Numeral.Decimal.toString_eq]
  exact .number _ fun _ => h

theorem readable_text (x : Binary64) : Readable (.number x.text) := by
  obtain ⟨d, hnot, htext, -⟩ := x.exists_decimal
  rw [htext]
  exact .number d fun h => absurd h hnot

theorem readable_ofOption (s : Option String) : Readable (.ofOption s) := by
  cases s with
  | none => exact .null
  | some s => exact .string s

def AllReadable (fields : List (String × Json)) : Prop := ∀ field ∈ fields, Readable field.2

theorem readable_object {fields : List (String × Json)} (h : AllReadable fields) :
    Readable (.object fields) :=
  .object h

@[simp] theorem allReadable_nil : AllReadable [] := by simp [AllReadable]

@[simp] theorem allReadable_cons {key : String} {value : Json} {fields : List (String × Json)} :
    AllReadable ((key, value) :: fields) ↔ Readable value ∧ AllReadable fields :=
  List.forall_mem_cons

@[simp] theorem allReadable_append {fields more : List (String × Json)} :
    AllReadable (fields ++ more) ↔ AllReadable fields ∧ AllReadable more :=
  List.forall_mem_append

theorem readable_values {items : List Json} (h : ∀ item ∈ items, Readable item) :
    Readable (values items) := by
  unfold values
  split
  · exact h _ (.head _)
  · exact .array h

theorem readable_group {items : List (String × Json)} (h : AllReadable items) :
    Readable (group items) := by
  refine .object fun field hfield => ?_
  obtain ⟨⟨key, value⟩, -, rfl⟩ := List.mem_map.1 hfield
  refine readable_values fun item hitem => ?_
  obtain ⟨given, hgiven, rfl⟩ := List.mem_map.1 hitem
  exact h _ (List.mem_filter.1 hgiven).1

theorem readable_texts (items : List (String × String)) : Readable (texts items) := by
  refine readable_group fun field hfield => ?_
  obtain ⟨item, -, rfl⟩ := List.mem_map.1 hfield
  exact .string _

theorem readable_user (name password : String) : Readable (user name password) :=
  readable_object (by simp [Readable.string])

theorem allReadable_field {wanted : Bool} {key : String} {value : Json} (h : Readable value) :
    AllReadable (field wanted key value) := by
  cases wanted <;> simp [field, h]

theorem allReadable_toList_map {α : Type} {key : String} {value : Option α} {f : α → Json}
    (h : ∀ a ∈ value, Readable (f a)) :
    AllReadable (value.map fun a => (key, f a)).toList := by
  cases value with
  | none => simp
  | some a => simp [h a rfl]

theorem allReadable_text? (key : String) (value : Option String) :
    AllReadable (text? key value) :=
  allReadable_toList_map fun s _ => .string s

theorem readable_partValue (p : Part) : Readable (partValue p) := by
  unfold partValue
  split
  · exact .string _
  · exact readable_ofOption _

theorem allReadable_partFields (parts : List Part) : AllReadable (partFields parts) := by
  have hfields : AllReadable
      ((parts.filter (!·.isUpload)).map fun p => (p.name, partValue p)) := by
    intro field hfield
    obtain ⟨p, -, rfl⟩ := List.mem_map.1 hfield
    exact readable_partValue p
  exact allReadable_append.2
    ⟨allReadable_field (readable_texts _), allReadable_field (readable_group hfields)⟩

theorem allReadable_bodyFields (r : Request) : AllReadable (bodyFields r) := by
  unfold bodyFields
  split
  · simp
  · simp [readable_texts]
  · simp [Readable.string]
  · simp [readable_object, Readable.string]
  · exact allReadable_partFields _

theorem allReadable_authFields (r : Request) : AllReadable (authFields r) := by
  unfold authFields
  split
  · simp
  · simp [readable_user]
  · simp [readable_user, Readable.string]
  · simp [readable_object, Readable.string]

theorem readable_document (query : String) (hmax : ∀ n ∈ r.maxRedirects,
    (Nat.toDigits 10 n.natAbs).length ≤ Numeral.maxDigits) : Readable (document r query) := by
  have hproxyAuth : AllReadable
      (r.proxyAuth.map fun (name, password) => ("proxy_auth", user name password)).toList :=
    allReadable_toList_map fun p _ => readable_user p.1 p.2
  have hredirects : AllReadable
      (r.maxRedirects.map fun n => ("max_redirects", Json.number (toString n))).toList :=
    allReadable_toList_map fun n hn => readable_number (hmax n hn)
  have htime (key : String) (value : Option Binary64) :
      AllReadable (value.map fun t => (key, Json.number t.text)).toList :=
    allReadable_toList_map fun x _ => readable_text x
  apply readable_object
  simp only [transferFields, allReadable_append, allReadable_cons, allReadable_nil,
    allReadable_field, allReadable_text?, allReadable_bodyFields, allReadable_authFields,
    readable_texts, Readable.string, Readable.bool, hproxyAuth, hredirects, htime, and_true]

end Reading

theorem write_eq_ok : (write r).result = .ok code ↔
    ∃ u, Url.ofString r.url = .ok u ∧ code = (document r (.ofList u.query)).render 0 ++ "\n" := by
  simp only [write, Noted.result_bind_eq_ok, Noted.note, Noted.ofExcept, Noted.pure_eq,
    mapError_eq_ok_iff, Except.ok.injEq]
  constructor
  · rintro ⟨-, -, u, hu, rfl⟩
    exact ⟨u, hu, rfl⟩
  · rintro ⟨u, hu, rfl⟩
    exact ⟨(), trivial, u, hu, rfl⟩

end CurlScribe.JsonDocument

namespace CurlScribe.Arguments

open JsonDocument Url

variable {a b : Arguments} {r r' : Request}

theorem length_maxRedirects (h : a.request.result = .ok r) : ∀ n ∈ r.maxRedirects,
    (Nat.toDigits 10 n.natAbs).length ≤ Numeral.maxDigits := by
  obtain ⟨l, redirects, -, hredirects, rfl⟩ := Arguments.request_eq_ok.1 h
  intro n hn
  obtain rfl : redirects = some n := hn
  unfold maxRedirects at hredirects
  split at hredirects
  case h_1 m hm =>
    split at hredirects
    · cases hredirects
    · cases hredirects
      obtain ⟨text, -, hread⟩ := Option.bind_eq_some_iff.1 hm
      exact Numeral.length_toDigits_of_integer? hread
  case h_2 => cases hredirects

theorem ofString_write {code : String} (hr : a.request.result = .ok r)
    (h : (write r).result = .ok code) :
    ∃ query, Json.ofString code = .ok (document r query) := by
  obtain ⟨u, -, rfl⟩ := write_eq_ok.1 h
  exact ⟨_, Json.ofString_render (readable_document _ (length_maxRedirects hr))⟩

/-- A request is written unless its URL has a bracket alone. What is written is read as its
document, and tells two requests apart if they differ in a setting that has one value. -/
theorem write_document (hr : a.request.result = .ok r) (hr' : b.request.result = .ok r') :
    ((∃ code, (write r).result = .ok code) ↔ Paired (authorityIn r.url.toList)) ∧
    (∀ code, (write r).result = .ok code →
      ∃ query, Json.ofString code = .ok (document r query)) ∧
    ∀ code, (write r).result = .ok code → (write r').result = .ok code → SameSettings r r' := by
  refine ⟨?_, fun code h => ofString_write hr h, fun code h h' => ?_⟩
  · rw [← exists_ofString_url hr]
    constructor
    · rintro ⟨code, h⟩
      obtain ⟨u, hu, -⟩ := write_eq_ok.1 h
      exact ⟨u, hu⟩
    · rintro ⟨u, hu⟩
      exact ⟨_, write_eq_ok.2 ⟨u, hu, rfl⟩⟩
  · obtain ⟨query, hread⟩ := ofString_write hr h
    obtain ⟨query', hread'⟩ := ofString_write hr' h'
    exact sameSettings_of_document_eq (Except.ok.inj (hread.symm.trans hread'))

theorem write_document_basic : ∃ a b r r' code,
    (parse .curl true ["-ume:x", "--max-redirs=-1", "-m1.50", "http://h/?q"]).result = .ok a ∧
    (parse .curl true ["-m15e-1", "-Xget", "--max-redirs=-1", "http://me:x@h/?q"]).result = .ok b ∧
    a.request.result = .ok r ∧ b.request.result = .ok r' ∧ r ≠ r' ∧
    (write r).result = .ok code ∧ (write r').result = .ok code ∧
    (∃ query, Json.ofString code = .ok (document r query)) ∧ SameSettings r r' := by
  let a : Arguments := ⟨[⟨"user", false, .word "me:x"⟩, ⟨"max-redirs", false, .word "-1"⟩,
    ⟨"max-time", false, .word "1.50"⟩], ["http://h/?q"]⟩
  let b : Arguments := ⟨[⟨"max-time", false, .word "15e-1"⟩, ⟨"request", false, .word "get"⟩,
    ⟨"max-redirs", false, .word "-1"⟩], ["http://me:x@h/?q"]⟩
  let r : Request :=
    { method := .get, url := "http://h/?q", auth := .basic "me" "x", maxRedirects := some (-1)
      timeout := some ⟨false, 6755399441055744, -52, by decide⟩ }
  let r' : Request := { r with method := ⟨"get", by decide⟩ }
  have hr : a.request.result = .ok r := by decide
  have hr' : b.request.result = .ok r' := by decide
  obtain ⟨hwritten, hread, hsame⟩ := write_document hr hr'
  have hpaired : Paired (authorityIn r.url.toList) := by
    unfold Paired
    decide
  obtain ⟨code, hcode⟩ := hwritten.2 hpaired
  have hmethod : Text.lower r'.method.name = Text.lower r.method.name := by decide
  have hcode' : (write r').result = .ok code := by
    obtain ⟨u, hu, rfl⟩ := write_eq_ok.1 hcode
    refine write_eq_ok.2 ⟨u, hu, ?_⟩
    rw [document, document, hmethod]
    rfl
  exact ⟨a, b, r, r', code, by cbv, by cbv, hr, hr', by decide, hcode, hcode', hread code hcode,
    hsame code hcode hcode'⟩

theorem write_document_refused : ∃ a r,
    (parse .curl true ["http://u]@[::1/"]).result = .ok a ∧ a.request.result = .ok r ∧
    ∀ code, (write r).result ≠ .ok code := by
  let a : Arguments := ⟨[], ["http://u]@[::1/"]⟩
  let r : Request := { method := .get, url := "http://[::1/", auth := .basic "u]" "" }
  refine ⟨a, r, by cbv, by decide, fun code h => ?_⟩
  obtain ⟨u, hu, -⟩ := write_eq_ok.1 h
  have hbrackets := (exists_ofList_eq_ok.1 ⟨u, hu⟩).1
  revert hbrackets
  decide

end CurlScribe.Arguments
