import CurlScribe.Proofs.Arguments.Collected
import CurlScribe.Proofs.Request.Dependence
import CurlScribe.Proofs.Request.Payload
import CurlScribe.Proofs.Url.Form

namespace CurlScribe

open Url

variable {fields : List (String × String)}

namespace Request

variable {field : String × String}

def givenField (field : String × String) : String := field.1 ++ "=" ++ field.2

theorem ofUrlencode_givenField (h : IsPlainName field.1) :
    Segment.ofUrlencode (givenField field) = .text (.ofList (encodedField field)) := by
  have hcut : Text.cut '=' (givenField field) = (field.1, some field.2) :=
    Text.cut_equals (h.plain '=' (by decide)) field.2
  unfold Segment.ofUrlencode
  rw [hcut]
  split
  · rename_i heq
    exact absurd (Prod.mk.inj heq).1 h.ne
  · rename_i heq
    obtain ⟨rfl, hcontent⟩ := Prod.mk.inj heq
    obtain rfl := Option.some.inj hcontent
    simp [encodedField, String.ofList_append, String.append_assoc]
  · rename_i heq
    cases heq

def encodedPieces (fields : List (String × String)) : List (String × String) :=
  fields.map fun field => ("data-urlencode", givenField field)

section Fields

variable (h : ∀ field ∈ fields, IsPlainName field.1)

include h

theorem texts_encodedPieces :
    texts (encodedPieces fields) = fields.map fun field => .ofList (encodedField field) := by
  rw [texts, encodedPieces, List.filterMap_map, ← List.filterMap_eq_map]
  refine List.filterMap_congr fun field hfield => ?_
  change (Segment.ofUrlencode (givenField field)).text? = _
  rw [ofUrlencode_givenField (h field hfield)]
  rfl

theorem joinedData_encodedPieces (hne : fields ≠ []) :
    joinedData (encodedPieces fields) = encodedForm fields := by
  have hjson : (encodedPieces fields).all (·.1 = "json") = false := by
    cases fields with
    | nil => exact absurd rfl hne
    | cons field fields => rfl
  rw [joinedData, hjson, texts_encodedPieces h]
  rfl

theorem dataBody_encodedPieces (hne : fields ≠ []) :
    dataBody (encodedPieces fields) [] = .urlencoded (encodedForm fields) fields := by
  have hfile : onlyFile? (encodedPieces fields) = none := by
    rw [onlyFile?, texts_encodedPieces h]
    cases fields with
    | nil => exact absurd rfl hne
    | cons field fields => rfl
  have hform : mayBeForm (encodedPieces fields) [] = true := by
    simp [mayBeForm, encodedPieces, formDataFlags, lastHeader?]
  rw [dataBody, hfile]
  simp only [hform, if_true, joinedData_encodedPieces h hne, formFields?_encodedForm hne h]

end Fields

end Request

namespace Arguments

open Request

variable {t : FlagTable} {lenient : Bool} {url : String} {l : Location}

def ofEncoded (fields : List (String × String)) (url : String) : Arguments :=
  collected "data-urlencode" (fields.map givenField) [url]

theorem parse_ofEncoded (ht : t = .curl ∨ t = .program) (hurl : ¬ IsDashed url) :
    parse t lenient (collectingTokens "data-urlencode" (fields.map givenField) ++ [url]) =
      ⟨[], .ok (ofEncoded fields url)⟩ := by
  have hcurl : Flag.list "data-urlencode" [] ∈ FlagTable.curl.flags := by decide
  have hf : Flag.list "data-urlencode" [] ∈ t.flags := by
    rcases ht with rfl | rfl
    · exact hcurl
    · exact List.mem_append_left _ hcurl
  exact parse_collectingTokens (FlagTable.regular_of_eq ht) hf _ (List.forall_mem_singleton.2 hurl)

section Sent

theorem sameOn_ofEncoded (names : List String) (h : "data-urlencode" ∉ names) :
    SameOn names (ofEncoded fields url) ⟨[], [url]⟩ :=
  sameOn_collected h

theorem isOn_get_ofEncoded : (ofEncoded fields url).isOn "get" = false :=
  (sameOn_ofEncoded ["get"] (by decide)).isOn (by decide)

theorem payload_ofEncoded (hne : fields ≠ []) :
    (ofEncoded fields url).payload = .data (encodedPieces fields) := by
  have hdata : (ofEncoded fields url).Gives dataFlags := by
    obtain ⟨field, fields, rfl⟩ := List.exists_cons_of_ne_nil hne
    exact ⟨"data-urlencode", by decide, rfl⟩
  have hforms : ¬ (ofEncoded fields url).Gives formFlags := by
    rintro ⟨flag, hflag, hhas⟩
    rw [has_collected hhas] at hflag
    exact absurd hflag (by decide)
  have hpieces : (ofEncoded fields url).textsOf dataFlags = encodedPieces fields :=
    (textsOf_collected (by decide)).trans List.map_map
  rw [payload_of_data hdata hforms, hpieces]

theorem result_location_ofEncoded (hl : locate url = .ok l) :
    (ofEncoded fields url).location.result = .ok l := by
  refine location_eq_ok.2 ⟨url, [], ?_, hl⟩
  rw [urls, (sameOn_ofEncoded ["url"] (by decide)).texts (by decide)]
  rfl

theorem maxRedirects_ofEncoded : (ofEncoded fields url).maxRedirects = .ok none :=
  (sameOn_ofEncoded connectionFlags (by decide)).maxRedirects

variable (h : ∀ field ∈ fields, IsPlainName field.1) (hne : fields ≠ [])

include h hne

theorem body_ofEncoded :
    (ofEncoded fields url).body = .urlencoded (encodedForm fields) fields := by
  have hheaders : (ofEncoded fields url).headers = [] :=
    (sameOn_ofEncoded headerFlags (by decide)).headers
  rw [body, payload_ofEncoded hne, hheaders]
  simp only [isOn_get_ofEncoded, Bool.false_eq_true, if_false]
  exact dataBody_encodedPieces h hne

theorem method_ofEncoded : (ofEncoded fields url).method = .post := by
  have hrequest : (ofEncoded fields url).explicitMethod = none := by
    rw [explicitMethod, (sameOn_ofEncoded ["request"] (by decide)).text? (by decide)]
    rfl
  have hbody : (ofEncoded fields url).body = _ := body_ofEncoded h hne
  have hupload : (ofEncoded fields url).uploadFile = none := by simp [uploadFile, hbody]
  simp [method, hrequest, impliedMethod, getsData, isOn_get_ofEncoded, hupload, hbody]

end Sent

/-- Fields with plain names that are given to be encoded are sent as a form, which has these fields
and no others; they are also what its text is by percent-decoding alone. -/
theorem urlencoded_sent (ht : t = .curl ∨ t = .program) (hne : fields ≠ [])
    (h : ∀ field ∈ fields, IsPlainName field.1) (hurl : ¬ IsDashed url)
    (hl : locate url = .ok l) : ∃ a r text,
    parse t lenient (fields.flatMap (fun field => ["--data-urlencode", field.1 ++ "=" ++ field.2])
      ++ [url]) = ⟨[], .ok a⟩ ∧
    a.request.result = .ok r ∧ r.method = .post ∧ r.body = .urlencoded text fields ∧
    (Text.splitList '&' text.toList).mapM percentField? = some fields := by
  have htokens : fields.flatMap (fun field => ["--data-urlencode", field.1 ++ "=" ++ field.2]) =
      collectingTokens "data-urlencode" (fields.map givenField) := by
    rw [collectingTokens, List.flatMap_map]
    rfl
  have hlocation : (ofEncoded fields url).location.result = .ok l := result_location_ofEncoded hl
  have hr := request_eq_ok.2 ⟨l, none, hlocation, maxRedirects_ofEncoded, rfl⟩
  refine ⟨ofEncoded fields url, _, encodedForm fields, ?_, hr, method_ofEncoded h hne,
    body_ofEncoded h hne, percentFields_encodedForm hne h⟩
  rw [htokens, parse_ofEncoded ht hurl]

theorem urlencoded_sent_delimiters : ∃ a r text,
    parse .curl false ["--data-urlencode", "a=&=+%41 @\"é", "--data-urlencode", "@=", "http://h/"] =
      ⟨[], .ok a⟩ ∧
    a.request.result = .ok r ∧ r.method = .post ∧
    r.body = .urlencoded text [("a", "&=+%41 @\"é"), ("@", "")] := by
  have hnames : ∀ field ∈ [("a", "&=+%41 @\"é"), ("@", "")], IsPlainName field.1 := by
    have ha : IsPlainName "a" := ⟨by decide, by simp⟩
    have hat : IsPlainName "@" := ⟨by decide, by simp⟩
    simp [ha, hat]
  have hl : locate "http://h/" = .ok ⟨"http://h/", none⟩ := by rfl
  obtain ⟨a, r, text, hread, hr, hmethod, hbody, -⟩ :=
    @urlencoded_sent _ .curl false _ _ (.inl rfl) (by simp) hnames (by decide) hl
  exact ⟨a, r, text, hread, hr, hmethod, hbody⟩

end Arguments

end CurlScribe
