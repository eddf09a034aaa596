import CurlScribe.Proofs.Request.Payload

namespace CurlScribe

namespace Request

variable {piece : String × String} {pieces : List (String × String)}

/-- Whether a text stands for itself: it is not to be encoded, and names a file only to flags that
look for one. -/
def IsLiteral (piece : String × String) : Prop :=
  piece.1 ≠ "data-urlencode" ∧ (piece.1 = "data-raw" ∨ Text.startsWith "@" piece.2 = false)

def together (pieces : List (String × String)) : String :=
  Text.joined (if ∀ piece ∈ pieces, piece.1 = "json" then "" else "&") (pieces.map (·.2))

theorem afterStart?_eq_none {p s : String} (h : Text.startsWith p s = false) :
    Text.afterStart? p s = none := by
  rw [Text.afterStart?, Option.map_eq_none_iff, Option.eq_none_iff_forall_ne_some]
  intro after hafter
  rw [List.isPrefixOf?_eq_some_iff_append_eq] at hafter
  have hprefix : p.toList.isPrefixOf s.toList = true :=
    List.isPrefixOf_iff_prefix.2 ⟨after, hafter⟩
  rw [Text.startsWith, hprefix] at h
  cases h

theorem ofFlag_of_literal (h : IsLiteral piece) : Segment.ofFlag piece = .text piece.2 := by
  obtain ⟨hencoded, hfile⟩ := h
  unfold Segment.ofFlag
  split
  · rfl
  · exact absurd rfl hencoded
  · rename_i hraw _
    rw [afterStart?_eq_none (hfile.resolve_left hraw)]

section Literal

variable (h : ∀ piece ∈ pieces, IsLiteral piece)

include h

theorem texts_of_literal : texts pieces = pieces.map (·.2) := by
  rw [texts, ← List.filterMap_eq_map]
  exact List.filterMap_congr fun piece hpiece => by
    rw [ofFlag_of_literal (h piece hpiece)]
    rfl

theorem files_of_literal : files pieces = [] :=
  List.filterMap_eq_nil_iff.2 fun piece hpiece => by
    rw [ofFlag_of_literal (h piece hpiece)]
    rfl

theorem joinedData_of_literal : joinedData pieces = together pieces := by
  rw [joinedData, texts_of_literal h, together]
  simp only [List.all_eq_true, decide_eq_true_eq]

theorem dataBody_of_literal (headers : List (String × String)) :
    dataBody pieces headers = .raw (together pieces) none ∨
      ∃ fields, dataBody pieces headers = .urlencoded (together pieces) fields := by
  have hfile : onlyFile? pieces = none := by
    rw [onlyFile?, files_of_literal h]
    cases texts pieces <;> rfl
  rw [dataBody, hfile]
  simp only [joinedData_of_literal h]
  split
  · exact .inr ⟨_, rfl⟩
  · exact .inl rfl

end Literal

end Request

namespace Arguments

open Request

variable {t : FlagTable} {lenient : Bool} {tokens : List String} {notices : List Notice}
  {a : Arguments} {r : Request}

def fileDataFlags : List String := ["data", "data-ascii", "data-binary", "json"]

theorem isLiteral_of_mem (hencoded : a.has "data-urlencode" = false)
    (hfiles : ∀ flag ∈ fileDataFlags, ∀ text ∈ a.texts flag, Text.startsWith "@" text = false) :
    ∀ piece ∈ a.textsOf dataFlags, IsLiteral piece := by
  intro piece hpiece
  obtain ⟨hflag, htext⟩ := mem_textsOf hpiece
  have hname : piece.1 ≠ "data-urlencode" := by
    intro heq
    rw [← heq, has_of_mem_texts htext] at hencoded
    cases hencoded
  have hcases : ∀ flag ∈ dataFlags,
      flag = "data-urlencode" ∨ flag = "data-raw" ∨ flag ∈ fileDataFlags := by decide
  refine ⟨hname, ?_⟩
  exact ((hcases _ hflag).resolve_left hname).imp_right fun hmem => hfiles _ hmem _ htext

theorem body_of_data {pieces : List (String × String)} (h : a.payload = .data pieces) :
    a.body = if a.isOn "get" then .none else dataBody pieces a.headers := by
  rw [body, h]

theorem sentUrl_of_data {pieces : List (String × String)} (h : a.payload = .data pieces)
    (url : String) :
    a.sentUrl url = if a.isOn "get" then Url.addQuery url (joinedData pieces) else url := by
  rw [sentUrl, h]

/-- Where no form is given, and data is neither encoded nor read from files, the texts of all data
flags are sent, each once and in the order they were given: in the body, or in the query for a GET. -/
theorem data_sent (ht : t = .curl ∨ t = .program)
    (h : parse t lenient tokens = ⟨notices, .ok a⟩) (hforms : ¬ a.Gives formFlags)
    (hencoded : a.has "data-urlencode" = false)
    (hfiles : ∀ flag ∈ fileDataFlags, ∀ text ∈ a.texts flag, Text.startsWith "@" text = false)
    (hdata : a.Gives dataFlags) (hr : a.request.result = .ok r) :
    ∃ pieces url l, (∀ others, a.Gathers dataFlags others ↔ others = pieces) ∧
      url ∈ a.urls.head? ∧ locate url = .ok l ∧
      (a.isOn "get" = false → r.url = l.url ∧ (r.body = .raw (together pieces) none ∨
        ∃ fields, r.body = .urlencoded (together pieces) fields)) ∧
      (a.isOn "get" = true → r.url = Url.addQuery l.url (together pieces) ∧ r.body = .none) := by
  have hlists : ∀ name ∈ dataFlags, ∃ f ∈ t.flags, f.name = name ∧ f.kind = .list :=
    fun name hname => lists_of_payload ht name (List.mem_append_left _ hname)
  have hliteral := isLiteral_of_mem hencoded hfiles
  have hpayload := payload_of_data hdata hforms
  obtain ⟨l, redirects, hl, -, rfl⟩ := request_eq_ok.1 hr
  obtain ⟨url, others, hurls, hlocate⟩ := location_eq_ok.1 hl
  refine ⟨a.textsOf dataFlags, url, l, fun _ => gathers_iff (fits_of_parse h) hlists,
    by simp [hurls], hlocate, fun hget => ⟨?_, ?_⟩, fun hget => ⟨?_, ?_⟩⟩
  · change a.sentUrl l.url = l.url
    simp [sentUrl_of_data hpayload, hget]
  · have hbody : a.body = dataBody (a.textsOf dataFlags) a.headers := by
      simp [body_of_data hpayload, hget]
    change a.body = _ ∨ ∃ fields, a.body = _
    rw [hbody]
    exact dataBody_of_literal hliteral a.headers
  · change a.sentUrl l.url = _
    simp [sentUrl_of_data hpayload, hget, joinedData_of_literal hliteral]
  · change a.body = .none
    simp [body_of_data hpayload, hget]

theorem data_sent_query : ∃ a r,
    parse .curl true ["-d", "a=1", "--json", "2", "--data-raw", "@x", "-Gd", "", "http://h/?q#f"] =
      ⟨[], .ok a⟩ ∧
    a.request.result = .ok r ∧ r.url = "http://h/?q&a=1&2&@x&#f" ∧ r.body = .none := by
  let pieces : List (String × String) :=
    [("data", "a=1"), ("json", "2"), ("data-raw", "@x"), ("data", "")]
  let a : Arguments := ⟨[⟨"data", true, .word "a=1"⟩, ⟨"json", true, .word "2"⟩,
    ⟨"data-raw", true, .word "@x"⟩, ⟨"get", false, .toggle true⟩, ⟨"data", true, .word ""⟩],
    ["http://h/?q#f"]⟩
  have hread : parse .curl true
      ["-d", "a=1", "--json", "2", "--data-raw", "@x", "-Gd", "", "http://h/?q#f"] =
        ⟨[], .ok a⟩ := by cbv
  obtain ⟨r, hr⟩ : ∃ r, a.request.result = .ok r := ⟨_, rfl⟩
  have hforms : ¬ a.Gives formFlags := by simp only [Gives]; decide
  have hdata : a.Gives dataFlags := ⟨"data", by decide, by decide⟩
  obtain ⟨given, url, l, hgathers, hurl, hl, -, hget⟩ :=
    data_sent (.inl rfl) hread hforms (by decide) (by decide) hdata hr
  obtain rfl : pieces = given := (hgathers pieces).1 ⟨by decide, by decide⟩
  obtain rfl : "http://h/?q#f" = url := Option.some.inj hurl
  have hlocate : locate "http://h/?q#f" = .ok ⟨"http://h/?q#f", none⟩ := by rfl
  obtain rfl := Except.ok.inj (hlocate.symm.trans hl)
  obtain ⟨hsent, hbody⟩ := hget (by decide)
  exact ⟨a, r, hread, hr, hsent.trans (by decide), hbody⟩

end Arguments

end CurlScribe
