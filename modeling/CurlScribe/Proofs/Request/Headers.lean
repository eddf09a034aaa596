import CurlScribe.Conversion
import CurlScribe.Proofs.Arguments.Setting
import CurlScribe.Proofs.Request.Topic
import CurlScribe.Proofs.Text.Cut
import CurlScribe.Proofs.Text.Trim

namespace CurlScribe

namespace Request

inductive Contribution
  | header (name value : String)
  | removal (name : String)
  | warning (notice : Notice)
  deriving DecidableEq

variable {raw : String} {c : Contribution} {lines : List String} {given : List Contribution}

/-- What a header line contributes. A colon ends the name, and where there is none a semicolon at the
end stands for an empty value. -/
inductive Contributes (raw : String) : Contribution → Prop
  | file : Text.startsWith "@" raw = true → Contributes raw (.warning (.headersFromFile raw))
  | header {name value : String} : Text.startsWith "@" raw = false → raw = name ++ ":" ++ value →
      ':' ∉ name.toList → Text.trim value ≠ "" →
      Contributes raw (.header (Text.trim name) (Text.trim value))
  | removal {name value : String} : Text.startsWith "@" raw = false → raw = name ++ ":" ++ value →
      ':' ∉ name.toList → Text.trim value = "" → Contributes raw (.removal (Text.trim name))
  | empty {name blank : String} : Text.startsWith "@" raw = false → ':' ∉ raw.toList →
      raw = name ++ ";" ++ blank → Text.Blank blank.toList →
      Contributes raw (.header (Text.trim name) "")
  | malformed : Text.startsWith "@" raw = false → ':' ∉ raw.toList →
      (∀ name blank, raw = name ++ ";" ++ blank → ¬ Text.Blank blank.toList) →
      Contributes raw (.warning (.malformedHeader raw))

namespace Contribution

def header? : Contribution → Option (String × String)
  | header name value => some (name, value)
  | _ => none

def name? : Contribution → Option String
  | header name _ => some name
  | removal name => some name
  | warning _ => none

def notice? : Contribution → Option Notice
  | warning notice => some notice
  | _ => none

def SpeaksOf (name : String) (c : Contribution) : Prop :=
  ∃ other ∈ c.name?, Text.lower other = Text.lower name

def ofLine (raw : String) : HeaderLine → Contribution
  | .field name value => header name value
  | .removal name => removal name
  | .file => warning (.headersFromFile raw)
  | .malformed => warning (.malformedHeader raw)

def ofString (raw : String) : Contribution := ofLine raw (.ofString raw)

theorem header?_ofLine (raw : String) (line : HeaderLine) : (ofLine raw line).header? = line.field? := by
  cases line <;> rfl

theorem name?_ofLine (raw : String) (line : HeaderLine) : (ofLine raw line).name? = line.name? := by
  cases line <;> rfl

theorem notice?_ofLine (raw : String) (line : HeaderLine) :
    (ofLine raw line).notice? = line.notice? raw := by
  cases line <;> rfl

end Contribution

theorem exists_contributes (raw : String) : ∃ c, Contributes raw c := by
  cases hfile : Text.startsWith "@" raw with
  | true => exact ⟨_, .file hfile⟩
  | false =>
    by_cases hcolon : ':' ∈ raw.toList
    · obtain ⟨name, value, hsplit, hname⟩ := List.eq_append_cons_of_mem hcolon
      have hraw : raw = .ofList name ++ ":" ++ .ofList value := by simp [← String.toList_inj, hsplit]
      by_cases hvalue : Text.trim (.ofList value) = ""
      · exact ⟨_, .removal hfile hraw (by simpa using hname) hvalue⟩
      · exact ⟨_, .header hfile hraw (by simpa using hname) hvalue⟩
    · by_cases hempty : ∃ name blank, raw = name ++ ";" ++ blank ∧ Text.Blank blank.toList
      · obtain ⟨name, blank, hraw, hblank⟩ := hempty
        exact ⟨_, .empty hfile hcolon hraw hblank⟩
      · exact ⟨_, .malformed hfile hcolon fun name blank hraw hblank =>
          hempty ⟨name, blank, hraw, hblank⟩⟩

theorem reverse_trimEnd_eq_cons {rest : List Char} :
    (Text.trimEnd raw.toList).reverse = ';' :: rest ↔
      ∃ blank, raw = .ofList rest.reverse ++ ";" ++ blank ∧ Text.Blank blank.toList := by
  constructor
  · intro h
    have htrimmed : Text.trimEnd raw.toList = rest.reverse ++ [';'] := by
      rw [← List.reverse_cons, ← h, List.reverse_reverse]
    refine ⟨.ofList (raw.toList.rtakeWhile Text.isBlank), ?_, ?_⟩
    · have hsplit := Text.trimEnd_append_rtakeWhile raw.toList
      rw [htrimmed] at hsplit
      exact String.toList_inj.1 (by simpa using hsplit.symm)
    · rw [String.toList_ofList]
      exact Text.blank_rtakeWhile _
  · rintro ⟨blank, rfl, hblank⟩
    have hlast : ∀ c ∈ (rest.reverse ++ [';']).getLast?, Text.isBlank c = false := by
      rw [List.getLast?_concat]
      rintro c ⟨⟩
      decide
    have htrimmed : Text.trimEnd (rest.reverse ++ [';'] ++ blank.toList) = rest.reverse ++ [';'] :=
      Text.trimEnd_append hlast hblank
    simpa using congrArg List.reverse htrimmed

theorem Contributes.ofString_eq (h : Contributes raw c) : Contribution.ofString raw = c := by
  have hcolon {name value : String} (hraw : raw = name ++ ":" ++ value)
      (hname : ':' ∉ name.toList) : Text.cut ':' raw = (name, some value) := by
    rw [hraw]
    exact Text.cut_append hname value
  rw [Contribution.ofString, HeaderLine.ofString]
  cases h with
  | file hfile =>
    rw [if_pos hfile]
    rfl
  | header hfile hraw hname hvalue =>
    simp only [hfile, hcolon hraw hname, hvalue]
    rfl
  | removal hfile hraw hname hvalue =>
    simp only [hfile, hcolon hraw hname, hvalue]
    rfl
  | @empty name blank hfile hnone hraw hblank =>
    have hreverse : (Text.trimEnd raw.toList).reverse = ';' :: name.toList.reverse :=
      reverse_trimEnd_eq_cons.2 ⟨blank, by simpa using hraw, hblank⟩
    simp only [hfile, Text.cut_of_not_mem hnone, hreverse]
    simp [Contribution.ofLine]
  | malformed hfile hnone hother =>
    simp only [hfile, Text.cut_of_not_mem hnone]
    split
    · cases ‹_›
    · split
      · rename_i hreverse
        obtain ⟨blank, hraw, hblank⟩ := reverse_trimEnd_eq_cons.1 hreverse
        exact absurd hblank (hother _ blank hraw)
      · rfl

theorem contributes_iff : Contributes raw c ↔ Contribution.ofString raw = c := by
  constructor
  · exact Contributes.ofString_eq
  · rintro rfl
    obtain ⟨c, hc⟩ := exists_contributes raw
    rwa [hc.ofString_eq]

theorem forall₂_contributes :
    List.Forall₂ Contributes lines given ↔ given = lines.map .ofString := by
  have heq : Contributes = fun raw c => Contribution.ofString raw = c :=
    funext₂ fun _ _ => propext contributes_iff
  rw [heq, ← List.forall₂_map_left_iff, List.forall₂_eq_eq_eq, eq_comm]

inductive ImpliedHeader
  | userAgent
  | referer
  | contentType
  | accept
  deriving DecidableEq

def ImpliedHeader.name : ImpliedHeader → String
  | userAgent => "User-Agent"
  | referer => "Referer"
  | contentType => "Content-Type"
  | accept => "Accept"

def withValues (implied : ImpliedHeader → Option String) (hs : List ImpliedHeader) :
    List (String × String) :=
  hs.filterMap fun h => (implied h).map (h.name, ·)

end Request

namespace Arguments

open Request

variable {t : FlagTable} {lenient : Bool} {tokens : List String} {notices : List Notice}
  {a : Arguments} {r : Request} {h : ImpliedHeader} {value : String}

def Wants (a : Arguments) (value : String) : ImpliedHeader → Prop
  | .userAgent => a.text? "user-agent" = some value
  | .referer => value ≠ "" ∧ (a.text? "referer" = some (value ++ ";auto") ∨
      a.text? "referer" = some value ∧ ∀ start, value ≠ start ++ ";auto")
  | .contentType | .accept => a.has "json" = true ∧ value = "application/json"

/-- The headers that are sent, given what the header lines contribute and what other flags imply. The
content type of a form with several parts is left out. -/
structure Heads (a : Arguments) (given : List Contribution)
    (implied : ImpliedHeader → Option String) (r : Request) : Prop where
  present : ∀ h value, implied h = some value ↔
    a.Wants value h ∧ ∀ c ∈ given, ¬ c.SpeaksOf h.name
  forms : ∀ parts, r.body = .multipart parts → r.headers =
    withValues implied [.userAgent, .referer]
      ++ withoutMultipartType (given.filterMap Contribution.header?)
      ++ withValues implied [.contentType, .accept]
  others : (∀ parts, r.body ≠ .multipart parts) → r.headers =
    withValues implied [.userAgent, .referer]
      ++ given.filterMap Contribution.header?
      ++ withValues implied [.contentType, .accept]

section Implied

theorem referer?_eq_some : a.referer? = some value ↔ a.Wants value .referer := by
  have hdrop (start : String) : Text.dropEnd 5 (start ++ ";auto") = start :=
    Text.dropEnd_append start ";auto"
  rw [referer?, Option.bind_eq_some_iff]
  constructor
  · rintro ⟨text, htext, h⟩
    obtain ⟨hne, h⟩ := Option.ite_none_left_eq_some.1 h
    obtain rfl := Option.some.inj h
    refine ⟨hne, ?_⟩
    split
    · rename_i hauto
      obtain ⟨start, rfl⟩ := Text.endsWith_eq_true.1 hauto
      exact .inl (by rwa [hdrop])
    · rename_i hauto
      exact .inr ⟨htext, fun start heq => hauto (Text.endsWith_eq_true.2 ⟨start, heq⟩)⟩
  · rintro ⟨hne, htext | ⟨htext, hplain⟩⟩
    · have hauto : Text.endsWith ";auto" (value ++ ";auto") = true :=
        Text.endsWith_eq_true.2 ⟨value, rfl⟩
      refine ⟨_, htext, ?_⟩
      simp only [if_pos hauto, hdrop, if_neg hne]
    · have hauto : ¬ Text.endsWith ";auto" value = true := by
        rw [Text.endsWith_eq_true]
        rintro ⟨start, heq⟩
        exact hplain start heq
      refine ⟨_, htext, ?_⟩
      simp only [if_neg hauto, if_neg hne]

def wanted? (a : Arguments) : ImpliedHeader → Option String
  | .userAgent => a.text? "user-agent"
  | .referer => a.referer?
  | .contentType | .accept => a.jsonType?

theorem jsonType?_eq_some :
    a.jsonType? = some value ↔ a.has "json" = true ∧ value = "application/json" := by
  rw [jsonType?, Option.ite_none_right_eq_some, Option.some_inj, eq_comm (a := value)]

theorem wanted?_eq_some : a.wanted? h = some value ↔ a.Wants value h := by
  cases h with
  | userAgent => exact .rfl
  | referer => exact referer?_eq_some
  | contentType | accept => exact jsonType?_eq_some

def implied? (a : Arguments) (h : ImpliedHeader) : Option String :=
  if a.spokenOf (Text.lower h.name) then none else a.wanted? h

theorem unlessSpokenOf_wanted? (a : Arguments) (h : ImpliedHeader) :
    a.unlessSpokenOf h.name (a.wanted? h) = ((a.implied? h).map (h.name, ·)).toList := by
  rw [unlessSpokenOf, implied?]
  split <;> rfl

theorem headers_eq (a : Arguments) : a.headers =
    withValues a.implied? [.userAgent, .referer] ++ a.customHeaders
      ++ withValues a.implied? [.contentType, .accept] := by
  simp only [withValues, List.filterMap_eq_flatMap_toList, List.flatMap_cons, List.flatMap_nil,
    ← unlessSpokenOf_wanted?, List.append_nil]
  exact List.append_assoc ..

theorem withoutMultipartType_append (hs more : List (String × String)) :
    withoutMultipartType (hs ++ more) = withoutMultipartType hs ++ withoutMultipartType more :=
  List.filter_append ..

theorem withoutMultipartType_withValues (a : Arguments) (hs : List ImpliedHeader) :
    withoutMultipartType (withValues a.implied? hs) = withValues a.implied? hs := by
  refine List.filter_eq_self.2 fun header hheader => ?_
  obtain ⟨h, -, hvalue⟩ := List.mem_filterMap.1 hheader
  obtain ⟨value, himplied, rfl⟩ := Option.map_eq_some_iff.1 hvalue
  have hwants : a.Wants value h := by
    rw [implied?] at himplied
    exact wanted?_eq_some.1 (Option.ite_none_left_eq_some.1 himplied).2
  by_cases htype : h = .contentType
  · obtain ⟨-, rfl⟩ : a.Wants value .contentType := htype ▸ hwants
    rw [htype]
    decide
  · have hname : Text.lower h.name ≠ "content-type" := by
      cases h with
      | contentType => exact absurd rfl htype
      | userAgent | referer | accept => decide
    simp [isMultipartType, hname]

end Implied

section Contributions

def contributions (a : Arguments) : List Contribution := (a.texts "header").map .ofString

theorem customHeaders_eq : a.customHeaders = a.contributions.filterMap Contribution.header? := by
  rw [customHeaders, headerLines, contributions, List.filterMap_map, List.filterMap_map]
  exact List.filterMap_congr fun raw _ => (Contribution.header?_ofLine raw _).symm

theorem headerNotices_eq : a.headerNotices = a.contributions.filterMap Contribution.notice? := by
  rw [headerNotices, contributions, List.filterMap_map]
  exact List.filterMap_congr fun raw _ => (Contribution.notice?_ofLine raw _).symm

theorem spokenOf_eq_true {name : String} :
    a.spokenOf (Text.lower name) = true ↔ ∃ c ∈ a.contributions, c.SpeaksOf name := by
  simp [spokenOf, headerLines, contributions, Contribution.SpeaksOf, Contribution.ofString,
    Contribution.name?_ofLine, Option.any_eq_true]

theorem implied?_eq_some :
    a.implied? h = some value ↔ a.Wants value h ∧ ∀ c ∈ a.contributions, ¬ c.SpeaksOf h.name := by
  rw [implied?, Option.ite_none_left_eq_some, wanted?_eq_some, spokenOf_eq_true, and_comm]
  simp only [not_exists, not_and]

end Contributions

theorem heads_request (hr : a.request.result = .ok r) : a.Heads a.contributions a.implied? r := by
  obtain ⟨l, redirects, -, -, rfl⟩ := request_eq_ok.1 hr
  constructor
  case present => exact fun _ _ => implied?_eq_some
  case forms =>
    intro parts hbody
    obtain ⟨values, hpayload, -⟩ := forms_of_body hbody
    change a.sentHeaders = _
    rw [sentHeaders_of_forms hpayload, headers_eq, withoutMultipartType_append,
      withoutMultipartType_append, withoutMultipartType_withValues, withoutMultipartType_withValues,
      customHeaders_eq]
  case others =>
    intro hbody
    change a.sentHeaders = _
    have hplain : a.sentHeaders = a.headers := by
      cases hpayload : a.payload with
      | forms values =>
        have hform : a.body = .multipart (formParts values) := by rw [body, hpayload]
        exact absurd hform (hbody (formParts values))
      | none => rw [sentHeaders, hpayload]
      | data pieces => rw [sentHeaders, hpayload]
    rw [hplain, headers_eq, customHeaders_eq]

theorem kind_of_topic {n : Request.Notice} (h : n.topic = .headers) :
    (Warning.request n).kind = .loss := by
  cases n <;> first | rfl | cases h

/-- The header lines contribute what their forms say and are told of where they cannot be followed.
The headers are made of this and of those that other flags imply. -/
theorem headers_sent (ht : t = .curl ∨ t = .program)
    (h : parse t lenient tokens = ⟨notices, .ok a⟩) (hr : a.request.result = .ok r) :
    ∃ given implied, (∀ others, List.Forall₂ Contributes (a.texts "header") others ↔
        others = given) ∧
      a.request.notes.filter (·.topic = .headers) = given.filterMap Contribution.notice? ∧
      (∀ n ∈ given.filterMap Contribution.notice?, (Warning.request n).kind = .loss) ∧
      a.Heads given implied r ∧
      (∀ flag ∈ ["user-agent", "referer"],
        (a.has flag = true ↔ ∃ text, a.text? flag = some text)) ∧
      (a.has "json" = true ↔ a.texts "json" ≠ []) := by
  have hfits := fits_of_parse h
  have hsub := FlagTable.curl_subset ht
  have hagent : Flag.text "user-agent" ["A"] ∈ FlagTable.curl.flags := by decide
  have hreferer : Flag.text "referer" ["e"] ∈ FlagTable.curl.flags := by decide
  have hjson : Flag.list "json" [] ∈ FlagTable.curl.flags := by decide
  have hregular := FlagTable.regular_of_eq ht
  obtain ⟨l, -, hnotes⟩ := filter_notes_topic hr
  have hheaders : a.request.notes.filter (·.topic = .headers) = a.headerNotices := hnotes .headers
  refine ⟨a.contributions, a.implied?, fun _ => forall₂_contributes,
    hheaders.trans headerNotices_eq, fun n hn => ?_, heads_request hr, ?_, ?_⟩
  · rw [← headerNotices_eq] at hn
    exact kind_of_topic (about_headerNotices n hn)
  · intro flag hflag
    fin_cases hflag
    · exact hfits.has_iff_text? hregular (hsub hagent) rfl
    · exact hfits.has_iff_text? hregular (hsub hreferer) rfl
  · exact hfits.has_iff_texts (hsub hjson) rfl

theorem headers_sent_implied : ∃ a r given, ∃ implied : ImpliedHeader → Option String,
    parse .curl true ["-e", "u;auto", "-A", "b", "-H", "USER-agent:", "-H", "@f", "-H", " c : d",
      "-H", "c:e", "-H", "x; ", "-H", "accept: f", "--json", "g", "http://h/"] = ⟨[], .ok a⟩ ∧
    a.request.result = .ok r ∧
    given = [.removal "USER-agent", .warning (.headersFromFile "@f"), .header "c" "d",
      .header "c" "e", .header "x" "", .header "accept" "f"] ∧
    List.Forall₂ Contributes (a.texts "header") given ∧
    a.request.notes.filter (·.topic = .headers) = [.headersFromFile "@f"] ∧
    a.Heads given implied r ∧ implied .userAgent = none ∧ implied .referer = some "u" ∧
    r.headers = [("Referer", "u"), ("c", "d"), ("c", "e"), ("x", ""), ("accept", "f"),
      ("Content-Type", "application/json")] := by
  let lines := ["USER-agent:", "@f", " c : d", "c:e", "x; ", "accept: f"]
  let a : Arguments := ⟨⟨"referer", false, .word "u;auto"⟩ :: ⟨"user-agent", false, .word "b"⟩ ::
    lines.map (⟨"header", true, .word ·⟩) ++ [⟨"json", true, .word "g"⟩], ["http://h/"]⟩
  let r : Request := { method := .post, url := "http://h/", body := .raw "g" none, headers :=
    [("Referer", "u"), ("c", "d"), ("c", "e"), ("x", ""), ("accept", "f"),
      ("Content-Type", "application/json")] }
  have hread : parse .curl true ["-e", "u;auto", "-A", "b", "-H", "USER-agent:", "-H", "@f",
      "-H", " c : d", "-H", "c:e", "-H", "x; ", "-H", "accept: f", "--json", "g", "http://h/"] =
      ⟨[], .ok a⟩ := by cbv
  have hr : a.request.result = .ok r := by decide +kernel
  obtain ⟨given, implied, hgiven, hnotes, -, hheads, -⟩ := headers_sent (.inl rfl) hread hr
  have hlines := (hgiven given).2 rfl
  obtain rfl : given = [.removal "USER-agent", .warning (.headersFromFile "@f"), .header "c" "d",
      .header "c" "e", .header "x" "", .header "accept" "f"] :=
    (forall₂_contributes.1 hlines).trans (by decide +kernel)
  have hspoken : Contribution.SpeaksOf "User-Agent" (.removal "USER-agent") :=
    ⟨_, rfl, by decide⟩
  refine ⟨a, r, _, implied, hread, hr, rfl, hlines, hnotes, hheads, ?_, ?_, rfl⟩
  · by_contra hsome
    obtain ⟨value, hvalue⟩ := Option.ne_none_iff_exists'.1 hsome
    exact ((hheads.present _ _).1 hvalue).2 _ (by simp) hspoken
  · refine (hheads.present _ _).2 ⟨⟨by decide, .inl rfl⟩, ?_⟩
    simp only [Contribution.SpeaksOf]
    decide +kernel

end Arguments

end CurlScribe
