import CurlScribe.Proofs.Request.Headers
import CurlScribe.Proofs.Target.PhpOptions
import CurlScribe.Proofs.Text.Cut
import CurlScribe.Proofs.Text.Trim

namespace CurlScribe

open Code (lit)
open Request

variable {r : Request} {raw text : String} {h : String × String}

namespace Request

/-- What header lines make headers of: neither text has white space around it, and no colon is in
the name. -/
structure IsTrimmed (h : String × String) : Prop where
  colon : ':' ∉ h.1.toList
  name : Text.trim h.1 = h.1
  value : Text.trim h.2 = h.2

theorem HeaderLine.isTrimmed_field? (hfield : (ofString raw).field? = some h) : IsTrimmed h := by
  obtain ⟨name, value⟩ := h
  have hline : (Contribution.ofString raw).header? = some (name, value) :=
    (Contribution.header?_ofLine raw _).trans hfield
  have hcontributes : Contributes raw (.header name value) := by
    rw [contributes_iff]
    cases hc : Contribution.ofString raw <;> simp_all [Contribution.header?]
  cases hcontributes with
  | header _ _ hcolon _ =>
    exact ⟨mt Text.mem_of_mem_trim hcolon, Text.trim_trim _, Text.trim_trim _⟩
  | @empty before _ _ hcolon hraw _ =>
    have hname : ':' ∉ before.toList := fun hmem => hcolon (by simp [hraw, hmem])
    exact ⟨mt Text.mem_of_mem_trim hname, Text.trim_trim _, Text.trim_trim ""⟩

end Request

namespace PhpScript

theorem setting?_headers (ms connectMs : Option Int) :
    setting? "HTTPHEADER" (options r ms connectMs) =
      if r.headers = [] then none
      else some (array (r.headers.map fun h => lit (headerLine h))) := by
  have hmethod : setting? "HTTPHEADER" (methodOptions r) = none := by
    unfold methodOptions
    split <;> (try split) <;> simp
  have hcookies : setting? "HTTPHEADER" (cookieOptions r) = none := by
    unfold cookieOptions
    split <;> simp
  have hauth : setting? "HTTPHEADER" (authOptions r) = none := by
    unfold authOptions
    split <;> simp
  have hbody : setting? "HTTPHEADER" (bodyOptions r) = none := by
    unfold bodyOptions
    split
    · split <;> simp
    · split <;> simp
  have htransfer : setting? "HTTPHEADER" (transferOptions r ms connectMs) = none := by
    simp [transferOptions]
  by_cases hempty : r.headers = []
  · simp [options, hmethod, hcookies, hauth, hbody, htransfer, headerOptions, hempty]
  · simp [options, hmethod, hcookies, hauth, hbody, htransfer, headerOptions, hempty]

/-- A line starts as the name does. A name may start as that of a file does, for white space may
stand before it where it is given. -/
theorem startsWith_headerLine (h : String × String) :
    Text.startsWith "@" (headerLine h) = Text.startsWith "@" h.1 := by
  rw [Text.startsWith, Text.startsWith, headerLine, String.append_assoc, String.toList_append]
  cases h.1.toList with
  | nil => simp [List.isPrefixOf]
  | cons c name => simp [List.isPrefixOf]

theorem ofString_headerLine (htrimmed : IsTrimmed h) :
    HeaderLine.ofString (headerLine h) =
      if Text.startsWith "@" h.1 = true then .file
      else if h.2 = "" then .removal h.1 else .field h.1 h.2 := by
  have hcut : Text.cut ':' (headerLine h) = (h.1, some (.ofList (' ' :: h.2.toList))) := by
    have hline : (headerLine h).toList = h.1.toList ++ ':' :: ' ' :: h.2.toList := by
      simp [headerLine]
    rw [Text.cut, hline, Text.cutList_append htrimmed.colon]
    simp
  have hvalue : Text.trim (.ofList (' ' :: h.2.toList)) = h.2 := by
    rw [Text.trim_cons (by decide), String.ofList_toList, htrimmed.value]
  rw [HeaderLine.ofString, startsWith_headerLine, hcut]
  simp only [hvalue, htrimmed.name]

def isKept (h : String × String) : Bool := !Text.startsWith "@" h.1 && h.2 ≠ ""

theorem field?_headerLine (htrimmed : IsTrimmed h) :
    (HeaderLine.ofString (headerLine h)).field? = Option.guard isKept h := by
  rw [ofString_headerLine htrimmed]
  cases hfile : Text.startsWith "@" h.1 with
  | true => simp [HeaderLine.field?, Option.guard, isKept, hfile]
  | false => by_cases hempty : h.2 = "" <;>
      simp [HeaderLine.field?, Option.guard, isKept, hfile, hempty]

theorem notice?_headerLine (htrimmed : IsTrimmed h) :
    (HeaderLine.ofString (headerLine h)).notice? (headerLine h) =
      if Text.startsWith "@" h.1 = true then some (.headersFromFile (headerLine h)) else none := by
  rw [ofString_headerLine htrimmed]
  cases Text.startsWith "@" h.1 with
  | true => rfl
  | false => by_cases hempty : h.2 = "" <;> simp [HeaderLine.notice?, hempty]

end PhpScript

namespace Arguments

open PhpScript

variable {a b : Arguments}

def OnlyHeaderLines (a : Arguments) : Prop :=
  ∀ flag ∈ ["user-agent", "referer", "json"], a.has flag = false

instance : Decidable a.OnlyHeaderLines :=
  inferInstanceAs (Decidable (∀ flag ∈ ["user-agent", "referer", "json"], a.has flag = false))

theorem headers_of_only (h : a.OnlyHeaderLines) : a.headers = a.customHeaders := by
  have hagent := text?_of_has (h "user-agent" (by decide))
  have hreferer := text?_of_has (h "referer" (by decide))
  have hjson := h "json" (by decide)
  simp [headers, unlessSpokenOf, referer?, jsonType?, hagent, hreferer, hjson]

theorem isTrimmed_of_mem_sentHeaders {h : String × String} (honly : a.OnlyHeaderLines)
    (hmem : h ∈ a.sentHeaders) : IsTrimmed h := by
  have hmem : h ∈ a.headers := by
    unfold sentHeaders at hmem
    split at hmem
    · exact List.mem_of_mem_filter hmem
    · exact hmem
  rw [headers_of_only honly, customHeaders, List.mem_filterMap] at hmem
  obtain ⟨line, hline, hfield⟩ := hmem
  obtain ⟨raw, -, rfl⟩ := List.mem_map.1 hline
  exact HeaderLine.isTrimmed_field? hfield

section Lines

variable {hs : List (String × String)} (hlines : b.texts "header" = hs.map headerLine)
  (htrimmed : ∀ h ∈ hs, IsTrimmed h)

include hlines htrimmed

theorem headers_of_lines (honly : b.OnlyHeaderLines) : b.headers = hs.filter isKept := by
  rw [headers_of_only honly, customHeaders, headerLines, hlines, List.filterMap_map,
    List.filterMap_map, ← List.filterMap_eq_filter]
  exact List.filterMap_congr fun h hmem => field?_headerLine (htrimmed h hmem)

theorem headerNotices_of_lines : b.headerNotices =
    (hs.filter fun h => Text.startsWith "@" h.1).map fun h => .headersFromFile (headerLine h) := by
  rw [headerNotices, hlines, List.filterMap_map, ← List.filterMap_eq_filter, List.map_filterMap]
  refine List.filterMap_congr fun h hmem => ?_
  rw [Function.comp_apply, notice?_headerLine (htrimmed h hmem)]
  cases hfile : Text.startsWith "@" h.1 <;> simp [Option.guard, hfile]

end Lines

/-- The lines of the headers say the same headers again, apart from those with an empty value, whose
lines say that there is none of that name, and those whose name starts as that of a file. -/
theorem header_lines_written (hr : a.request.result = .ok r) (honly : a.OnlyHeaderLines)
    (hwrite : (Target.php.write r).result = .ok text) :
    (∃ ms connectMs,
      text = (PhpScript.script (PhpScript.options r ms connectMs)).text apostrophed ∧
      setting? "HTTPHEADER" (PhpScript.options r ms connectMs) =
        if r.headers = [] then none
        else some (array (r.headers.map fun h => lit (headerLine h)))) ∧
    ∀ b : Arguments, b.OnlyHeaderLines → b.texts "header" = r.headers.map headerLine →
      b.headers = r.headers.filter isKept ∧
      b.headerNotices = (r.headers.filter fun h => Text.startsWith "@" h.1).map
        (fun h => .headersFromFile (headerLine h)) ∧
      (b.headers = r.headers ∧ b.headerNotices = [] ↔
        ∀ h ∈ r.headers, Text.startsWith "@" h.1 = false ∧ h.2 ≠ "") := by
  obtain ⟨ms, connectMs, htext⟩ := PhpScript.write_eq_ok hwrite
  refine ⟨⟨ms, connectMs, htext, setting?_headers ms connectMs⟩, fun b hb hlines => ?_⟩
  have htrimmed : ∀ h ∈ r.headers, IsTrimmed h := by
    obtain ⟨l, redirects, -, -, rfl⟩ := request_eq_ok.1 hr
    exact fun h => isTrimmed_of_mem_sentHeaders honly
  have hheaders := headers_of_lines hlines htrimmed hb
  have hnotices := headerNotices_of_lines hlines htrimmed
  refine ⟨hheaders, hnotices, ?_⟩
  rw [hheaders, hnotices, List.filter_eq_self, List.map_eq_nil_iff, List.filter_eq_nil_iff]
  constructor
  · rintro ⟨hkept, -⟩ h hmem
    simpa [isKept] using hkept h hmem
  · intro hkept
    exact ⟨fun h hmem => by simpa [isKept] using hkept h hmem,
      fun h hmem => by simp [(hkept h hmem).1]⟩

theorem header_lines_written_colon : ∃ a r text, ∃ b : Arguments,
    (parse .curl true ["-H", "A: 1", "-H", " b : x:y", "http://h/"]).result = .ok a ∧
    a.request.result = .ok r ∧ a.OnlyHeaderLines ∧ (Target.php.write r).result = .ok text ∧
    b.OnlyHeaderLines ∧ b.texts "header" = r.headers.map headerLine ∧
    r.headers = [("A", "1"), ("b", "x:y")] ∧ b.headers = r.headers ∧ b.headerNotices = [] := by
  let a : Arguments := ⟨[⟨"header", true, .word "A: 1"⟩, ⟨"header", true, .word " b : x:y"⟩],
    ["http://h/"]⟩
  let b : Arguments := ⟨[⟨"header", true, .word "A: 1"⟩, ⟨"header", true, .word "b: x:y"⟩],
    ["http://h/"]⟩
  let r : Request := { method := .get, url := "http://h/", headers := [("A", "1"), ("b", "x:y")] }
  have hr : a.request.result = .ok r := by decide
  have ha : a.OnlyHeaderLines := by decide
  have hb : b.OnlyHeaderLines := by decide
  obtain ⟨-, hlines⟩ := header_lines_written hr ha rfl
  obtain ⟨hheaders, hnotices⟩ := (hlines b hb rfl).2.2.2 (by decide)
  exact ⟨a, r, _, b, by cbv, hr, ha, rfl, hb, rfl, rfl, hheaders, hnotices⟩

theorem header_lines_written_empty :
    (∃ a r b, (parse .curl true ["-H", "X-Empty;", "http://h/"]).result = .ok a ∧
      a.request.result = .ok r ∧ r.headers = [("X-Empty", "")] ∧
      (Target.php.write r).result = .ok ("<?php\n$ch = curl_init();\n"
        ++ "curl_setopt($ch, CURLOPT_URL, 'http://h/');\n"
        ++ "curl_setopt($ch, CURLOPT_RETURNTRANSFER, true);\n"
        ++ "curl_setopt($ch, CURLOPT_HTTPHEADER, [\n    'X-Empty: ',\n]);\n\n"
        ++ "$response = curl_exec($ch);\n\ncurl_close($ch);\n") ∧
      (parse .curl true ["-H", "X-Empty: ", "http://h/"]).result = .ok b ∧ b.headers = []) ∧
    ∃ a r b, (parse .curl true ["-H", " @x: 1", "http://h/"]).result = .ok a ∧
      a.request.result = .ok r ∧ r.headers = [("@x", "1")] ∧
      (parse .curl true ["-H", "@x: 1", "http://h/"]).result = .ok b ∧
      b.headerNotices = [.headersFromFile "@x: 1"] := by
  constructor
  · let a : Arguments := ⟨[⟨"header", true, .word "X-Empty;"⟩], ["http://h/"]⟩
    let b : Arguments := ⟨[⟨"header", true, .word "X-Empty: "⟩], ["http://h/"]⟩
    let r : Request := { method := .get, url := "http://h/", headers := [("X-Empty", "")] }
    exact ⟨a, r, b, by cbv, by decide +kernel, rfl, by decide +kernel, by cbv, by decide +kernel⟩
  · let a : Arguments := ⟨[⟨"header", true, .word " @x: 1"⟩], ["http://h/"]⟩
    let b : Arguments := ⟨[⟨"header", true, .word "@x: 1"⟩], ["http://h/"]⟩
    let r : Request := { method := .get, url := "http://h/", headers := [("@x", "1")] }
    exact ⟨a, r, b, by cbv, by decide +kernel, rfl, by cbv, by decide +kernel⟩

end Arguments

end CurlScribe
