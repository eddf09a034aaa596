import CurlScribe.Conversion
import CurlScribe.Proofs.Target.FormData
import CurlScribe.Proofs.Target.PythonStatements

namespace CurlScribe

open Url

variable {a : Arguments} {r : Request} {text : String} {fields : List (String × String)}

namespace RequestsScript

theorem items?_tableDisplay (fields : List (String × String)) :
    (tableDisplay fields).items? = some fields := by
  unfold tableDisplay
  split
  · rename_i hnodup
    rw [Display.items?_mapping, Fields.ofItems_of_nodup hnodup]
  · exact Display.items?_pairs fields

theorem assigned_data (r : Request) :
    Display.assigned "data" (Token.ofText ((code r).text Text.shown)) = dataDisplays (data r) := by
  rw [assigned_code (by decide)]
  simp

theorem assigned_cookies (h : r.cookies ≠ []) :
    Display.assigned "cookies" (Token.ofText ((code r).text Text.shown)) =
      [some (.mapping r.cookies)] := by
  rw [assigned_code (by decide)]
  simp [h]

end RequestsScript

namespace Arguments

/-- A form is assigned once and passed on: as the very text that is sent, or as fields that the
library makes this text of. -/
theorem form_assigned (hr : a.request.result = .ok r) (hbody : r.body = .urlencoded text fields) :
    ([.code "data=data"] : Code) ∈ RequestsScript.arguments r ∧
    ∃ script value, (Target.python.write r).result = .ok script ∧
      Display.assigned "data" (Token.ofText script) = [some value] ∧
      (value = .text text ∨ ∃ items, value.items? = some items ∧ encodeFields items = text) := by
  have hdata := RequestsScript.data_of_form (wellFormed_of_request hr) hbody
  by_cases hform : encodeFields fields = text
  · rw [if_pos hform] at hdata
    refine ⟨by simp [RequestsScript.arguments, RequestsScript.dataArgument, hdata], _,
      RequestsScript.tableDisplay fields, rfl, ?_, .inr ⟨fields, ?_, hform⟩⟩
    · rw [RequestsScript.assigned_data, hdata]
      rfl
    · exact RequestsScript.items?_tableDisplay fields
  · rw [if_neg hform] at hdata
    refine ⟨by simp [RequestsScript.arguments, RequestsScript.dataArgument, hdata], _,
      .text text, rfl, ?_, .inl rfl⟩
    rw [RequestsScript.assigned_data, hdata]
    rfl

theorem form_assigned_repeated : ∃ a r script value,
    (parse .curl true ["-d", "a=1&a=2", "-d", "q=it%27s+%22x%22", "http://h/"]).result = .ok a ∧
    a.request.result = .ok r ∧
    r.body = .urlencoded "a=1&a=2&q=it%27s+%22x%22"
      [("a", "1"), ("a", "2"), ("q", "it's \"x\"")] ∧
    (Target.python.write r).result = .ok script ∧
    Display.assigned "data" (Token.ofText script) = [some value] ∧
    (value = .text "a=1&a=2&q=it%27s+%22x%22" ∨
      ∃ items, value.items? = some items ∧ encodeFields items = "a=1&a=2&q=it%27s+%22x%22") := by
  let a : Arguments :=
    ⟨[⟨"data", true, .word "a=1&a=2"⟩, ⟨"data", true, .word "q=it%27s+%22x%22"⟩], ["http://h/"]⟩
  let r : Request :=
    { method := .post, url := "http://h/",
      body := .urlencoded "a=1&a=2&q=it%27s+%22x%22"
        [("a", "1"), ("a", "2"), ("q", "it's \"x\"")] }
  have hr : a.request.result = .ok r := by decide +kernel
  obtain ⟨-, script, value, hvalue⟩ := form_assigned hr rfl
  exact ⟨a, r, script, value, by cbv, hr, rfl, hvalue⟩

/-- The cookies are assigned once, as a dictionary, and passed on, so of those with the same name
only the last is kept. All are kept just if no name is given two values, and there is never a notice
about it. -/
theorem cookies_assigned (hr : a.request.result = .ok r) (hne : r.cookies ≠ []) :
    r.cookies = (a.texts "cookie").flatMap Request.cookiesIn ∧
    ([.code "cookies=cookies"] : Code) ∈ RequestsScript.arguments r ∧
    ∃ script entries items, (Target.python.write r).result = .ok script ∧
      Display.assigned "cookies" (Token.ofText script) = [some (.dict entries)] ∧
      (Display.dict entries).items? = some items ∧
      (∀ cookie ∈ r.cookies, cookie ∈ items ↔
        (Fields.values cookie.1 r.cookies).getLast? = some cookie.2) ∧
      (r.cookies ⊆ items ↔
        ∀ cookie ∈ r.cookies, ∀ other ∈ r.cookies, cookie.1 = other.1 → cookie.2 = other.2) ∧
      ∀ cookies, (Target.python.write { r with cookies }).notes = (Target.python.write r).notes := by
  refine ⟨?_, by simp [RequestsScript.arguments, Code.when, hne], _, _, Fields.ofItems r.cookies,
    rfl, RequestsScript.assigned_cookies hne, Display.items?_mapping r.cookies,
    fun _ _ => Fields.mem_ofItems, Fields.subset_ofItems, fun _ => rfl⟩
  obtain ⟨l, redirects, -, -, rfl⟩ := request_eq_ok.1 hr
  rfl

theorem cookies_assigned_several : ∃ a r script entries items,
    (parse .curl true ["-b", "a=1; b=2", "-b", "a=3", "http://h/"]).result = .ok a ∧
    a.request.result = .ok r ∧ r.cookies = [("a", "1"), ("b", "2"), ("a", "3")] ∧
    (Target.python.write r).result = .ok script ∧
    Display.assigned "cookies" (Token.ofText script) = [some (.dict entries)] ∧
    (Display.dict entries).items? = some items ∧
    ("a", "1") ∉ items ∧ ("b", "2") ∈ items ∧ ("a", "3") ∈ items := by
  let a : Arguments :=
    ⟨[⟨"cookie", true, .word "a=1; b=2"⟩, ⟨"cookie", true, .word "a=3"⟩], ["http://h/"]⟩
  let r : Request :=
    { method := .get, url := "http://h/", cookies := [("a", "1"), ("b", "2"), ("a", "3")] }
  have hr : a.request.result = .ok r := by decide
  obtain ⟨-, -, script, entries, items, hscript, hassigned, hitems, hlast, -⟩ :=
    cookies_assigned hr (by decide)
  refine ⟨a, r, script, entries, items, by cbv, hr, rfl, hscript, hassigned, hitems, ?_, ?_, ?_⟩
  · exact mt (hlast _ (by decide)).1 (by decide)
  · exact (hlast _ (by decide)).2 (by decide)
  · exact (hlast _ (by decide)).2 (by decide)

theorem cookies_assigned_lost : ∃ a r script entries,
    (parse .curl true ["-b", "a=1; a=2", "http://h/"]).result = .ok a ∧
    a.request = ⟨[], .ok r⟩ ∧ r.cookies = [("a", "1"), ("a", "2")] ∧
    Target.python.write r = ⟨[], .ok script⟩ ∧
    Display.assigned "cookies" (Token.ofText script) = [some (.dict entries)] ∧
    (Display.dict entries).items? = some [("a", "2")] := by
  let a : Arguments := ⟨[⟨"cookie", true, .word "a=1; a=2"⟩], ["http://h/"]⟩
  let r : Request := { method := .get, url := "http://h/", cookies := [("a", "1"), ("a", "2")] }
  have hr : a.request.result = .ok r := by decide
  have hnotes : a.request.notes = [] := by decide
  have hwritten : (Target.python.write r).notes = [] := by decide
  refine ⟨a, r, (RequestsScript.code r).text Text.shown, [("a", .text "2")], by cbv, ?_, rfl, ?_,
    RequestsScript.assigned_cookies (by decide), Display.items?_mapping r.cookies⟩
  · rw [Noted.eq_of_result hr, hnotes]
  · exact (Noted.eq_of_result rfl).trans (congrArg (Noted.mk · _) hwritten)

end Arguments

end CurlScribe
