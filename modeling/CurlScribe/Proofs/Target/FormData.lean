import CurlScribe.Proofs.Request.WellFormed
import CurlScribe.Proofs.Target.ContentType
import CurlScribe.Proofs.Url.FormEncoded

namespace CurlScribe

open Url

variable {r : Request} {text : String} {fields : List (String × String)}

namespace RequestsScript

theorem data_of_form (hr : r.WellFormed) (hbody : r.body = .urlencoded text fields) :
    data r = if encodeFields fields = text then .form fields else .text text := by
  have hupload : r.uploadFile = none := by
    by_contra hsome
    have hnobody := hr.upload (Option.isSome_iff_ne_none.2 hsome)
    rw [hbody] at hnobody
    cases hnobody
  exact data_of_urlencoded hupload hbody

theorem data_eq_form_iff (hr : r.WellFormed) (hbody : r.body = .urlencoded text fields) :
    data r = .form fields ↔ encodeFields fields = text := by
  rw [data_of_form hr hbody]
  split
  · rename_i heq
    exact iff_of_true rfl heq
  · rename_i hne
    exact iff_of_false (by rintro ⟨⟩) hne

end RequestsScript

namespace Arguments

/-- The fields of a form are read back from its text, whatever is in them. So the body of a request
is passed as its fields exactly if it is the form of some. -/
theorem form_passed :
    (∀ given, IsForm given → formFields? (encodeFields given) = some given) ∧
    ∀ (a : Arguments) (r : Request) (text : String) (fields : List (String × String)),
      a.request.result = .ok r → r.body = .urlencoded text fields →
      (encodeFields fields = text ↔ ∃ given, IsForm given ∧ encodeFields given = text) ∧
      (RequestsScript.data r = .form fields ↔ encodeFields fields = text) := by
  refine ⟨fun given hgiven => formFields?_encodeFields hgiven, ?_⟩
  intro a r text fields hr hbody
  have hr : r.WellFormed := wellFormed_of_request hr
  exact ⟨encodeFields_eq_iff (hr.fields text fields hbody),
    RequestsScript.data_eq_form_iff hr hbody⟩

theorem form_passed_space :
    formFields? (encodeFields [("a b", "&=+%é"), ("a b", "")]) =
      some [("a b", "&=+%é"), ("a b", "")] ∧
    (∃ a r, (parse .curl true ["-d", "a=b+c", "http://h/"]).result = .ok a ∧
      a.request.result = .ok r ∧ r.body = .urlencoded "a=b+c" [("a", "b c")] ∧
      RequestsScript.data r = .form [("a", "b c")]) ∧
    ∃ a r, (parse .curl true ["-d", "a=b c", "http://h/"]).result = .ok a ∧
      a.request.result = .ok r ∧ r.body = .urlencoded "a=b c" [("a", "b c")] ∧
      ¬ ∃ given, IsForm given ∧ encodeFields given = "a=b c" := by
  obtain ⟨hread, hpassed⟩ := form_passed
  let sent (text : String) : Arguments := ⟨[⟨"data", true, .word text⟩], ["http://h/"]⟩
  let r (text : String) : Request :=
    { method := .post, url := "http://h/", body := .urlencoded text [("a", "b c")] }
  have hplus : (sent "a=b+c").request.result = .ok (r "a=b+c") := by decide +kernel
  have hspace : (sent "a=b c").request.result = .ok (r "a=b c") := by decide +kernel
  have hform : encodeFields [("a", "b c")] = "a=b+c" := by decide +kernel
  refine ⟨hread _ ⟨by simp, by simp⟩, ⟨_, _, by cbv, hplus, rfl, ?_⟩, _, _, by cbv, hspace, rfl, ?_⟩
  · exact (hpassed _ _ _ _ hplus rfl).2.2 hform
  · intro hgiven
    have heq : encodeFields [("a", "b c")] = "a=b c" := (hpassed _ _ _ _ hspace rfl).1.2 hgiven
    rw [hform] at heq
    exact absurd heq (by decide)

end Arguments

end CurlScribe
