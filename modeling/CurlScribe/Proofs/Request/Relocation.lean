import CurlScribe.Proofs.Request.WellFormed

namespace CurlScribe.Arguments

open Request Url

variable {a : Arguments} {r : Request}

def movedData (a : Arguments) : String :=
  match a.payload with
  | .data pieces => if a.isOn "get" then joinedData pieces else ""
  | _ => ""

theorem sentUrl_eq_addQuery (a : Arguments) (url : String) :
    a.sentUrl url = addQuery url a.movedData := by
  have hnone : addQuery url "" = url := if_pos rfl
  unfold sentUrl movedData
  cases a.payload with
  | none => exact hnone.symm
  | forms values => exact hnone.symm
  | data pieces =>
    by_cases hget : a.isOn "get" = true
    · simp [hget]
    · simp [hget, hnone]

/-- The URL of a request can be taken apart unless a bracket of its host stands alone. -/
theorem exists_ofString_url (h : a.request.result = .ok r) :
    (∃ u, Url.ofString r.url = .ok u) ↔ Paired (authorityIn r.url.toList) := by
  obtain ⟨l, redirects, hl, -, rfl⟩ := request_eq_ok.1 h
  obtain ⟨raw, others, -, hl⟩ := location_eq_ok.1 hl
  obtain ⟨given, scheme, rest, -, hloc⟩ := locate_parts hl
  have haccepted := (exists_locate_eq_ok.1 ⟨l, hl⟩).2
  have hauthority : authorityIn (a.sentUrl l.url).toList =
      hostPart (authorityIn (withScheme raw.toList)) := by
    rw [sentUrl_authority hloc, ← hloc.authorityIn, authorityIn_locate hl]
  change (∃ u, Url.ofList (a.sentUrl l.url).toList = .ok u) ↔
    Paired (authorityIn (a.sentUrl l.url).toList)
  rw [exists_ofList_eq_ok, hauthority]
  constructor
  · rintro ⟨hbrackets, -⟩
    exact (checkBrackets_eq_ok.1 hbrackets).1
  · intro hpaired
    have hhost := (accepted_hostPart haccepted).2 hpaired
    exact ⟨hhost.brackets, hhost.lookalikes⟩

/-- The URL of a request is the location that it gives itself, unless data with a space or control
in it was moved there, or a bracket of the host had its counterpart among the credentials only. -/
theorem locate_url (h : a.request.result = .ok r) :
    (locate r.url = .ok ⟨r.url, none⟩ ↔
      a.movedData.toList.any isForbidden = false ∧ Paired (authorityIn r.url.toList)) ∧
    r.url.toList.any isForbidden = a.movedData.toList.any isForbidden := by
  obtain ⟨l, redirects, hl, -, hr⟩ := request_eq_ok.1 h
  obtain ⟨raw, others, -, hl⟩ := location_eq_ok.1 hl
  have hurl : r.url = addQuery l.url a.movedData := hr ▸ a.sentUrl_eq_addQuery l.url
  obtain ⟨-, haccepted⟩ := exists_locate_eq_ok.1 ⟨l, hl⟩
  obtain ⟨given, scheme, rest, -, hloc⟩ := locate_parts hl
  obtain ⟨rest, hsent⟩ := hloc.addQuery a.movedData
  rw [← hurl] at hsent
  have hforbidden : r.url.toList.any isForbidden = a.movedData.toList.any isForbidden := by
    rw [hurl, any_addQuery (by decide) (by decide), any_isForbidden_locate hl, Bool.false_or]
  have hhost : authorityIn r.url.toList = hostPart (authorityIn (withScheme raw.toList)) := by
    rw [hsent.authorityIn, ← hloc.authorityIn, authorityIn_locate hl]
  have hat : '@' ∉ hostPart (authorityIn (withScheme raw.toList)) :=
    Text.not_mem_snd_cutLastList '@' _
  refine ⟨?_, hforbidden⟩
  rw [locate_eq_self hsent, hforbidden, hhost, accepted_hostPart haccepted]
  simp only [hat, not_false_eq_true, and_true]

theorem locate_url_query : ∃ a r,
    (parse .curl false ["-G", "-d", "a=1", "http://u:p@[::1]:80/x#f"]).result = .ok a ∧
    a.request.result = .ok r ∧ r.url = "http://[::1]:80/x?a=1#f" ∧
    locate r.url = .ok ⟨r.url, none⟩ := by
  let a : Arguments := ⟨[⟨"get", false, .toggle true⟩, ⟨"data", true, .word "a=1"⟩],
    ["http://u:p@[::1]:80/x#f"]⟩
  let r : Request :=
    { method := .get, url := "http://[::1]:80/x?a=1#f", auth := .basic "u" "p" }
  have h : a.request.result = .ok r := by decide
  have hpaired : Paired (authorityIn r.url.toList) := by
    unfold Paired
    decide
  exact ⟨a, r, by cbv, h, rfl, (locate_url h).1.2 ⟨by decide, hpaired⟩⟩

theorem locate_url_refused :
    (∃ a r, (parse .curl false ["-G", "-d", "a b", "http://h/"]).result = .ok a ∧
      a.request.result = .ok r ∧ r.url = "http://h/?a b" ∧ ∀ l, locate r.url ≠ .ok l) ∧
    ∃ a r, (parse .curl false ["http://u]@[::1/"]).result = .ok a ∧
      a.request.result = .ok r ∧ r.url = "http://[::1/" ∧ ∀ l, locate r.url ≠ .ok l := by
  constructor
  · let a : Arguments :=
      ⟨[⟨"get", false, .toggle true⟩, ⟨"data", true, .word "a b"⟩], ["http://h/"]⟩
    let r : Request := { method := .get, url := "http://h/?a b" }
    refine ⟨a, r, by cbv, by decide, rfl, fun l hl => ?_⟩
    have hspace := (exists_locate_eq_ok.1 ⟨l, hl⟩).1
    revert hspace
    decide
  · let a : Arguments := ⟨[], ["http://u]@[::1/"]⟩
    let r : Request := { method := .get, url := "http://[::1/", auth := .basic "u]" "" }
    refine ⟨a, r, by cbv, by decide, rfl, fun l hl => ?_⟩
    have hbrackets := (exists_locate_eq_ok.1 ⟨l, hl⟩).2.brackets
    revert hbrackets
    decide

end CurlScribe.Arguments
