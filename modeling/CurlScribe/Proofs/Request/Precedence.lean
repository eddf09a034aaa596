import CurlScribe.Conversion
import CurlScribe.Proofs.Request.Topic

namespace CurlScribe

namespace Request

inductive Payload.Kind
  | none
  | data
  | forms
  deriving DecidableEq

def Payload.kind : Payload → Payload.Kind
  | .none => .none
  | .data _ => .data
  | .forms _ => .forms

end Request

inductive Body.IsData : Body → Prop
  | raw {data file} : IsData (.raw data file)
  | urlencoded {text fields} : IsData (.urlencoded text fields)

namespace Arguments

open Request

variable {a : Arguments} {r : Request} {kind : Payload.Kind} {names : List String}
  {name method : String} {warnings : Nat}

inductive Carries (a : Arguments) : Payload.Kind → Prop
  | forms {before o after} : a.occurrences = before ++ o :: after → o.name ∈ formFlags →
      (∀ p ∈ after, p.name ∉ dataFlags ++ formFlags) → Carries a .forms
  | data {before o after} : a.occurrences = before ++ o :: after → o.name ∈ dataFlags →
      (∀ p ∈ after, p.name ∉ dataFlags ++ formFlags) → Carries a .data
  | none : (∀ p ∈ a.occurrences, p.name ∉ dataFlags ++ formFlags) → Carries a .none

/-- Whether there is to be a GET. One with the parts of a form is not possible. -/
structure Gets (a : Arguments) (r : Request) : Prop where
  get : a.isOn "get" = true
  parts : ∀ parts, r.body ≠ .multipart parts

inductive Implies (a : Arguments) (r : Request) : String → Nat → Prop
  | headAsked : a.Gets r → a.isOn "head" = true → Implies a r "HEAD" 0
  | getAsked : a.Gets r → a.isOn "head" = false → Implies a r "GET" 0
  | put : ¬ a.Gets r → r.uploadFile.isSome = true → Implies a r "PUT" 0
  | post : ¬ a.Gets r → r.uploadFile = none → r.body ≠ .none →
      Implies a r "POST" (if a.isOn "head" then 1 else 0)
  | head : ¬ a.Gets r → r.uploadFile = none → r.body = .none → a.isOn "head" = true →
      Implies a r "HEAD" 0
  | get : ¬ a.Gets r → r.uploadFile = none → r.body = .none → a.isOn "head" = false →
      Implies a r "GET" 0

/-- The method that is named, or else the one that goes with the request. -/
inductive Chooses (a : Arguments) (r : Request) : String → Nat → Prop
  | named {name : String} : a.text? "request" = some name → name ≠ "" → Chooses a r name 0
  | implied {name : String} {warnings : Nat} :
      (∀ named, a.text? "request" = some named → named = "") →
      Implies a r name warnings → Chooses a r name warnings

/-- What is sent, and whether it goes into the body, into the URL or is left aside. -/
structure Sends (a : Arguments) (kind : Payload.Kind) (l : Location) (r : Request) : Prop where
  forms : (∃ parts, r.body = .multipart parts) ↔ kind = .forms
  data : r.body.IsData ↔ kind = .data ∧ a.isOn "get" = false
  none : r.body = .none ↔ kind = .none ∨ kind = .data ∧ a.isOn "get" = true
  url : r.url ≠ l.url → kind = .data ∧ a.isOn "get" = true
  upload : r.uploadFile = if r.body = .none then a.text? "upload-file" else Option.none

section Payload

theorem lastOf?_eq_some : a.lastOf? names = some name ↔ ∃ before o after,
    a.occurrences = before ++ o :: after ∧ o.name = name ∧ name ∈ names ∧
      ∀ p ∈ after, p.name ∉ names := by
  rw [lastOf?, order, List.filter_map, List.getLast?_map, List.getLast?_filter,
    Option.map_eq_some_iff]
  simp only [List.find?_eq_some_iff_append]
  constructor
  · rintro ⟨o, ⟨hin, after, before, hsplit, hafter⟩, rfl⟩
    refine ⟨before.reverse, o, after.reverse, ?_, rfl, by simpa using hin, by simpa using hafter⟩
    rw [← List.reverse_reverse a.occurrences, hsplit]
    simp
  · rintro ⟨before, o, after, hsplit, rfl, hin, hafter⟩
    exact ⟨o, ⟨by simpa using hin, after.reverse, before.reverse, by simp [hsplit],
      by simpa using hafter⟩, rfl⟩

theorem lastOf?_eq_none : a.lastOf? names = none ↔ ∀ p ∈ a.occurrences, p.name ∉ names := by
  simp [lastOf?, order]

theorem not_mem_formFlags : ∀ flag ∈ dataFlags, flag ∉ formFlags := by decide

theorem kind_of_last {flag : String} (h : a.lastOf? (dataFlags ++ formFlags) = some flag) :
    a.payload.kind = if flag ∈ formFlags then .forms else .data := by
  rw [payload, h]
  simp only [List.contains_iff_mem]
  split <;> rfl

theorem carries_iff : a.Carries kind ↔ a.payload.kind = kind := by
  constructor
  · intro h
    cases h with
    | forms hsplit hflag hafter =>
      rw [kind_of_last (lastOf?_eq_some.2
        ⟨_, _, _, hsplit, rfl, List.mem_append_right _ hflag, hafter⟩), if_pos hflag]
    | data hsplit hflag hafter =>
      rw [kind_of_last (lastOf?_eq_some.2
        ⟨_, _, _, hsplit, rfl, List.mem_append_left _ hflag, hafter⟩),
        if_neg (not_mem_formFlags _ hflag)]
    | none hnone =>
      rw [payload, lastOf?_eq_none.2 hnone]
      rfl
  · rintro rfl
    cases hlast : a.lastOf? (dataFlags ++ formFlags) with
    | none =>
      rw [payload, hlast]
      exact .none (lastOf?_eq_none.1 hlast)
    | some flag =>
      obtain ⟨before, o, after, hsplit, rfl, hin, hafter⟩ := lastOf?_eq_some.1 hlast
      rw [kind_of_last hlast]
      by_cases hflag : o.name ∈ formFlags
      · rw [if_pos hflag]
        exact .forms hsplit hflag hafter
      · rw [if_neg hflag]
        exact .data hsplit ((List.mem_append.1 hin).resolve_right hflag) hafter

end Payload

section Body

theorem isData_dataBody (pieces headers : List (String × String)) :
    (dataBody pieces headers).IsData := by
  unfold dataBody
  split
  · exact .raw
  · simp only
    split
    · exact .urlencoded
    · exact .raw

theorem sends_requestTo (a : Arguments) (l : Location) (redirects : Option Int) :
    a.Sends a.payload.kind l { a.requestTo l with maxRedirects := redirects } := by
  have hnone : ¬ (Body.none).IsData := nofun
  have hparts {parts : List Part} : ¬ (Body.multipart parts).IsData := nofun
  cases hpayload : a.payload with
  | none =>
    have hbody : a.body = .none := by rw [body, hpayload]
    have hurl : a.sentUrl l.url = l.url := by rw [sentUrl, hpayload]
    constructor <;> simp [requestTo, uploadFile, hbody, hurl, hnone, Payload.kind]
  | data pieces =>
    by_cases hget : a.isOn "get" = true
    · have hbody : a.body = .none := by simp [body, hpayload, hget]
      constructor <;> simp [requestTo, uploadFile, hbody, hget, hnone, Payload.kind]
    · have hbody : a.body = dataBody pieces a.headers := by simp [body, hpayload, hget]
      have hurl : a.sentUrl l.url = l.url := by simp [sentUrl, hpayload, hget]
      have hdata : a.body.IsData := hbody ▸ isData_dataBody pieces a.headers
      have hsome : a.body ≠ .none := fun heq => hnone (heq ▸ hdata)
      have hform {parts : List Part} : a.body ≠ .multipart parts := fun heq => hparts (heq ▸ hdata)
      constructor <;> simp [requestTo, uploadFile, hurl, hget, hdata, hsome, hform, Payload.kind]
  | forms values =>
    have hbody : a.body = .multipart (formParts values) := by rw [body, hpayload]
    have hurl : a.sentUrl l.url = l.url := by rw [sentUrl, hpayload]
    constructor <;> simp [requestTo, uploadFile, hbody, hurl, hparts, Payload.kind]

end Body

section Method

theorem Implies.unique {other : String} {more : Nat} (h : a.Implies r method warnings)
    (h' : a.Implies r other more) : method = other ∧ warnings = more := by
  cases h <;> cases h' <;> simp_all

theorem Chooses.unique {other : String} {more : Nat} (h : a.Chooses r method warnings)
    (h' : a.Chooses r other more) : method = other ∧ warnings = more := by
  cases h with
  | named hname hne =>
    cases h' with
    | named hname' => exact ⟨Option.some.inj (hname.symm.trans hname'), rfl⟩
    | implied hnone => exact absurd (hnone _ hname) hne
  | implied hnone himplied =>
    cases h' with
    | named hname hne => exact absurd (hnone _ hname) hne
    | implied _ himplied' => exact himplied.unique himplied'

theorem gets_iff (hbody : r.body = a.body) : a.Gets r ↔ a.getsData = true := by
  rw [getsData, Bool.and_eq_true]
  constructor
  · rintro ⟨hget, hparts⟩
    refine ⟨hget, ?_⟩
    rw [hbody] at hparts
    split
    · rename_i parts heq
      exact absurd heq (hparts parts)
    · rfl
  · rintro ⟨hget, hparts⟩
    refine ⟨hget, fun parts heq => ?_⟩
    rw [← hbody, heq] at hparts
    cases hparts

theorem explicitMethod_eq_none :
    a.explicitMethod = none ↔ ∀ name, a.text? "request" = some name → name = "" := by
  unfold explicitMethod
  cases a.text? "request" with
  | none => simp
  | some name => simp [Method.ofString?]

theorem count_methodNotices : a.methodNotices.count .bodyOverHead =
    if a.explicitMethod = none ∧ a.getsData = false ∧ a.body ≠ .none ∧ a.isOn "head" = true
    then 1 else 0 := by
  rw [methodNotices, apply_ite (List.count _)]
  simp [and_assoc]

theorem implies_impliedMethod (hbody : r.body = a.body) (hupload : r.uploadFile = a.uploadFile)
    (hexplicit : a.explicitMethod = none) :
    a.Implies r a.impliedMethod.name (a.methodNotices.count .bodyOverHead) := by
  rw [impliedMethod]
  by_cases hgets : a.getsData = true
  · have hcount : a.methodNotices.count .bodyOverHead = 0 := by simp [count_methodNotices, hgets]
    have hget := (gets_iff hbody).2 hgets
    rw [hcount, if_pos hgets]
    cases hhead : a.isOn "head" with
    | true => exact .headAsked hget hhead
    | false => exact .getAsked hget hhead
  · have hget := mt (gets_iff hbody).1 hgets
    rw [if_neg hgets]
    by_cases hnone : a.body = .none
    · have hcount : a.methodNotices.count .bodyOverHead = 0 := by simp [count_methodNotices, hnone]
      rw [hcount, if_neg (not_not_intro hnone)]
      cases hfile : a.uploadFile with
      | some path => exact .put hget (by simp [hupload, hfile])
      | none =>
        have hnofile : r.uploadFile = none := hupload.trans hfile
        cases hhead : a.isOn "head" with
        | true => exact .head hget hnofile (hbody.trans hnone) hhead
        | false => exact .get hget hnofile (hbody.trans hnone) hhead
    · have hcount : a.methodNotices.count .bodyOverHead = if a.isOn "head" then 1 else 0 := by
        simp [count_methodNotices, hexplicit, hgets, hnone]
      have hfile : a.uploadFile = none := if_neg hnone
      rw [hcount, hfile, if_neg (by simp), if_pos hnone]
      exact .post hget (hupload.trans hfile) (hbody.symm ▸ hnone)

theorem chooses_method (hbody : r.body = a.body) (hupload : r.uploadFile = a.uploadFile)
    (hmethod : r.method = a.method) :
    a.Chooses r r.method.name (a.methodNotices.count .bodyOverHead) := by
  rw [hmethod, method]
  cases hexplicit : a.explicitMethod with
  | some m =>
    obtain ⟨name, hname, hm⟩ := Option.bind_eq_some_iff.1 hexplicit
    obtain ⟨hne, rfl⟩ : ∃ hne : name ≠ "", ⟨name, hne⟩ = m := by
      unfold Method.ofString? at hm
      split at hm <;> cases hm
      exact ⟨_, rfl⟩
    rw [count_methodNotices, if_neg (by simp [hexplicit])]
    exact .named hname hne
  | none =>
    exact .implied (explicitMethod_eq_none.1 hexplicit)
      (implies_impliedMethod hbody hupload hexplicit)

end Method

/-- The last flag for data or forms decides what is sent. Data goes into the URL if a GET is asked
for, a file is uploaded only where there is no body, and the method is the one that is named or goes
with all this; a HEAD that is given up for a body draws one warning. -/
theorem request_precedence (hr : a.request.result = .ok r) :
    ∃ kind url l, (∀ other, a.Carries other ↔ other = kind) ∧ url ∈ a.urls.head? ∧
      locate url = .ok l ∧ a.Sends kind l r ∧
      (∀ method warnings, a.Chooses r method warnings ↔
        method = r.method.name ∧ warnings = a.request.notes.count .bodyOverHead) ∧
      (Warning.request .bodyOverHead).kind = .ambiguity := by
  obtain ⟨l', -, hnotes⟩ := filter_notes_topic hr
  have hcount : a.request.notes.count .bodyOverHead = a.methodNotices.count .bodyOverHead := by
    have hmethod : a.request.notes.filter (·.topic = .method) = a.methodNotices := hnotes .method
    rw [← hmethod, List.count_filter rfl]
  obtain ⟨l, redirects, hl, -, rfl⟩ := request_eq_ok.1 hr
  obtain ⟨url, others, hurls, hlocate⟩ := location_eq_ok.1 hl
  have hchooses := chooses_method (a := a)
    (r := { a.requestTo l with maxRedirects := redirects }) rfl rfl rfl
  refine ⟨a.payload.kind, url, l, fun other => ?_, by simp [hurls], hlocate,
    a.sends_requestTo l redirects, fun method warnings => ?_, rfl⟩
  · rw [carries_iff, eq_comm]
  · rw [hcount]
    constructor
    · intro h
      exact h.unique hchooses
    · rintro ⟨rfl, rfl⟩
      exact hchooses

theorem request_precedence_last : ∃ a r l,
    parse .curl true ["-F", "a=b", "-T", "f", "-I", "-d", "x", "http://h/"] = ⟨[], .ok a⟩ ∧
    a.request.result = .ok r ∧ a.Carries .data ∧ r.body = .raw "x" none ∧
    a.text? "upload-file" = some "f" ∧ r.uploadFile = none ∧ a.Sends .data l r ∧
    a.Chooses r "POST" 1 ∧ a.request.notes.count .bodyOverHead = 1 := by
  let a : Arguments := ⟨[⟨"form", true, .word "a=b"⟩, ⟨"upload-file", false, .word "f"⟩,
    ⟨"head", false, .toggle true⟩, ⟨"data", true, .word "x"⟩], ["http://h/"]⟩
  let r : Request := { method := .post, url := "http://h/", body := .raw "x" none }
  have hread : parse .curl true ["-F", "a=b", "-T", "f", "-I", "-d", "x", "http://h/"] =
      ⟨[], .ok a⟩ := by cbv
  have hr : a.request.result = .ok r := by decide
  have hcount : a.request.notes.count .bodyOverHead = 1 := by decide
  have hcarries : a.Carries .data := carries_iff.2 rfl
  obtain ⟨kind, url, l, hkind, -, -, hsends, hchooses, -⟩ := request_precedence hr
  obtain rfl : Payload.Kind.data = kind := (hkind _).1 hcarries
  exact ⟨a, r, l, hread, hr, hcarries, rfl, by decide, rfl, hsends,
    (hchooses _ _).2 ⟨rfl, hcount.symm⟩, hcount⟩

end Arguments

end CurlScribe
