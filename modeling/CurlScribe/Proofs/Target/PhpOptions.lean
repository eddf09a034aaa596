import CurlScribe.Conversion
import CurlScribe.Proofs.Request.WellFormed

namespace CurlScribe

open Code (lit)

variable {r : Request} {text : String}

def Request.Sends (r : Request) : Prop := r.uploadFile.isSome = true ∨ r.body ≠ .none

namespace PhpScript

def script (options : List (String × Code)) : Code :=
  "<?php\n$ch = curl_init();\n" ++ Code.joined "" (options.map setLine)
    ++ "\n$response = curl_exec($ch);\n\ncurl_close($ch);\n"

def setting? (name : String) (options : List (String × Code)) : Option Code :=
  options.reverse.lookup ("CURLOPT_" ++ name)

def isOn (name : String) (options : List (String × Code)) : Bool :=
  setting? name options = some "true"

def literalValue? : Code → Option String
  | [.literal value] => some value
  | _ => none

/-- The method that curl sends: a custom one, or else the one that goes with what else is set. -/
def sentMethod? (options : List (String × Code)) : Option String :=
  match setting? "CUSTOMREQUEST" options with
  | some name => literalValue? name
  | none =>
    if isOn "NOBODY" options then some "HEAD"
    else if isOn "UPLOAD" options then some "PUT"
    else if (setting? "POSTFIELDS" options).isSome then some "POST"
    else some "GET"

section Settings

variable {name other : String} {options more : List (String × Code)} {value : Code}

@[simp] theorem setting?_nil : setting? name [] = none := rfl

@[simp] theorem setting?_append :
    setting? name (options ++ more) = (setting? name more).or (setting? name options) := by
  rw [setting?, List.reverse_append, List.lookup_append]
  rfl

@[simp] theorem setting?_cons : setting? name (option other value :: options) =
    (setting? name options).or (if other = name then some value else none) := by
  have hkeys : ("CURLOPT_" ++ name == "CURLOPT_" ++ other) = decide (other = name) := by
    rw [Bool.eq_iff_iff, beq_iff_eq, decide_eq_true_eq, String.append_right_inj, eq_comm]
  rw [setting?, List.reverse_cons, List.lookup_append, ← setting?, option, List.lookup_cons, hkeys]
  by_cases h : other = name <;> simp [h]

@[simp] theorem setting?_toList {α : Type} {f : α → Code} {x : Option α} :
    setting? name ((x.map fun y => option other (f y)).toList) =
      if other = name then x.map f else none := by
  cases x <;> simp

@[simp] theorem setting?_literal? {x : Option String} :
    setting? name (literal? other x) = if other = name then x.map lit else none :=
  setting?_toList

@[simp] theorem setting?_constant {wanted : Bool} {constantName : String} :
    setting? name (constant wanted other constantName) =
      if wanted = true ∧ other = name then some (constantName : Code) else none := by
  cases wanted <;> simp [constant]

end Settings

def methodNames : List String := ["CUSTOMREQUEST", "NOBODY", "UPLOAD", "POSTFIELDS"]

theorem setting?_options {name : String} {ms connectMs : Option Int} (h : name ∈ methodNames) :
    setting? name (options r ms connectMs) =
      (setting? name (bodyOptions r)).or (setting? name (methodOptions r)) := by
  have hheaders : setting? name (headerOptions r) = none := by
    unfold headerOptions
    split
    · rfl
    · rw [setting?_cons, if_neg fun heq => by simp [methodNames, ← heq] at h]
      rfl
  simp only [methodNames, List.mem_cons, List.not_mem_nil, or_false] at h
  have hcookies : setting? name (cookieOptions r) = none := by
    unfold cookieOptions
    rcases h with rfl | rfl | rfl | rfl <;> split <;> simp
  have hauth : setting? name (authOptions r) = none := by
    unfold authOptions
    rcases h with rfl | rfl | rfl | rfl <;> split <;> simp
  have htransfer : setting? name (transferOptions r ms connectMs) = none := by
    rcases h with rfl | rfl | rfl | rfl <;> simp [transferOptions]
  rcases h with rfl | rfl | rfl | rfl <;> simp [options, hheaders, hcookies, hauth, htransfer]

theorem setting?_method {ms connectMs : Option Int} :
    setting? "CUSTOMREQUEST" (options r ms connectMs) =
      if r.method.name = "HEAD" ∨ r.method.name = "GET" then none
      else some (lit r.method.name) := by
  have hbody : setting? "CUSTOMREQUEST" (bodyOptions r) = none := by
    unfold bodyOptions
    split
    · split <;> simp
    · split <;> simp
  rw [setting?_options (by decide), hbody, methodOptions]
  by_cases hhead : r.method.name = "HEAD"
  · simp [hhead]
  · by_cases hget : r.method.name = "GET" <;> simp [hhead, hget]

theorem isOn_nobody (ms connectMs : Option Int) :
    isOn "NOBODY" (options r ms connectMs) = true ↔ r.method.name = "HEAD" := by
  have hbody : setting? "NOBODY" (bodyOptions r) = none := by
    unfold bodyOptions
    split
    · split <;> simp
    · split <;> simp
  rw [isOn, setting?_options (by decide), hbody, methodOptions]
  by_cases hhead : r.method.name = "HEAD"
  · simp [hhead]
  · by_cases hget : r.method.name = "GET" <;> simp [hhead, hget]

theorem setting?_upload {name : String} {ms connectMs : Option Int}
    (h : name ∈ ["UPLOAD", "POSTFIELDS"]) :
    setting? name (options r ms connectMs) = setting? name (bodyOptions r) := by
  have hmethod : setting? name (methodOptions r) = none := by
    simp only [List.mem_cons, List.not_mem_nil, or_false] at h
    unfold methodOptions
    rcases h with rfl | rfl <;> split <;> (try split) <;> simp
  rw [setting?_options (List.mem_of_mem_tail (List.mem_of_mem_tail h)), hmethod, Option.or_none]

theorem isOn_upload {ms connectMs : Option Int} :
    isOn "UPLOAD" (options r ms connectMs) = r.uploadFile.isSome := by
  rw [isOn, setting?_upload (by decide), bodyOptions]
  cases r.uploadFile with
  | some path => by_cases h : path = "-" <;> simp [h]
  | none => cases r.body with
    | raw data file => cases file <;> simp
    | _ => simp

theorem isSome_postfields (ms connectMs : Option Int) (h : r.uploadFile = none) :
    (setting? "POSTFIELDS" (options r ms connectMs)).isSome = true ↔ r.body ≠ .none := by
  rw [setting?_upload (by decide), bodyOptions, h]
  cases r.body with
  | raw data file => cases file <;> simp
  | _ => simp

theorem sentMethod?_options (ms connectMs : Option Int) :
    sentMethod? (options r ms connectMs) = some (
      if r.method.name = "GET" then
        if r.uploadFile.isSome = true then "PUT" else if r.body ≠ .none then "POST" else "GET"
      else r.method.name) := by
  rw [sentMethod?, setting?_method]
  by_cases hhead : r.method.name = "HEAD"
  · simp [hhead, isOn_nobody]
  · have hnobody := mt (isOn_nobody ms connectMs).1 hhead
    by_cases hget : r.method.name = "GET"
    · cases hupload : r.uploadFile with
      | some path => simp [hget, hnobody, isOn_upload, hupload]
      | none =>
        have hposts := isSome_postfields ms connectMs hupload
        by_cases hbody : r.body = .none
        · simp [hget, hnobody, isOn_upload, hupload, hbody, mt hposts.1 (not_not.2 hbody)]
        · simp [hget, hnobody, isOn_upload, hupload, hbody, hposts.2 hbody]
    · simp [hhead, hget, literalValue?, lit]

theorem sentMethod?_eq_iff {ms connectMs : Option Int} :
    sentMethod? (options r ms connectMs) = some r.method.name ↔
      ¬ (r.method.name = "GET" ∧ r.Sends) := by
  rw [sentMethod?_options, Option.some.injEq]
  by_cases hget : r.method.name = "GET"
  · by_cases hupload : r.uploadFile.isSome = true
    · simp [hget, hupload, Request.Sends]
    · by_cases hbody : r.body = .none <;> simp [hget, hupload, hbody, Request.Sends]
  · simp [hget]

theorem write_eq_ok (h : (write r).result = .ok text) :
    ∃ ms connectMs, text = (script (options r ms connectMs)).text apostrophed := by
  simp only [write, Noted.result_bind_eq_ok, Noted.note_eq, Noted.pure_eq, Except.ok.injEq] at h
  obtain ⟨-, -, -, -, ms, -, connectMs, -, rfl⟩ := h
  exact ⟨ms, connectMs, rfl⟩

end PhpScript

namespace Arguments

open Request

variable {a : Arguments}

theorem explicitMethod_eq_get :
    (∃ m, a.explicitMethod = some m ∧ m.name = "GET") ↔ a.text? "request" = some "GET" := by
  unfold explicitMethod
  cases a.text? "request" with
  | none => simp
  | some name =>
    by_cases h : name = ""
    · simp [Method.ofString?, h]
    · simp [Method.ofString?, h]

theorem body_of_getsData (h : a.getsData = true) : a.body = .none := by
  rw [getsData, Bool.and_eq_true] at h
  obtain ⟨hget, hparts⟩ := h
  cases hpayload : a.payload with
  | none => rw [body, hpayload]
  | data pieces => simp only [body, hpayload, if_pos hget]
  | forms values => simp [body, hpayload] at hparts

theorem impliedMethod_eq_get (hsends : a.uploadFile.isSome = true ∨ a.body ≠ .none) :
    a.impliedMethod.name = "GET" ↔
      a.isOn "get" = true ∧ a.isOn "head" = false ∧ a.uploadFile.isSome = true := by
  unfold impliedMethod
  by_cases hgets : a.getsData = true
  · have hupload : a.uploadFile.isSome = true := hsends.resolve_right
      (not_not.2 (body_of_getsData hgets))
    have hget : a.isOn "get" = true := (Bool.and_eq_true_iff.1 hgets).1
    cases hhead : a.isOn "head" <;> simp [hgets, hupload, hget, Method.get, Method.head]
  · have hnot : ¬ (a.isOn "get" = true ∧ a.uploadFile.isSome = true) := fun ⟨hget, hupload⟩ =>
      hgets (by simp [getsData, hget, body_of_uploadFile hupload])
    have hfalse : ¬ (a.isOn "get" = true ∧ a.isOn "head" = false ∧ a.uploadFile.isSome = true) :=
      fun h => hnot ⟨h.1, h.2.2⟩
    rw [if_neg hgets, iff_false_right hfalse]
    by_cases hupload : a.uploadFile.isSome = true
    · simp [hupload, Method.put]
    · simp [hupload, hsends.resolve_left hupload, Method.post]

theorem method_eq_get (hsends : a.uploadFile.isSome = true ∨ a.body ≠ .none) :
    a.method.name = "GET" ↔ a.text? "request" = some "GET" ∨ a.explicitMethod = none ∧
      a.isOn "get" = true ∧ a.isOn "head" = false ∧ a.uploadFile.isSome = true := by
  rw [method, ← explicitMethod_eq_get, ← impliedMethod_eq_get hsends]
  cases a.explicitMethod <;> simp

/-- A method is sent as it is, unless it is a GET and a body or a file goes with it. There is such a
GET if it is asked for by name, or by the flag that moves data into the URL beside a file. -/
theorem method_sent (hr : a.request.result = .ok r)
    (hwrite : (Target.php.write r).result = .ok text) :
    ∃ ms connectMs,
      text = (PhpScript.script (PhpScript.options r ms connectMs)).text apostrophed ∧
      (PhpScript.sentMethod? (PhpScript.options r ms connectMs) = some r.method.name ↔
        ¬ (r.method.name = "GET" ∧ r.Sends)) ∧
      (r.method.name = "GET" → r.Sends →
        PhpScript.sentMethod? (PhpScript.options r ms connectMs) =
          some (if r.uploadFile.isSome = true then "PUT" else "POST")) ∧
      (r.method.name = "GET" ∧ r.Sends ↔
        a.text? "request" = some "GET" ∧ r.Sends ∨
        a.explicitMethod = none ∧ a.isOn "get" = true ∧ a.isOn "head" = false ∧
          r.uploadFile.isSome = true) := by
  obtain ⟨ms, connectMs, htext⟩ := PhpScript.write_eq_ok hwrite
  refine ⟨ms, connectMs, htext, PhpScript.sentMethod?_eq_iff, fun hget hsends => ?_, ?_⟩
  · rw [PhpScript.sentMethod?_options, if_pos hget]
    rcases hsends with hupload | hbody
    · rw [if_pos hupload, if_pos hupload]
    · rw [if_pos hbody]
  · obtain ⟨l, redirects, -, -, rfl⟩ := request_eq_ok.1 hr
    constructor
    · rintro ⟨hget, hsends⟩
      exact ((method_eq_get hsends).1 hget).imp_left fun h => ⟨h, hsends⟩
    · rintro (⟨hname, hsends⟩ | h)
      · exact ⟨(method_eq_get hsends).2 (.inl hname), hsends⟩
      · exact ⟨(method_eq_get (.inl h.2.2.2)).2 (.inr h), .inl h.2.2.2⟩

theorem method_sent_custom : ∃ a r text ms connectMs,
    (parse .curl true ["-XPUT", "-d", "a", "http://h/"]).result = .ok a ∧
    a.request.result = .ok r ∧ (Target.php.write r).result = .ok text ∧
    text = (PhpScript.script (PhpScript.options r ms connectMs)).text apostrophed ∧
    PhpScript.sentMethod? (PhpScript.options r ms connectMs) = some "PUT" := by
  let a : Arguments := ⟨[⟨"request", false, .word "PUT"⟩, ⟨"data", true, .word "a"⟩], ["http://h/"]⟩
  let r : Request := { method := .put, url := "http://h/", body := .raw "a" none }
  have hr : a.request.result = .ok r := by decide
  obtain ⟨ms, connectMs, htext, hmethod, -⟩ := method_sent hr rfl
  exact ⟨a, r, _, ms, connectMs, by cbv, hr, rfl, htext, hmethod.2 fun h => absurd h.1 (by decide)⟩

theorem method_sent_get :
    (∃ a r, (parse .curl true ["-XGET", "-d", "a=1", "http://h/"]).result = .ok a ∧
      a.request.result = .ok r ∧ r.method = .get ∧
      (Target.php.write r).result = .ok ("<?php\n$ch = curl_init();\n"
        ++ "curl_setopt($ch, CURLOPT_URL, 'http://h/');\n"
        ++ "curl_setopt($ch, CURLOPT_RETURNTRANSFER, true);\n"
        ++ "curl_setopt($ch, CURLOPT_POSTFIELDS, 'a=1');\n\n"
        ++ "$response = curl_exec($ch);\n\ncurl_close($ch);\n") ∧
      PhpScript.sentMethod? (PhpScript.options r none none) = some "POST") ∧
    ∃ a r, (parse .curl true ["-G", "-T", "f", "http://h/"]).result = .ok a ∧
      a.request.result = .ok r ∧ r.method = .get ∧
      PhpScript.sentMethod? (PhpScript.options r none none) = some "PUT" := by
  constructor
  · let a : Arguments := ⟨[⟨"request", false, .word "GET"⟩, ⟨"data", true, .word "a=1"⟩],
      ["http://h/"]⟩
    let r : Request := { method := .get, url := "http://h/", body := .urlencoded "a=1" [("a", "1")] }
    exact ⟨a, r, by cbv, by decide +kernel, rfl, by decide +kernel, by decide⟩
  · let a : Arguments := ⟨[⟨"get", false, .toggle true⟩, ⟨"upload-file", false, .word "f"⟩],
      ["http://h/"]⟩
    let r : Request := { method := .get, url := "http://h/", uploadFile := some "f" }
    exact ⟨a, r, by cbv, by decide +kernel, rfl, by decide⟩

end Arguments

end CurlScribe
