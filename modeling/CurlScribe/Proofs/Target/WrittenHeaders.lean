import CurlScribe.Proofs.Target.Headers

namespace CurlScribe

open Code (lit)

variable {r : Request} {t : Target} {entries : List (String × Code)} {text : String}

namespace ObjectLiteral

theorem infix_object {level : Nat} {field : String × Code} {fields : List (String × Code)}
    (h : field ∈ fields) : entry level field <:+: object level fields := by
  rw [object, if_neg (List.ne_nil_of_mem h)]
  have hentry : entry level field <:+: Code.joined ",\n" (fields.map (entry level)) :=
    Code.infix_joined (List.mem_map_of_mem h)
  refine hentry.trans ?_
  simp only [List.append_assoc]
  exact List.infix_append' ..

end ObjectLiteral

namespace RequestsScript

def Passes (c : Code) (name : String) (items : List (String × Code)) : Prop :=
  dict name items <:+: c ∧ ([.code (name ++ "=" ++ name)] : Code) <:+: c

theorem infix_code_of_argument {argument : Code} (h : argument ∈ arguments r) :
    argument <:+: code r := by
  have hjoined : argument <:+: Code.joined ", " (arguments r) := Code.infix_joined h
  have hcall : argument <:+: call r := hjoined.trans (List.infix_append ..)
  exact Code.infix_blocks_last _ hcall _

theorem passes_headers (h : headers r ≠ []) :
    Passes (code r) "headers" (literals (headers r)) := by
  constructor
  · refine (Code.infix_joined ?_).trans (List.prefix_append ..).isInfix
    simp [Code.when, h]
  · apply infix_code_of_argument
    simp [arguments, Code.when, h]

theorem passes_cookies (h : r.cookies ≠ []) :
    Passes (code r) "cookies" (literals r.cookies) := by
  constructor
  · refine (Code.infix_joined ?_).trans (List.prefix_append ..).isInfix
    simp [Code.when, h]
  · apply infix_code_of_argument
    simp [arguments, Code.when, h]

end RequestsScript

namespace FetchCall

theorem infix_code_of_option {platform : Platform} {ms : Option Int} {option : String × Code}
    (h : option ∈ options platform r ms) :
    ObjectLiteral.entry 1 option <:+: code platform r ms := by
  have hcall : ObjectLiteral.object 1 (options platform r ms) <:+: call platform r ms := by
    refine (Code.infix_call ?_).trans (List.prefix_append ..).isInfix
    simp [Code.when, List.ne_nil_of_mem h]
  exact Code.infix_blocks_last _ ((ObjectLiteral.infix_object h).trans hcall) _

theorem infix_code {platform : Platform} {ms : Option Int} (h : headers platform r ≠ []) :
    ObjectLiteral.entry 1 ("headers", ObjectLiteral.object 2 (headers platform r)) <:+:
      code platform r ms := by
  apply infix_code_of_option
  simp [options, ObjectLiteral.field, h]

theorem write_eq_ok {platform : Platform} (h : (write platform r).result = .ok text) :
    ∃ ms, text = (code platform r ms).text (Json.quoted true) := by
  simp only [write, Noted.result_bind_eq_ok, Noted.note_eq, Noted.pure_eq, Except.ok.injEq] at h
  obtain ⟨-, -, ms, -, rfl⟩ := h
  exact ⟨ms, rfl⟩

end FetchCall

namespace AxiosCall

theorem infix_code_of_option {ms : Option Int} {address : Option ProxyAddress}
    {option : String × Code} (h : option ∈ config r ms address) :
    ObjectLiteral.entry 1 option <:+: code r ms address := by
  have hcall : ObjectLiteral.object 1 (config r ms address) <:+:
      Code.call "axios" [ObjectLiteral.object 1 (config r ms address)] :=
    Code.infix_call (List.mem_singleton_self _)
  refine Code.infix_blocks_last _ ((ObjectLiteral.infix_object h).trans ?_) _
  exact hcall.trans (List.infix_append ..)

theorem infix_code {ms : Option Int} {address : Option ProxyAddress} (h : headers r ≠ []) :
    ObjectLiteral.entry 1 ("headers", ObjectLiteral.object 2 (headers r)) <:+:
      code r ms address := by
  apply infix_code_of_option
  simp [config, ObjectLiteral.field, h]

theorem write_eq_ok (h : (write r).result = .ok text) :
    ∃ ms address, text = (code r ms address).text (Json.quoted true) := by
  simp only [write, Noted.result_bind_eq_ok, Noted.note_eq, Noted.pure_eq, Except.ok.injEq] at h
  obtain ⟨-, -, ms, -, address, -, -, -, rfl⟩ := h
  exact ⟨ms, address, rfl⟩

end AxiosCall

namespace AnsiblePlaybook

theorem mem_settings (h : headers r ≠ []) : ("headers", texts (headers r)) ∈ settings r := by
  simp [settings, field, h]

theorem write_eq_ok (h : (write r).result = .ok text) :
    ∃ host, text = Yaml.listDocument [task r host] := by
  simp only [write, Noted.result_bind_eq_ok] at h
  obtain ⟨-, -, h⟩ := h
  split at h
  · simp at h
  · simp only [Bool.false_eq_true, if_false, Noted.result_bind_eq_ok] at h
    obtain ⟨-, -, h⟩ := h
    split at h
    · simp at h
    · simp only [Noted.result_bind_eq_ok, Noted.pure_eq, Except.ok.injEq] at h
      obtain ⟨u, -, rfl⟩ := h
      exact ⟨u.host?, rfl⟩

end AnsiblePlaybook

namespace Target

/-- Whether a text is code that holds the entries where the headers stand. Where the headers are
passed on as a dictionary, the cookies are so, too. -/
def HoldsHeaders (r : Request) (entries : List (String × Code)) (text : String) : Target → Prop
  | .python => ∃ c : Code, text = c.text Text.shown ∧
      (entries ≠ [] → RequestsScript.Passes c "headers" entries) ∧
      (r.cookies ≠ [] → RequestsScript.Passes c "cookies" (RequestsScript.literals r.cookies))
  | .javascript | .node | .nodeAxios => ∃ c : Code, text = c.text (Json.quoted true) ∧
      (entries ≠ [] →
        ObjectLiteral.entry 1 ("headers", ObjectLiteral.object 2 entries) <:+: c)
  | .ansible => ∃ host items, text = Yaml.listDocument [AnsiblePlaybook.task r host] ∧
      entries = ObjectLiteral.literals items ∧
      (items ≠ [] → ("headers", AnsiblePlaybook.texts items) ∈ AnsiblePlaybook.settings r)
  | _ => False

theorem holdsHeaders (h : t.headerEntries? r = some entries)
    (hwrite : (t.write r).result = .ok text) : t.HoldsHeaders r entries text := by
  cases t <;> cases h
  case ansible =>
    obtain ⟨host, rfl⟩ := AnsiblePlaybook.write_eq_ok hwrite
    exact ⟨host, _, rfl, rfl, AnsiblePlaybook.mem_settings⟩
  case javascript =>
    obtain ⟨ms, rfl⟩ := FetchCall.write_eq_ok hwrite
    exact ⟨_, rfl, FetchCall.infix_code⟩
  case node =>
    obtain ⟨ms, rfl⟩ := FetchCall.write_eq_ok hwrite
    exact ⟨_, rfl, FetchCall.infix_code⟩
  case nodeAxios =>
    obtain ⟨ms, address, rfl⟩ := AxiosCall.write_eq_ok hwrite
    exact ⟨_, rfl, AxiosCall.infix_code⟩
  case python =>
    cases hwrite
    refine ⟨_, rfl, fun hentries => RequestsScript.passes_headers ?_, RequestsScript.passes_cookies⟩
    exact fun hnone => hentries (by rw [hnone]; rfl)

end Target

namespace Arguments

variable {a : Arguments}

/-- The entries for headers differ in their names unless a Cookie header is given and one made of the
cookies stands beside it. Each holds all values given under its name, and the cookies have theirs or
are passed on apart; only where theirs takes the place of one that is given is that one lost. -/
theorem headers_written (hr : a.request.result = .ok r) (ht : t.headerEntries? r = some entries)
    (hwrite : (t.write r).result = .ok text) :
    t.HoldsHeaders r entries text ∧
    ((entries.map (Text.lower ·.1)).Nodup ↔
      ¬ (t.AddsCookie r ∧ r.hasHeader "cookie" = true)) ∧
    (∀ header ∈ r.headers, (t.ReplacesCookie r → Text.lower header.1 ≠ "cookie") →
      ∃ e ∈ entries, Text.lower e.1 = Text.lower header.1 ∧
        e.2 = lit (Text.joined ", " (headerValues r.headers header.1))) ∧
    (t ≠ .python → r.cookies ≠ [] → ("Cookie", lit r.cookieHeader) ∈ entries) ∧
    (t.ReplacesCookie r → ∀ e ∈ entries, Text.lower e.1 = "cookie" →
      e = ("Cookie", lit r.cookieHeader)) := by
  have hr := wellFormed_of_request hr
  refine ⟨Target.holdsHeaders ht hwrite, Target.nodup_entries hr ht, ?_,
    Target.cookie_mem_entries hr ht, ?_⟩
  · intro header hheader hkept
    exact Target.exists_mem_entries hr ht hheader hkept
  · intro hreplaces e he hname
    exact Target.eq_of_replacesCookie hr ht hreplaces he hname

example : Target.ansible.headerEntries?
    { method := .get, url := "http://h/", headers := [("A", "1"), ("a", "2")] } =
      some [("A", lit "1, 2")] := by
  decide +kernel

theorem headers_written_merged : ∃ a r entries text,
    (parse .curl true ["-H", "A: 1", "-H", "a: 2", "-b", "c=d", "http://h/"]).result = .ok a ∧
    a.request.result = .ok r ∧ Target.node.headerEntries? r = some entries ∧
    (Target.node.write r).result = .ok text ∧ (entries.map (Text.lower ·.1)).Nodup ∧
    ∃ e ∈ entries, Text.lower e.1 = Text.lower "a" ∧ e.2 = lit "1, 2" := by
  let a : Arguments := ⟨[⟨"header", true, .word "A: 1"⟩, ⟨"header", true, .word "a: 2"⟩,
    ⟨"cookie", true, .word "c=d"⟩], ["http://h/"]⟩
  let r : Request :=
    { method := .get, url := "http://h/", headers := [("A", "1"), ("a", "2")],
      cookies := [("c", "d")] }
  have hr : a.request.result = .ok r := by decide
  have hnone : r.hasHeader "cookie" = false := by decide
  have hvalues : Text.joined ", " (headerValues r.headers "a") = "1, 2" := by decide
  obtain ⟨-, hnodup, hvalue, -⟩ := headers_written (t := .node) hr rfl rfl
  refine ⟨a, r, _, _, by cbv, hr, rfl, rfl, hnodup.2 fun h => ?_, ?_⟩
  · rw [hnone] at h
    cases h.2
  · rw [← hvalues]
    exact hvalue ("a", "2") (by decide) fun h => absurd h.1 (by decide)

theorem headers_written_cookie : ∃ a r,
    (parse .curl true ["-H", "Cookie: a=1", "-b", "b=2", "http://h/"]).result = .ok a ∧
    a.request.result = .ok r ∧ r.headers = [("Cookie", "a=1")] ∧ r.cookies = [("b", "2")] ∧
    (∀ t ∈ [Target.javascript, .node, .nodeAxios], (∃ text, (t.write r).result = .ok text) ∧
      t.headerEntries? r = some [("Cookie", lit "a=1"), ("Cookie", lit "b=2")]) ∧
    (Target.ansible.write r).result = .ok ("- name: h\n  uri:\n    url: http://h/\n"
      ++ "    method: GET\n    headers:\n      Cookie: b=2\n    return_content: true\n"
      ++ "  register: result\n") ∧
    Target.ansible.headerEntries? r = some [("Cookie", lit "b=2")] := by
  let a : Arguments := ⟨[⟨"header", true, .word "Cookie: a=1"⟩, ⟨"cookie", true, .word "b=2"⟩],
    ["http://h/"]⟩
  let r : Request :=
    { method := .get, url := "http://h/", headers := [("Cookie", "a=1")], cookies := [("b", "2")] }
  refine ⟨a, r, by cbv, by decide, rfl, rfl, ?_, by decide +kernel, by decide⟩
  simp only [List.forall_mem_cons, List.not_mem_nil, false_implies, implies_true, and_true]
  exact ⟨⟨⟨_, rfl⟩, by decide⟩, ⟨⟨_, rfl⟩, by decide⟩, ⟨_, rfl⟩, by decide⟩

end Arguments

end CurlScribe
