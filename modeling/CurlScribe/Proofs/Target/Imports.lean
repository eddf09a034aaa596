import CurlScribe.Proofs.Target.AxiosNames
import CurlScribe.Proofs.Target.GoImports
import CurlScribe.Proofs.Target.PythonNames
import CurlScribe.Proofs.Target.RubyLines

namespace CurlScribe

open Token

variable {r : Request} {t : Target} {text : String}

def RubyScript.RequiresUsed (text : String) : Prop :=
  "openssl" ∈ (Token.lines (ofText text)).filterMap required? ↔
    ∃ line ∈ Token.lines (ofText text), NamesOpenSsl line

namespace Target

/-- Whether code imports exactly what it uses. In JavaScript an unquoted key of an object is no use
of the name. -/
def ImportsUsed (text : String) : Target → Prop
  | .go => GoProgram.IsComplete text
  | .node | .nodeAxios => Script.ImportsUsed false nodeNames text
  | .python => Script.ImportsUsed true RequestsScript.pythonNames text
  | .ruby => RubyScript.RequiresUsed text
  | _ => True

end Target

theorem RubyScript.requiresUsed (h : (write r).result = .ok text) : RequiresUsed text := by
  obtain ⟨address, rfl⟩ := write_eq_ok h
  rw [RequiresUsed, required_script rfl, names_script rfl]
  cases usesOpenSsl r <;> decide

namespace Arguments

variable {a : Arguments}

/-- A Go program imports a package just if a name of it stands there, and whatever it defines is new
in its scope. The other scripts import those of the names that they use, whatever is in literals. -/
theorem write_imports (hr : a.request.result = .ok r) (hwrite : (t.write r).result = .ok text) :
    t.ImportsUsed text := by
  cases t with
  | go => exact GoProgram.isComplete (wellFormed_of_request hr) hwrite
  | node =>
    obtain ⟨ms, rfl⟩ := FetchCall.write_eq_ok hwrite
    exact FetchCall.importsUsed r ms
  | nodeAxios =>
    obtain ⟨ms, address, rfl⟩ := AxiosCall.write_eq_ok hwrite
    exact AxiosCall.importsUsed r ms address
  | python =>
    obtain rfl : (RequestsScript.code r).text Text.shown = text := Except.ok.inj hwrite
    exact RequestsScript.importsUsed r
  | ruby => exact RubyScript.requiresUsed hwrite
  | ansible | javascript | json | php | strest => trivial

theorem write_imports_insecure : ∃ a r text,
    (parse .curl true ["-k", "http://h/"]).result = .ok a ∧ a.request.result = .ok r ∧
    r.tls.insecure = true ∧ (Target.node.write r).result = .ok text ∧
    Target.node.ImportsUsed text := by
  let a : Arguments := ⟨[⟨"insecure", false, .toggle true⟩], ["http://h/"]⟩
  let r : Request := { method := .get, url := "http://h/", tls := { insecure := true } }
  have hr : a.request.result = .ok r := by decide
  have hwrite : ∃ text, (Target.node.write r).result = .ok text := ⟨_, rfl⟩
  obtain ⟨text, hwrite⟩ := hwrite
  exact ⟨a, r, text, by cbv, hr, rfl, hwrite, write_imports hr hwrite⟩

theorem write_imports_key : ∃ a r,
    (parse .curl true ["-H", "https: 1", "http://h/"]).result = .ok a ∧ a.request.result = .ok r ∧
    (Target.node.write r).result = .ok ("import fetch from 'node-fetch';\n\n"
      ++ "fetch(\"http://h/\", \x7b\n    headers: \x7b\n        https: \"1\"\n    \x7d\n\x7d);\n") ∧
    ¬ Script.ImportsUsed true nodeNames ("import fetch from 'node-fetch';\n\n"
      ++ "fetch(\"http://h/\", \x7b\n    headers: \x7b\n        https: \"1\"\n    \x7d\n\x7d);\n") := by
  let a : Arguments := ⟨[⟨"header", true, .word "https: 1"⟩], ["http://h/"]⟩
  let r : Request := { method := .get, url := "http://h/", headers := [("https", "1")] }
  refine ⟨a, r, by cbv, by decide, by decide +kernel, ?_⟩
  unfold Script.ImportsUsed
  decide +kernel

end Arguments

end CurlScribe
