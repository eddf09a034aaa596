import CurlScribe.Conversion
import CurlScribe.Proofs.Target.GoImports
import CurlScribe.Proofs.Target.HeaderMap
import CurlScribe.Proofs.Target.RubyLines
import CurlScribe.Proofs.Url.Form

namespace CurlScribe

open Token

variable {r : Request} {text : String}

namespace GoProgram

variable {ms : Option Int} {cs : List Code} {qualifiers locals : List (List Char)}

def isOnRequest (line : List Token) : Bool := line.any (qualifier? · = some "req".toList)

/-- The header statements of a program, if all that is done to the request is to put headers in. -/
def statements? (lines : List (List Token)) : Option (List HeaderStatement) :=
  (lines.filter isOnRequest).mapM headerStatement?

theorem Block.filter_eq_nil (h : Block cs qualifiers locals)
    (hreq : "req".toList ∉ qualifiers) : (cs.map tokens).filter isOnRequest = [] := by
  rw [List.filter_eq_nil_iff]
  intro line hline hon
  obtain ⟨t, ht, hqualifier⟩ := List.any_eq_true.1 hon
  rw [← h.mentions, List.mem_flatMap] at hreq
  exact hreq ⟨line, hline, List.mem_filterMap.2 ⟨t, ht, of_decide_eq_true hqualifier⟩⟩

theorem filter_clientLines (hms : ms.isSome = r.timeout.isSome) :
    ((clientLines r ms).map tokens).filter isOnRequest = [] := by
  refine (block_clientLines r ms).filter_eq_nil fun hmem => ?_
  obtain ⟨hlocal, -⟩ := not_mem_bodyLocals (of_mem_clientQualifiers hms hmem)
  exact hlocal (List.mem_append_left _ (List.mem_append_right _ (List.mem_singleton_self _)))

theorem filter_contentLines : ((contentLines (content r)).map tokens).filter isOnRequest = [] := by
  refine (block_contentLines (content r)).filter_eq_nil fun hmem => ?_
  rcases of_mem_contentQualifiers hmem with hmem | hmem
  · obtain ⟨hlocal, -⟩ := not_mem_bodyLocals hmem
    exact hlocal (List.mem_append_left _ (List.mem_append_right _ (List.mem_singleton_self _)))
  · exact not_mem_contentLocals (by decide) (by decide) hmem

theorem isOnRequest_headerLine (statement : HeaderStatement) :
    isOnRequest (tokens (headerLine statement)) = true := by
  cases statement <;> rfl

theorem filter_requestLines (hbody : ∀ parts, r.body ≠ .multipart parts)
    (hauth : ∀ user password, r.auth ≠ .basic user password) :
    ((requestLines r).map tokens).filter isOnRequest =
      ((headers r).map headerLine).map tokens := by
  have hstep := (block_step isName_req
    (isValue_newRequest r.method.name r.url (content r))).filter_eq_nil (by decide)
  have hcredentials : authLines r = [] := by
    unfold authLines
    cases hr : r.auth with
    | basic user password => exact absurd hr (hauth user password)
    | none | digest | bearer => rfl
  have hheaders : (((headers r).map headerLine).map tokens).filter isOnRequest =
      ((headers r).map headerLine).map tokens := by
    rw [List.filter_eq_self, List.map_map, List.forall_mem_map]
    exact fun statement _ => isOnRequest_headerLine statement
  have hlines : requestLines r = step "req" (Code.call "http.NewRequest"
      [Code.lit r.method.name, Code.lit r.url, reader (content r)]) ++
        (headers r).map headerLine := by
    unfold requestLines
    rw [hcredentials]
    cases hr : r.body with
    | multipart parts => exact absurd hr (hbody parts)
    | none | urlencoded | raw => simp [Code.when]
  rw [hlines, List.map_append, List.filter_append, hstep, hheaders]
  rfl

theorem statements?_program (hms : ms.isSome = r.timeout.isSome)
    (hbody : ∀ parts, r.body ≠ .multipart parts)
    (hauth : ∀ user password, r.auth ≠ .basic user password) :
    statements? (Token.lines (ofText ((code r ms).text (Json.quoted false)))) =
      some (headers r) := by
  have hprogram : (Token.lines (ofText ((code r ms).text (Json.quoted false)))).flatMap
      (fun line => (Option.guard isOnRequest line).toList) = _ :=
    flatMap_program rfl (fun _ => rfl) rfl rfl rfl rfl rfl rfl
  simp only [← List.filterMap_eq_flatMap_toList, List.filterMap_eq_filter] at hprogram
  have hresponse : (responseLines.map tokens).filter isOnRequest = [] :=
    block_responseLines.filter_eq_nil (by decide)
  rw [statements?, hprogram, bodyLines]
  simp only [List.map_append, List.filter_append, filter_clientLines hms, filter_contentLines,
    filter_requestLines hbody hauth, hresponse, List.nil_append, List.append_nil,
    List.map_map]
  exact mapM_map_of_forall fun h _ => headerStatement?_headerLine h

end GoProgram

namespace RubyScript

/-- The header statements of a script, if they and no others set headers. -/
def statements? (lines : List (List Token)) : Option (List HeaderStatement) :=
  (lines.filter setsHeader).mapM headerStatement?

theorem statements?_script {address : Option ProxyAddress}
    (hauth : ∀ user password, r.auth ≠ .basic user password) :
    statements? (Token.lines (ofText ((code r address).text apostrophed))) = some (headers r) := by
  have hcredentials : authLines r = [] := by
    unfold authLines
    cases hr : r.auth with
    | basic user password => exact absurd hr (hauth user password)
    | none | digest | bearer => rfl
  have hrequires : ((requireLines r).map tokens).filter setsHeader = [] := by
    unfold requireLines
    cases usesOpenSsl r <;> decide +kernel
  rw [statements?, lines_script]
  have hempty : [([] : List Token)].filter setsHeader = [] := rfl
  rw [List.append_cons, List.filter_append, List.filter_append, List.filter_append, hrequires,
    filter_mainLines, hcredentials, hempty, List.append_nil, List.append_nil, List.append_nil,
    List.nil_append, List.map_map]
  exact mapM_map_of_forall fun h _ => headerStatement?_headerLine h

end RubyScript

namespace Target

variable {t : Target}

def statementsIn? (text : String) : Target → Option (List HeaderStatement)
  | .go => GoProgram.statements? (Token.lines (ofText text))
  | .ruby => RubyScript.statements? (Token.lines (ofText text))
  | _ => none

theorem statementsIn?_of_write (ht : t = .go ∨ t = .ruby)
    (hbody : ∀ parts, r.body ≠ .multipart parts)
    (hauth : ∀ user password, r.auth ≠ .basic user password)
    (h : (t.write r).result = .ok text) :
    t.statementsIn? text = some (headerStatements [] r.allHeaders) := by
  rcases ht with rfl | rfl
  · obtain ⟨ms, hms, rfl⟩ := GoProgram.exists_code_of_write h
    exact GoProgram.statements?_program hms hbody hauth
  · obtain ⟨address, rfl⟩ := RubyScript.write_eq_ok h
    exact RubyScript.statements?_script hauth

/-- The statements of the code leave each name all of its values, in order, and take none away. -/
theorem write_headers (ht : t = .go ∨ t = .ruby) (hbody : ∀ parts, r.body ≠ .multipart parts)
    (hauth : ∀ user password, r.auth ≠ .basic user password)
    (h : (t.write r).result = .ok text) :
    ∃ statements, t.statementsIn? text = some statements ∧
      HeaderMap.run .empty statements =
        .ofHeaders (r.headers ++ r.typeHeader ++ r.cookieHeaders ++ r.bearerHeader) ∧
      HeaderMap.KeepsAll .empty statements := by
  have hwithin : HeaderMap.Within .empty [] := fun name hne => absurd rfl hne
  obtain ⟨hrun, hkeeps⟩ := HeaderMap.run_headerStatements hwithin r.allHeaders
  exact ⟨_, statementsIn?_of_write ht hbody hauth h, hrun, hkeeps⟩

theorem write_headers_twice : ∃ r text statements,
    (∀ parts, r.body ≠ .multipart parts) ∧ (∀ user password, r.auth ≠ .basic user password) ∧
    r.headers = [("A", "1"), ("a", "2")] ∧ (Target.ruby.write r).result = .ok text ∧
    Target.ruby.statementsIn? text = some statements ∧
    HeaderMap.run .empty statements "a".toList = ["1", "2"] := by
  let r : Request := { method := .get, url := "http://h/", headers := [("A", "1"), ("a", "2")] }
  have hbody (parts : List Part) : r.body ≠ .multipart parts := nofun
  have hauth (user password : String) : r.auth ≠ .basic user password := nofun
  have hwrite : ∃ text, (Target.ruby.write r).result = .ok text := ⟨_, rfl⟩
  obtain ⟨text, hwrite⟩ := hwrite
  obtain ⟨statements, hstatements, hrun, -⟩ := write_headers (.inr rfl) hbody hauth hwrite
  refine ⟨r, text, statements, hbody, hauth, rfl, hwrite, hstatements, ?_⟩
  rw [hrun]
  decide

end Target

end CurlScribe
