import CurlScribe.Proofs.Target.WrittenHeaders

namespace CurlScribe

open Code (lit)

def HeaderStatement.name : HeaderStatement → String
  | .replace name _ => name
  | .append name _ => name

/-- Whether an element is in a list and no other one there has its name, whatever the case of its
letters. -/
def OnlyOfName {α : Type} (nameOf : α → String) (x : α) (l : List α) : Prop :=
  ∃ before after, l = before ++ x :: after ∧
    ∀ y ∈ before ++ after, Text.lower (nameOf y) ≠ Text.lower (nameOf x)

variable {r : Request} {t : Target} {name value text : String}

namespace Target

def headerStatements? (r : Request) : Target → Option (List HeaderStatement)
  | .go => some (GoProgram.headers r)
  | .ruby => some (RubyScript.headers r)
  | _ => none

def HoldsStatements (statements : List HeaderStatement) (text : String) : Target → Prop
  | .go => ∃ c : Code, text = c.text (Json.quoted false) ∧
      Code.lines (statements.map GoProgram.headerLine) <:+: c
  | .ruby => ∃ c : Code, text = c.text apostrophed ∧
      Code.lines (statements.map RubyScript.headerLine) <:+: c
  | _ => False

/-- Whether a text is code that sets a header once, to the value: as an entry of a map that holds
the headers, or by a statement of its own. -/
def SetsHeader (r : Request) (name value text : String) (t : Target) : Prop :=
  (∃ entries, t.headerEntries? r = some entries ∧ t.HoldsHeaders r entries text ∧
    OnlyOfName (·.1) (name, lit value) entries) ∨
  ∃ statements, t.headerStatements? r = some statements ∧ t.HoldsStatements statements text ∧
    OnlyOfName HeaderStatement.name (.replace name value) statements

end Target

section Statements

variable {seen : List String} {headers : List (String × String)}

theorem name_of_mem_headerStatements {s : HeaderStatement} (h : s ∈ headerStatements seen headers) :
    s.name ∈ headers.map (·.1) := by
  induction headers generalizing seen with
  | nil => cases h
  | cons header headers ih =>
    rw [headerStatements] at h
    rw [List.map_cons, List.mem_cons]
    split at h
    · cases h with
      | head => exact .inl rfl
      | tail _ h => exact .inr (ih h)
    · cases h with
      | head => exact .inl rfl
      | tail _ h => exact .inr (ih h)

theorem onlyOfName_headerStatements (hseen : Text.lower name ∉ seen)
    (h : OnlyOfName (·.1) (name, value) headers) :
    OnlyOfName HeaderStatement.name (.replace name value) (headerStatements seen headers) := by
  obtain ⟨before, after, rfl, hothers⟩ := h
  induction before generalizing seen with
  | nil =>
    refine ⟨[], headerStatements (Text.lower name :: seen) after, ?_, fun s hs => ?_⟩
    · simp [headerStatements, hseen]
    · obtain ⟨header, hheader, hname⟩ := List.mem_map.1 (name_of_mem_headerStatements hs)
      exact hname ▸ hothers header hheader
  | cons header before ih =>
    obtain ⟨hheader, hothers⟩ := List.forall_mem_cons.1 hothers
    rw [List.cons_append, headerStatements]
    split
    · obtain ⟨l, m, heq, hlm⟩ := ih hseen hothers
      rw [heq]
      exact ⟨.append header.1 header.2 :: l, m, rfl, List.forall_mem_cons.2 ⟨hheader, hlm⟩⟩
    · have hnew : Text.lower name ∉ Text.lower header.1 :: seen := by
        simpa [Ne.symm hheader] using hseen
      obtain ⟨l, m, heq, hlm⟩ := ih hnew hothers
      rw [heq]
      exact ⟨.replace header.1 header.2 :: l, m, rfl, List.forall_mem_cons.2 ⟨hheader, hlm⟩⟩

end Statements

section Lines

theorem GoProgram.infix_code_of_main {l : List Code} {ms : Option Int} (h : l <:+:
      clientLines r ms ++ contentLines (content r) ++ requestLines r ++ responseLines) :
    Code.lines l <:+: code r ms :=
  (Code.infix_lines h).trans
    ((List.suffix_append _ _).isInfix.trans (List.prefix_append _ _).isInfix)

theorem GoProgram.infix_code {ms : Option Int} :
    Code.lines ((headers r).map headerLine) <:+: code r ms := by
  have hrequest : (headers r).map headerLine <:+: requestLines r :=
    (List.suffix_append _ _).isInfix.trans
      ((List.prefix_append _ _).trans (List.prefix_append _ _)).isInfix
  exact infix_code_of_main
    (hrequest.trans ((List.suffix_append _ _).isInfix.trans (List.prefix_append _ _).isInfix))

theorem GoProgram.write_eq_ok (h : (write r).result = .ok text) :
    ∃ ms, text = (code r ms).text (Json.quoted false) := by
  simp only [write, Noted.result_bind_eq_ok, Noted.note_eq, Noted.pure_eq, Except.ok.injEq] at h
  obtain ⟨-, -, ms, -, -, -, rfl⟩ := h
  exact ⟨ms, rfl⟩

theorem RubyScript.infix_code {address : Option ProxyAddress} :
    Code.lines ((headers r).map headerLine) <:+: code r address := by
  refine (Code.infix_lines ?_).trans
    ((List.suffix_append _ _).isInfix.trans (List.prefix_append _ _).isInfix)
  simp only [List.append_assoc]
  have hfirst (l : List Code) : (headers r).map headerLine <+: (headers r).map headerLine ++ l :=
    List.prefix_append _ l
  exact (hfirst _).isInfix.trans
    ((List.suffix_append _ _).isInfix.trans (List.suffix_append _ _).isInfix)

theorem RubyScript.write_eq_ok (h : (write r).result = .ok text) :
    ∃ address, text = (code r address).text apostrophed := by
  simp only [write, Noted.result_bind_eq_ok, Noted.note_eq, Noted.pure_eq, Except.ok.injEq] at h
  obtain ⟨-, -, -, -, address, -, -, -, rfl⟩ := h
  exact ⟨address, rfl⟩

end Lines

theorem OnlyOfName.append {α : Type} {nameOf : α → String} {x : α} {l m : List α}
    (h : OnlyOfName nameOf x l) (hm : ∀ y ∈ m, Text.lower (nameOf y) ≠ Text.lower (nameOf x)) :
    OnlyOfName nameOf x (l ++ m) := by
  obtain ⟨before, after, rfl, hothers⟩ := h
  refine ⟨before, after ++ m, by rw [List.append_assoc, List.cons_append], ?_⟩
  rw [← List.append_assoc]
  exact List.forall_mem_append.2 ⟨hothers, hm⟩

theorem OnlyOfName.literals {items : List (String × String)}
    (h : OnlyOfName (·.1) (name, value) items) :
    OnlyOfName (·.1) (name, lit value) (ObjectLiteral.literals items) := by
  obtain ⟨before, after, rfl, hothers⟩ := h
  refine ⟨ObjectLiteral.literals before, ObjectLiteral.literals after, by
    rw [ObjectLiteral.literals, List.map_append]; rfl, fun e he => ?_⟩
  rw [ObjectLiteral.literals, ObjectLiteral.literals, ← List.map_append] at he
  obtain ⟨item, hitem, rfl⟩ := List.mem_map.1 he
  exact hothers item hitem

section Untyped

variable (hnone : r.hasHeader "content-type" = false)

include hnone

theorem lower_ne_of_mem_headers : ∀ h ∈ r.headers, Text.lower h.1 ≠ Text.lower "Content-Type" := by
  intro h hmem heq
  rw [lower_contentType] at heq
  have hgiven : "content-type" ∈ r.givenNames := heq ▸ List.mem_map_of_mem hmem
  rw [(hasHeader_iff (by decide)).2 hgiven] at hnone
  cases hnone

theorem lower_ne_of_mem_mergedHeaders :
    ∀ h ∈ r.mergedHeaders, Text.lower h.1 ≠ Text.lower "Content-Type" := by
  intro h hmem heq
  have hgiven := mem_map_lower_mergedHeaders.1 (List.mem_map_of_mem hmem)
  obtain ⟨header, hheader, hname⟩ := List.mem_map.1 hgiven
  exact lower_ne_of_mem_headers hnone header hheader (hname.trans heq)

end Untyped

theorem lower_ne_of_mem_cookieHeaders :
    ∀ h ∈ r.cookieHeaders, Text.lower h.1 ≠ Text.lower "Content-Type" := by
  unfold Request.cookieHeaders
  split
  · simp
  · simpa using by decide

theorem lower_ne_of_mem_bearerHeader :
    ∀ h ∈ r.bearerHeader, Text.lower h.1 ≠ Text.lower "Content-Type" := by
  unfold Request.bearerHeader
  split
  · simpa using by decide
  · simp

theorem FetchCall.lower_ne_of_mem_authHeader {platform : Platform} :
    ∀ e ∈ authHeader platform r, Text.lower e.1 ≠ Text.lower "Content-Type" := by
  unfold authHeader Request.bearerHeader
  cases r.auth with
  | none | digest => simp [ObjectLiteral.literals]
  | basic | bearer => simpa [ObjectLiteral.literals] using by decide

section Typed

variable (hnone : r.hasHeader "content-type" = false) (hdata : r.bodyType? = some formType)

include hnone hdata

theorem onlyOfName_typeHeader {given : List (String × String)}
    (hgiven : ∀ h ∈ given, Text.lower h.1 ≠ Text.lower "Content-Type") :
    OnlyOfName (·.1) ("Content-Type", formType) (given ++ r.typeHeader) := by
  have htype : r.typeHeader = [("Content-Type", formType)] := by
    simp [Request.typeHeader, Request.impliedType?, hnone, hdata]
  refine ⟨given, [], by rw [htype], ?_⟩
  rwa [List.append_nil]

theorem onlyOfName_mergedHeaders : OnlyOfName (·.1) ("Content-Type", formType)
    (r.mergedHeaders ++ r.typeHeader ++ r.cookieHeaders) :=
  (onlyOfName_typeHeader hnone hdata (lower_ne_of_mem_mergedHeaders hnone)).append
    lower_ne_of_mem_cookieHeaders

theorem FetchCall.onlyOfName_headers (platform : Platform) :
    OnlyOfName (·.1) ("Content-Type", lit formType) (headers platform r) := by
  rw [headers_eq]
  exact (onlyOfName_mergedHeaders hnone hdata).literals.append lower_ne_of_mem_authHeader

theorem AxiosCall.onlyOfName_headers :
    OnlyOfName (·.1) ("Content-Type", lit formType) (headers r) :=
  ((onlyOfName_mergedHeaders hnone hdata).append lower_ne_of_mem_bearerHeader).literals

theorem RequestsScript.onlyOfName_headers (hraw : r.hasRawBody = true) :
    OnlyOfName (·.1) ("Content-Type", lit formType) (literals (headers r)) := by
  rw [literals_eq, headers_eq, if_pos hraw]
  exact ((onlyOfName_typeHeader hnone hdata (lower_ne_of_mem_mergedHeaders hnone)).append
    lower_ne_of_mem_bearerHeader).literals

theorem onlyOfName_statements : OnlyOfName HeaderStatement.name
    (.replace "Content-Type" formType) (headerStatements [] r.allHeaders) :=
  onlyOfName_headerStatements List.not_mem_nil
    (((onlyOfName_typeHeader hnone hdata (lower_ne_of_mem_headers hnone)).append
      lower_ne_of_mem_cookieHeaders).append lower_ne_of_mem_bearerHeader)

end Typed

namespace RequestsScript

def PassesData (block : Code) (text : String) : Prop :=
  ∃ c : Code, text = c.text Text.shown ∧ block <:+: c ∧ ([.code "data=data"] : Code) <:+: c

theorem passesData {block : Code} (hblock : block ∈ dataBlock (data r))
    (hargument : dataArgument (data r) = ["data=data"]) (hwrite : (write r).result = .ok text) :
    PassesData block text := by
  cases hwrite
  refine ⟨_, rfl, ?_, ?_⟩
  · refine (Code.infix_joined ?_).trans (List.prefix_append ..).isInfix
    simp [hblock]
  · apply infix_code_of_argument
    simp [arguments, hargument]

theorem data_of_urlencoded {s : String} {fields : List (String × String)}
    (hupload : r.uploadFile = none) (hbody : r.body = .urlencoded s fields) :
    data r = if Url.encodeFields fields = s then .form fields else .text s := by
  rw [data, hupload, hbody]

end RequestsScript

namespace Target

def PassesFields (t : Target) (r : Request) (text : String) : Prop :=
  t = .python ∧ ∃ s fields, r.body = .urlencoded s fields ∧ Url.encodeFields fields = s ∧
    RequestsScript.PassesData (RequestsScript.table "data" (RequestsScript.literals fields)) text

/-- Whether a form is passed as its text, because it is not the one that the library makes of the
fields. -/
def LeavesUntyped (t : Target) (r : Request) : Prop :=
  t = .python ∧ ∃ s fields, r.body = .urlencoded s fields ∧ Url.encodeFields fields ≠ s

theorem setsHeader_of_entries {entries : List (String × Code)}
    (h : t.headerEntries? r = some entries) (hwrite : (t.write r).result = .ok text)
    (honly : OnlyOfName (·.1) (name, lit value) entries) : t.SetsHeader r name value text :=
  .inl ⟨entries, h, holdsHeaders h hwrite, honly⟩

theorem setsHeader_of_statements {statements : List HeaderStatement}
    (h : t.headerStatements? r = some statements) (hholds : t.HoldsStatements statements text)
    (honly : OnlyOfName HeaderStatement.name (.replace name value) statements) :
    t.SetsHeader r name value text :=
  .inr ⟨statements, h, hholds, honly⟩

theorem setsHeader_contentType (hnone : r.hasHeader "content-type" = false)
    (hdata : r.bodyType? = some formType) (hwrite : (t.write r).result = .ok text)
    (ht : t ∈ [python, javascript, node, nodeAxios, go, ruby])
    (hpython : t = .python → r.hasRawBody = true) :
    t.SetsHeader r "Content-Type" formType text := by
  cases t with
  | python =>
    exact setsHeader_of_entries rfl hwrite
      (RequestsScript.onlyOfName_headers hnone hdata (hpython rfl))
  | javascript =>
    exact setsHeader_of_entries rfl hwrite (FetchCall.onlyOfName_headers hnone hdata .browser)
  | node => exact setsHeader_of_entries rfl hwrite (FetchCall.onlyOfName_headers hnone hdata .node)
  | nodeAxios => exact setsHeader_of_entries rfl hwrite (AxiosCall.onlyOfName_headers hnone hdata)
  | go =>
    obtain ⟨ms, rfl⟩ := GoProgram.write_eq_ok hwrite
    exact setsHeader_of_statements rfl ⟨_, rfl, GoProgram.infix_code⟩
      (onlyOfName_statements hnone hdata)
  | ruby =>
    obtain ⟨address, rfl⟩ := RubyScript.write_eq_ok hwrite
    exact setsHeader_of_statements rfl ⟨_, rfl, RubyScript.infix_code⟩
      (onlyOfName_statements hnone hdata)
  | ansible | json | php | strest => simp at ht

theorem not_setsHeader_contentType (hnone : r.hasHeader "content-type" = false)
    (hraw : r.hasRawBody = false) : ¬ python.SetsHeader r "Content-Type" value text := by
  rintro (⟨entries, hentries, -, honly⟩ | ⟨statements, hstatements, -⟩)
  · cases hentries
    obtain ⟨before, after, heq, -⟩ := honly
    have hmem : ("Content-Type", lit value) ∈
        RequestsScript.literals (RequestsScript.headers r) := by
      rw [heq]
      exact List.mem_append_right _ List.mem_cons_self
    obtain ⟨header, hheader, hname⟩ := List.mem_map.1 hmem
    have hname : header.1 = "Content-Type" := congrArg Prod.fst hname
    rw [RequestsScript.headers_eq, hraw, if_neg Bool.false_ne_true, List.append_nil] at hheader
    cases List.mem_append.1 hheader with
    | inl h => exact lower_ne_of_mem_mergedHeaders hnone _ h (congrArg Text.lower hname)
    | inr h => exact lower_ne_of_mem_bearerHeader _ h (congrArg Text.lower hname)
  · cases hstatements

end Target

namespace Arguments

variable {a : Arguments}

/-- Data without a content type is sent as a form: the code sets the header, or it passes the fields
to a library that does. It does neither exactly if a script passes a form as a text that the library
would not make of its fields. -/
theorem contentType_sent (hr : a.request.result = .ok r)
    (hdata : (∃ data file, r.body = .raw data file) ∨ ∃ s fields, r.body = .urlencoded s fields)
    (hnone : r.hasHeader "content-type" = false)
    (ht : t ∈ [.python, .javascript, .node, .nodeAxios, .go, .ruby])
    (hwrite : (t.write r).result = .ok text) :
    (t.SetsHeader r "Content-Type" formType text ∨ t.PassesFields r text ↔ ¬ t.LeavesUntyped r) ∧
    ∀ s fields, t.LeavesUntyped r → r.body = .urlencoded s fields →
      RequestsScript.PassesData ("data = " ++ lit s) text := by
  have htype : r.bodyType? = some formType := by
    rcases hdata with ⟨data, file, hbody⟩ | ⟨s, fields, hbody⟩ <;> rw [Request.bodyType?, hbody]
  have hupload : r.uploadFile = none := by
    by_contra hsome
    have hnobody := (wellFormed_of_request hr).upload (Option.isSome_iff_ne_none.2 hsome)
    simp [Request.bodyType?, hnobody] at htype
  refine ⟨⟨?_, fun hleft => ?_⟩, ?_⟩
  · rintro hsent ⟨rfl, s, fields, hbody, hne⟩
    have hraw : r.hasRawBody = false := by simp [Request.hasRawBody, hbody]
    cases hsent with
    | inl hset => exact Target.not_setsHeader_contentType hnone hraw hset
    | inr hpasses =>
      obtain ⟨-, s', fields', hbody', heq, -⟩ := hpasses
      cases hbody.symm.trans hbody'
      exact hne heq
  · by_cases hpython : t = .python → r.hasRawBody = true
    · exact .inl (Target.setsHeader_contentType hnone htype hwrite ht hpython)
    · obtain ⟨rfl, hraw⟩ := Classical.not_imp.1 hpython
      rcases hdata with ⟨data, file, hbody⟩ | ⟨s, fields, hbody⟩
      · simp [Request.hasRawBody, hbody] at hraw
      · have heq : Url.encodeFields fields = s :=
          Classical.not_not.1 fun hne => hleft ⟨rfl, s, fields, hbody, hne⟩
        have hform : RequestsScript.data r = .form fields := by
          rw [RequestsScript.data_of_urlencoded hupload hbody, if_pos heq]
        refine .inr ⟨rfl, s, fields, hbody, heq, RequestsScript.passesData ?_ ?_ hwrite⟩
        · rw [hform]
          exact List.mem_singleton_self _
        · rw [hform]
          rfl
  · rintro s fields ⟨rfl, s', fields', hbody', hne⟩ hbody
    cases hbody.symm.trans hbody'
    have htext : RequestsScript.data r = .text s := by
      rw [RequestsScript.data_of_urlencoded hupload hbody, if_neg hne]
    refine RequestsScript.passesData ?_ ?_ hwrite
    · rw [htext]
      exact List.mem_singleton_self _
    · rw [htext]
      rfl

theorem contentType_sent_twice : ∃ a r text code,
    (parse .curl true ["-d", "a=b&a=c", "http://h/"]).result = .ok a ∧
    a.request.result = .ok r ∧ r.hasHeader "content-type" = false ∧
    (Target.python.write r).result = .ok text ∧ Target.python.PassesFields r text ∧
    (Target.ruby.write r).result = .ok code ∧
    Target.ruby.SetsHeader r "Content-Type" formType code := by
  let a : Arguments := ⟨[⟨"data", true, .word "a=b&a=c"⟩], ["http://h/"]⟩
  let r : Request :=
    { method := .post, url := "http://h/", body := .urlencoded "a=b&a=c" [("a", "b"), ("a", "c")] }
  have hr : a.request.result = .ok r := by decide +kernel
  have hnone : r.hasHeader "content-type" = false := by decide
  have hform : Url.encodeFields [("a", "b"), ("a", "c")] = "a=b&a=c" := by decide +kernel
  have hdata : (∃ data file, r.body = .raw data file) ∨
      ∃ s fields, r.body = .urlencoded s fields := .inr ⟨_, _, rfl⟩
  obtain ⟨hpython, -⟩ := contentType_sent (t := .python) hr hdata hnone (by decide) rfl
  obtain ⟨hruby, -⟩ := contentType_sent (t := .ruby) hr hdata hnone (by decide) rfl
  refine ⟨a, r, _, _, by cbv, hr, hnone, rfl, ?_, rfl, ?_⟩
  · refine (hpython.2 ?_).resolve_left (Target.not_setsHeader_contentType hnone (by decide))
    rintro ⟨-, s, fields, hbody, hne⟩
    cases hbody
    exact hne hform
  · exact (hruby.2 fun h => absurd h.1 (by decide)).resolve_right fun h => absurd h.1 (by decide)

theorem contentType_sent_text : ∃ a r,
    (parse .curl true ["-d", "a=b c", "http://h/"]).result = .ok a ∧
    a.request.result = .ok r ∧ r.body = .urlencoded "a=b c" [("a", "b c")] ∧
    r.hasHeader "content-type" = false ∧
    (Target.python.write r).result = .ok ("import requests\n\ndata = 'a=b c'\n\n"
      ++ "response = requests.post('http://h/', data=data)\n") ∧
    (∀ value text, ¬ Target.python.SetsHeader r "Content-Type" value text) ∧
    ∀ text, ¬ Target.python.PassesFields r text := by
  let a : Arguments := ⟨[⟨"data", true, .word "a=b c"⟩], ["http://h/"]⟩
  let r : Request :=
    { method := .post, url := "http://h/", body := .urlencoded "a=b c" [("a", "b c")] }
  have hnone : r.hasHeader "content-type" = false := by decide
  have hform : Url.encodeFields [("a", "b c")] ≠ "a=b c" := by decide +kernel
  refine ⟨a, r, by cbv, by decide +kernel, rfl, hnone, by decide +kernel, fun value text => ?_, ?_⟩
  · exact Target.not_setsHeader_contentType hnone (by decide)
  · rintro text ⟨-, s, fields, hbody, heq, -⟩
    cases hbody
    exact hform heq

end Arguments

end CurlScribe
