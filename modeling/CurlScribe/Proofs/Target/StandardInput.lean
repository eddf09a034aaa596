import CurlScribe.Proofs.Target.ContentType
import CurlScribe.Proofs.Target.FileUse
import CurlScribe.Proofs.Target.Proxied

namespace CurlScribe

open Code (lit)

variable {r : Request} {t : Target} {p : Part} {before after parts : List Part} {path text : String}

namespace RequestsScript

theorem infix_code_of_block {block : Code} (h : block ∈ dataBlock (data r)) : block <:+: code r :=
  (Code.infix_joined (List.mem_append_left _ (List.mem_append_left _
    (List.mem_append_right _ h)))).trans (List.prefix_append _ _).isInfix

theorem infix_table {name key : String} {value : Code} {items : List (String × Code)}
    (h : (key, value) ∈ items) : value <:+: table name items := by
  unfold table
  split
  · have hvalue : value <:+: item key value ++ "\n" := by
      rw [item, List.append_assoc]
      exact List.infix_append _ _ _
    have hitem : item key value ++ "\n" ∈ items.map fun e => item e.1 e.2 ++ "\n" :=
      List.mem_map_of_mem h
    rw [dict_eq]
    exact hvalue.trans ((Code.infix_joined hitem).trans (List.infix_append ..))
  · have hvalue : value <:+: pairItem key value ++ "\n" := by
      rw [pairItem, List.append_assoc]
      exact List.infix_append _ _ _
    have hitem : pairItem key value ++ "\n" ∈ items.map fun e => pairItem e.1 e.2 ++ "\n" :=
      List.mem_map_of_mem h
    rw [pairs_eq]
    exact hvalue.trans ((Code.infix_joined hitem).trans (List.infix_append ..))

end RequestsScript

namespace FetchCall

theorem infix_code_of_part {ms : Option Int} {platform : Platform} (hform : content r = .form parts)
    (h : p ∈ parts) : appendPart platform p <:+: code platform r ms := by
  have hblock : Code.lines (("const form = new FormData();" : String)
      :: parts.map (appendPart platform)) ∈ preamble platform (content r) := by
    rw [hform]
    exact List.mem_singleton_self _
  have hpart : appendPart platform p <:+: Code.lines (("const form = new FormData();" : String)
      :: parts.map (appendPart platform)) :=
    Code.infix_joined (List.mem_cons_of_mem _ (List.mem_map_of_mem h))
  exact hpart.trans ((Code.infix_joined (List.mem_append_left _ (List.mem_append_right _
    hblock))).trans (List.prefix_append _ _).isInfix)

end FetchCall

namespace AxiosCall

theorem infix_code_of_part {ms : Option Int} {address : Option ProxyAddress}
    (hform : FetchCall.content r = .form parts) (h : p ∈ parts) :
    appendPart p <:+: code r ms address := by
  have hblock : Code.lines (("const form = new FormData();" : String) :: parts.map appendPart) ∈
      preamble r := by
    rw [preamble, hform]
    exact List.mem_singleton_self _
  have hpart : appendPart p <:+:
      Code.lines (("const form = new FormData();" : String) :: parts.map appendPart) :=
    Code.infix_joined (List.mem_cons_of_mem _ (List.mem_map_of_mem h))
  exact hpart.trans ((Code.infix_joined (List.mem_append_left _ (List.mem_append_right _
    hblock))).trans (List.prefix_append _ _).isInfix)

end AxiosCall

namespace GoProgram

theorem infix_code_of_content {ms : Option Int} {l : List Code}
    (h : l <:+: contentLines (content r)) : Code.lines l <:+: code r ms := by
  apply infix_code_of_main
  simp only [List.append_assoc]
  exact h.trans ((List.prefix_append _ _).isInfix.trans (List.suffix_append _ _).isInfix)

theorem infix_contentLines (before after : List Part) (p : Part) :
    partLines p before.length <:+: contentLines (.form (before ++ p :: after)) := by
  rw [contentLines, List.zipIdx_append, List.flatMap_append, List.zipIdx_cons, List.flatMap_cons,
    Nat.zero_add]
  simp only [List.append_assoc]
  refine List.IsInfix.trans ?_ (List.suffix_append _ _).isInfix
  refine List.IsInfix.trans ?_ (List.suffix_append _ _).isInfix
  exact List.infix_append' _ _ _

end GoProgram

namespace RubyScript

theorem infix_code_of_body {address : Option ProxyAddress} {line : Code}
    (h : line ∈ bodyLines r) : line <:+: code r address := by
  refine List.IsInfix.trans (Code.infix_joined ?_)
    ((List.suffix_append _ _).isInfix.trans (List.prefix_append _ _).isInfix)
  simp only [List.mem_append, h, true_or, or_true]

end RubyScript

namespace PhpScript

theorem infix_code_of_option {ms connectMs : Option Int} {o : String × Code}
    (h : o ∈ options r ms connectMs) : setLine o <:+: code r ms connectMs :=
  (Code.infix_joined (List.mem_map_of_mem h)).trans (List.infix_append ..)

theorem infix_multipart (h : p.name ∉ after.map (·.name)) :
    entryLine (partEntry p) <:+: multipart (before ++ p :: after) := by
  have hafter : (partEntry p).1 ∉ (after.map partEntry).map (·.1) := by
    rw [List.map_map]
    exact h
  obtain ⟨start, rest, hitems⟩ := Fields.exists_ofItems hafter (before.map partEntry)
  have hmem : partEntry p ∈ Fields.ofItems ((before ++ p :: after).map partEntry) := by
    rw [List.map_append, List.map_cons, hitems (partEntry p).2]
    simp
  have hline : "    " ++ entryLine (partEntry p) ++ ",\n" ∈
      ((Fields.ofItems ((before ++ p :: after).map partEntry)).map entryLine).map
        fun item : Code => "    " ++ item ++ ",\n" :=
    List.mem_map_of_mem (List.mem_map_of_mem hmem)
  exact (List.infix_append _ _ _).trans ((Code.infix_joined hline).trans (List.infix_append ..))

end PhpScript

section Placed

variable {u : FileUse} (hnames : r.Names u) (hwell : r.WellFormed)

include hwell in
theorem Request.uploadFile_eq_none (h : r.body ≠ .none) : r.uploadFile = none := by
  by_contra hsome
  exact h (hwell.upload (Option.isSome_iff_ne_none.2 hsome))

include hnames hwell

theorem RequestsScript.infix_codeFor : Target.python.codeFor u <:+: code r := by
  cases hnames with
  | @upload path h =>
    have hdata : data r = .upload path := by rw [data, h]
    have hargument : "data=" ++ openFile path ∈ arguments r := by
      simp [arguments, hdata, dataArgument]
    exact infix_code_of_argument hargument
  | @body contents path h =>
    have hnone := Request.uploadFile_eq_none hwell (by simp [h])
    have hdata : data r = if path = "-" then .input else .file path := by rw [data, hnone, h]
    rw [Target.codeFor, ← hdata]
    refine infix_code_of_block ?_
    rw [hdata]
    split <;> exact List.mem_singleton_self _
  | @part before p after h =>
    have hnone := Request.uploadFile_eq_none hwell (by simp [h])
    have hdata : data r = .parts (before ++ p :: after) := by rw [data, hnone, h]
    have hblock : table "files" ((before ++ p :: after).map fun p => (p.name, part p)) ∈
        dataBlock (data r) := by
      rw [hdata]
      exact List.mem_singleton_self _
    have hpart : (p.name, part p) ∈ (before ++ p :: after).map fun p => (p.name, part p) :=
      List.mem_map.2 ⟨p, by simp, rfl⟩
    exact (infix_table hpart).trans (infix_code_of_block hblock)

theorem FetchCall.infix_codeFor (ms : Option Int) :
    Target.node.codeFor u <:+: code .node r ms := by
  cases hnames with
  | @upload path h =>
    have hcontent : content r = .file path := by rw [content, h]
    apply infix_code_of_option
    simp [options, hcontent, contentField, file]
  | @body contents path h =>
    have hnone := Request.uploadFile_eq_none hwell (by simp [h])
    have hcontent : content r = .file path := by rw [content, hnone, h]
    apply infix_code_of_option
    simp [options, hcontent, contentField, file]
  | @part before p after h =>
    have hnone := Request.uploadFile_eq_none hwell (by simp [h])
    have hcontent : content r = .form (before ++ p :: after) := by rw [content, hnone, h]
    exact infix_code_of_part hcontent (by simp)

theorem AxiosCall.infix_codeFor (ms : Option Int) (address : Option ProxyAddress) :
    Target.nodeAxios.codeFor u <:+: code r ms address := by
  cases hnames with
  | @upload path h =>
    apply infix_code_of_option
    simp [config, data, h]
  | @body contents path h =>
    have hnone := Request.uploadFile_eq_none hwell (by simp [h])
    apply infix_code_of_option
    simp [config, data, FetchCall.content, hnone, h]
  | @part before p after h =>
    have hnone := Request.uploadFile_eq_none hwell (by simp [h])
    have hcontent : FetchCall.content r = .form (before ++ p :: after) := by
      rw [FetchCall.content, hnone, h]
    exact infix_code_of_part hcontent (by simp)

theorem GoProgram.infix_codeFor (ms : Option Int) : Target.go.codeFor u <:+: code r ms := by
  cases hnames with
  | @upload path h =>
    have hcontent : content r = .file path := by rw [content, h]
    apply infix_code_of_content
    rw [hcontent]
    exact List.infix_rfl
  | @body contents path h =>
    have hnone := Request.uploadFile_eq_none hwell (by simp [h])
    have hcontent : content r = .file path := by rw [content, hnone, h]
    apply infix_code_of_content
    rw [hcontent]
    exact List.infix_rfl
  | @part before p after h =>
    have hnone := Request.uploadFile_eq_none hwell (by simp [h])
    have hcontent : content r = .form (before ++ p :: after) := by rw [content, hnone, h]
    apply infix_code_of_content
    rw [hcontent]
    exact infix_contentLines before after p

theorem RubyScript.infix_codeFor (address : Option ProxyAddress) :
    Target.ruby.codeFor u <:+: code r address := by
  cases hnames with
  | @upload path h =>
    apply infix_code_of_body
    simp [bodyLines, h, Target.codeFor]
  | @body contents path h =>
    have hnone := Request.uploadFile_eq_none hwell (by simp [h])
    apply infix_code_of_body
    simp [bodyLines, hnone, h, Target.codeFor]
  | @part before p after h =>
    have hnone := Request.uploadFile_eq_none hwell (by simp [h])
    have hline : "    " ++ part p ++ "," ∈ bodyLines r := by
      simp [bodyLines, hnone, h, Code.line]
    exact (List.infix_append ..).trans (infix_code_of_body hline)

theorem PhpScript.infix_codeFor (hkept : ¬ Target.php.Replaces u) (ms connectMs : Option Int) :
    Target.php.codeFor u <:+: code r ms connectMs := by
  cases hnames with
  | @upload path h =>
    apply infix_code_of_option
    simp [options, bodyOptions, h]
  | @body contents path h =>
    have hnone := Request.uploadFile_eq_none hwell (by simp [h])
    apply infix_code_of_option
    simp [options, bodyOptions, hnone, h]
  | @part before p after h =>
    have hnone := Request.uploadFile_eq_none hwell (by simp [h])
    have hkept : p.name ∉ after.map (·.name) := fun hmem => hkept ⟨.inl rfl, hmem⟩
    have hoption : option "POSTFIELDS" (multipart (before ++ p :: after)) ∈
        options r ms connectMs := by
      simp [options, bodyOptions, hnone, h]
    exact (infix_multipart hkept).trans ((infix_setLine _ _).trans (infix_code_of_option hoption))

end Placed

namespace Target

inductive Notice.IsOfFile : Notice → Prop
  | inBrowser (path : String) : IsOfFile (.fileInBrowser path)
  | upload (t : Target) : IsOfFile (.unsupported t .uploadFile)

theorem Notice.isOfFile_iff {n : Notice} : n.IsOfFile ↔
    (∃ path, n = .fileInBrowser path) ∨ ∃ t, n = .unsupported t .uploadFile := by
  constructor
  · rintro (path | t)
    · exact .inl ⟨path, rfl⟩
    · exact .inr ⟨t, rfl⟩
  · rintro (⟨path, rfl⟩ | ⟨t, rfl⟩)
    · exact .inBrowser path
    · exact .upload t

variable {u : FileUse} {notes : List Notice}

theorem infix_codeFor (ht : t.opensFiles = true) (hnames : r.Names u) (hwell : r.WellFormed)
    (hkept : ¬ t.Replaces u) (hwrite : (t.write r).result = .ok text) :
    ∃ c : Code, text = c.text t.literalText ∧ t.codeFor u <:+: c := by
  cases t with
  | python =>
    cases hwrite
    exact ⟨_, rfl, RequestsScript.infix_codeFor hnames hwell⟩
  | node =>
    obtain ⟨ms, rfl⟩ := FetchCall.write_eq_ok hwrite
    exact ⟨_, rfl, FetchCall.infix_codeFor hnames hwell ms⟩
  | nodeAxios =>
    obtain ⟨ms, address, rfl⟩ := AxiosCall.write_eq_ok hwrite
    exact ⟨_, rfl, AxiosCall.infix_codeFor hnames hwell ms address⟩
  | go =>
    obtain ⟨ms, rfl⟩ := GoProgram.write_eq_ok hwrite
    exact ⟨_, rfl, GoProgram.infix_codeFor hnames hwell ms⟩
  | ruby =>
    obtain ⟨address, rfl⟩ := RubyScript.write_eq_ok hwrite
    exact ⟨_, rfl, RubyScript.infix_codeFor hnames hwell address⟩
  | php =>
    obtain ⟨ms, connectMs, rfl⟩ := PhpScript.write_eq_ok hwrite
    exact ⟨_, rfl, PhpScript.infix_codeFor hnames hwell hkept ms connectMs⟩
  | _ => cases ht

theorem not_isOfFile_featureNotices (ht : t.opensFiles = true) :
    ∀ n ∈ t.featureNotices r, ¬ n.IsOfFile := by
  have hsupported : t.supported.contains .uploadFile = true := by
    cases t <;> first | rfl | cases ht
  intro n hn
  obtain ⟨f, hf, rfl⟩ := List.mem_map.1 hn
  cases f with
  | uploadFile =>
    have hunsupported := (Bool.and_eq_true_iff.1 (List.mem_filter.1 hf).2).1
    rw [hsupported] at hunsupported
    cases hunsupported
  | _ => exact nofun

theorem not_isOfFile_mergeNotices : ∀ n ∈ r.mergeNotices t, ¬ n.IsOfFile := by
  intro n hn
  obtain ⟨name, -, rfl⟩ := List.mem_map.1 hn
  exact nofun

theorem not_isOfFile_of_isOfProxy {n : Notice} (h : n.IsOfProxy) : ¬ n.IsOfFile := by
  rintro (path | t) <;> cases h

theorem not_isOfFile_partNotices (seen : List String) (parts : List Part) :
    ∀ n ∈ PhpScript.partNotices seen parts, ¬ n.IsOfFile := by
  induction parts generalizing seen with
  | nil => simp [PhpScript.partNotices]
  | cons p parts ih =>
    rw [PhpScript.partNotices]
    refine List.forall_mem_append.2 ⟨List.forall_mem_append.2 ⟨?_, ?_⟩, ih _⟩
    · split <;> simp [Notice.isOfFile_iff]
    · split <;> simp [Notice.isOfFile_iff]

theorem ensures_note {N : Notice → Prop} {notices : List Notice} (h : ∀ n ∈ notices, N n) :
    (Noted.note notices : Noted Notice Fault Unit).Ensures N fun _ => True :=
  .note h trivial

theorem ensures_ofExcept {N : Notice → Prop} {α : Type} (x : Except Fault α) :
    (Noted.ofExcept x : Noted Notice Fault α).Ensures N fun _ => True :=
  .ofExcept fun _ _ => trivial

theorem not_isOfFile_notes (ht : t.opensFiles = true) :
    (t.write r).Ensures (fun n => ¬ n.IsOfFile) fun _ => True := by
  have hfeatures := not_isOfFile_featureNotices (r := r) ht
  have hproxy : ∀ n ∈ r.proxyUserNotices, ¬ n.IsOfFile := fun n hn =>
    not_isOfFile_of_isOfProxy (isOfProxy_proxyUserNotices hn)
  cases t with
  | python =>
    refine (ensures_note ?_).bind fun _ _ => .pure trivial
    refine List.forall_mem_append.2 ⟨List.forall_mem_append.2 ⟨List.forall_mem_append.2
      ⟨hfeatures, not_isOfFile_mergeNotices⟩, ?_⟩, ?_⟩
    · split <;> simp [Notice.isOfFile_iff]
    · split <;> simp [Notice.isOfFile_iff]
  | node =>
    refine (ensures_note ?_).bind fun _ _ => (ensures_ofExcept _).bind fun _ _ => .pure trivial
    exact List.forall_mem_append.2 ⟨List.forall_mem_append.2
      ⟨hfeatures, not_isOfFile_mergeNotices⟩, by simp⟩
  | nodeAxios =>
    refine (ensures_note ?_).bind fun _ _ => (ensures_ofExcept _).bind fun _ _ =>
      (ensures_ofExcept _).bind fun _ _ => (ensures_note ?_).bind fun _ _ => .pure trivial
    · exact List.forall_mem_append.2 ⟨hfeatures, not_isOfFile_mergeNotices⟩
    · exact List.forall_mem_append.2
        ⟨fun n hn => not_isOfFile_of_isOfProxy (AxiosCall.isOfProxy_portNotices hn), hproxy⟩
  | go =>
    refine (ensures_note ?_).bind fun _ _ => (ensures_ofExcept _).bind fun _ _ =>
      (ensures_note ?_).bind fun _ _ => .pure trivial
    · exact List.forall_mem_append.2 ⟨hfeatures, hproxy⟩
    · intro n hn
      unfold GoProgram.partNotices at hn
      split at hn
      · obtain ⟨p, -, rfl⟩ := List.mem_map.1 hn
        exact nofun
      · cases hn
  | ruby =>
    refine (ensures_note hfeatures).bind fun _ _ => (ensures_ofExcept _).bind fun _ _ =>
      (ensures_ofExcept _).bind fun _ _ => (ensures_note ?_).bind fun _ _ => .pure trivial
    exact fun n hn => not_isOfFile_of_isOfProxy (RubyScript.isOfProxy_proxyNotices hn)
  | php =>
    refine (ensures_note ?_).bind fun _ _ => (ensures_ofExcept _).bind fun _ _ =>
      (ensures_ofExcept _).bind fun _ _ => (ensures_ofExcept _).bind fun _ _ => .pure trivial
    refine List.forall_mem_append.2 ⟨hfeatures, ?_⟩
    unfold PhpScript.bodyNotices
    split
    · exact not_isOfFile_partNotices [] _
    · simp
  | _ => cases ht

end Target

namespace Arguments

variable {a : Arguments} {u : FileUse} {notes : List Target.Notice}

/-- The code for a file that is named opens it by its name or, for the name `-`, takes standard
input where the target can take it there. Elsewhere the code opens a file of the name `-`, and no
notice says so. Only in PHP, a part may be replaced by a later one, of which there is a notice. -/
theorem standardInput_taken (hr : a.request.result = .ok r) (ht : t.opensFiles = true)
    (hnames : r.Names u) (hpath : u.path? = some path)
    (hwrite : t.write r = ⟨notes, .ok text⟩) :
    (¬ t.Replaces u → ∃ c : Code, text = c.text t.literalText ∧ t.codeFor u <:+: c ∧
      (path = "-" → t.takesInput u.place = true →
        t.TakesInput u.place (t.codeFor u) ∧ ¬ t.Opens u.place "-" (t.codeFor u)) ∧
      (path = "-" → t.takesInput u.place = false → t.Opens u.place "-" (t.codeFor u)) ∧
      (path ≠ "-" → t.Opens u.place path (t.codeFor u))) ∧
    (t.Replaces u → ∃ n ∈ notes, ∃ name ∈ u.name?, t.twiceNotice? name = some n) ∧
    ∀ n ∈ notes, ¬ n.IsOfFile := by
  have hwell := wellFormed_of_request hr
  have hreads := Target.reads_codeFor ht hpath
  refine ⟨fun hkept => ?_, fun hlost => ?_, ?_⟩
  · have hresult : (t.write r).result = .ok text := by rw [hwrite]
    obtain ⟨c, htext, hcode⟩ := Target.infix_codeFor ht hnames hwell hkept hresult
    refine ⟨c, htext, hcode, ?_, ?_, ?_⟩
    · rintro rfl htakes
      rwa [Target.Reads, if_pos ⟨rfl, htakes⟩] at hreads
    · rintro rfl htakes
      rwa [Target.Reads, if_neg (by simp [htakes])] at hreads
    · intro hne
      rwa [Target.Reads, if_neg fun h => hne h.1] at hreads
  · cases hnames with
    | upload | body => cases hlost
    | @part before p after h =>
      have hform : r = r.withParts (before ++ p :: after) := by
        rw [Request.withParts, ← h]
      have hupload := Request.uploadFile_eq_none hwell (by simp [h])
      rw [hform] at hwrite
      obtain ⟨n, hn, hname⟩ := Target.exists_twiceNotice hupload hwrite hlost
      exact ⟨n, hn, p.name, rfl, hname⟩
  · have hquiet := (Target.not_isOfFile_notes (r := r) ht).1
    rwa [hwrite] at hquiet

theorem standardInput_taken_body : ∃ a r text,
    (parse .curl true ["--data-binary", "@-", "http://h/"]).result = .ok a ∧
    a.request.result = .ok r ∧ Target.python.opensFiles = true ∧ r.Names (.body "-") ∧
    (FileUse.body "-").path? = some "-" ∧ Target.python.write r = ⟨[], .ok text⟩ ∧
    ¬ Target.python.Replaces (.body "-") ∧ Target.python.takesInput .body = true ∧
    ∃ c : Code, text = c.text Text.shown ∧ Target.python.codeFor (.body "-") <:+: c ∧
      Target.python.TakesInput .body (Target.python.codeFor (.body "-")) ∧
      ¬ Target.python.Opens .body "-" (Target.python.codeFor (.body "-")) := by
  let a : Arguments := ⟨[⟨"data-binary", true, .word "@-"⟩], ["http://h/"]⟩
  let r : Request := { method := .post, url := "http://h/", body := .raw "" (some "-") }
  have hr : a.request.result = .ok r := by decide
  obtain ⟨htaken, -, -⟩ :=
    standardInput_taken (t := .python) (u := .body "-") hr rfl (.body rfl) rfl rfl
  obtain ⟨c, htext, hcode, hinput, -, -⟩ := htaken id
  exact ⟨a, r, _, by cbv, hr, rfl, .body rfl, rfl, rfl, id, rfl, c, htext, hcode, hinput rfl rfl⟩

theorem standardInput_taken_dash : ∃ a b r r',
    (parse .curl true ["-T", "-", "http://h/"]).result = .ok a ∧ a.request.result = .ok r ∧
    (parse .curl true ["-F", "a=@-", "http://h/"]).result = .ok b ∧ b.request.result = .ok r' ∧
    r.uploadFile = some "-" ∧ r'.body = .multipart [{ name := "a", file := some "-" }] ∧
    (Target.python.write r).notes = [] ∧ (Target.python.write r).result =
      .ok "import requests\n\nresponse = requests.put('http://h/', data=open('-', 'rb'))\n" ∧
    (Target.nodeAxios.write r).notes = [] ∧ (Target.nodeAxios.write r).result =
      .ok ("import axios from 'axios';\nimport fs from 'fs';\n\n"
        ++ "const response = await axios(\x7b\n    method: \"put\",\n    url: \"http://h/\",\n"
        ++ "    data: fs.createReadStream(\"-\")\n\x7d);\n") ∧
    (Target.node.write r').notes = [] ∧ (Target.node.write r').result =
      .ok ("import fetch, \x7b FormData, fileFromSync \x7d from 'node-fetch';\n\n"
        ++ "const form = new FormData();\nform.append(\"a\", fileFromSync(\"-\"));\n\n"
        ++ "fetch(\"http://h/\", \x7b\n    method: \"POST\",\n    body: form\n\x7d);\n") ∧
    (Target.php.write r').notes = [] ∧ (Target.php.write r').result =
      .ok ("<?php\n$ch = curl_init();\ncurl_setopt($ch, CURLOPT_URL, 'http://h/');\n"
        ++ "curl_setopt($ch, CURLOPT_CUSTOMREQUEST, 'POST');\n"
        ++ "curl_setopt($ch, CURLOPT_RETURNTRANSFER, true);\n"
        ++ "curl_setopt($ch, CURLOPT_POSTFIELDS, [\n    'a' => new CURLFile('-'),\n]);\n"
        ++ "\n$response = curl_exec($ch);\n\ncurl_close($ch);\n") := by
  let a : Arguments := ⟨[⟨"upload-file", false, .word "-"⟩], ["http://h/"]⟩
  let b : Arguments := ⟨[⟨"form", true, .word "a=@-"⟩], ["http://h/"]⟩
  let r : Request := { method := .put, url := "http://h/", uploadFile := some "-" }
  let p : Part := { name := "a", file := some "-" }
  let r' : Request := { method := .post, url := "http://h/", body := .multipart [p] }
  refine ⟨a, b, r, r', by cbv, by decide, by cbv, by decide +kernel, rfl, rfl, ?_⟩
  decide +kernel

end Arguments

end CurlScribe
