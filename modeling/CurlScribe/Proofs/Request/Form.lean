import CurlScribe.Proofs.Request.Payload
import CurlScribe.Proofs.Request.Topic
import CurlScribe.Proofs.Text.Trim
import CurlScribe.Proofs.Url.Form

namespace CurlScribe

namespace Request

variable {name content path type filename text : String} {given : String × String} {p : Part}

def IsNameless (text : String) : Prop :=
  '=' ∉ text.toList ∨ text.toList.head? = some '='

instance : DecidablePred IsNameless := fun _ => inferInstanceAs (Decidable (_ ∨ _))

/-- Whether what is behind a name is sent as it is: it names no file and has no type behind it. -/
structure IsPlainContent (content : String) : Prop where
  upload : content.toList.head? ≠ some '@'
  contents : content.toList.head? ≠ some '<'
  typed : ¬ ";type=".toList <:+: content.toList

structure IsParameterValue (value : String) : Prop where
  semicolon : ';' ∉ value.toList
  quote : '"' ∉ value.toList
  trimmed : Text.trim value = value

/-- A text that gives a part a file, with its type and the name that it is to have. -/
inductive GivesFile (name path type filename : String) : String → Prop
  | typeFirst : GivesFile name path type filename
      (name ++ "=@" ++ path ++ ";type=" ++ type ++ ";filename=" ++ filename)
  | filenameFirst : GivesFile name path type filename
      (name ++ "=@" ++ path ++ ";filename=" ++ filename ++ ";type=" ++ type)

/-- What a part has to be for a flag and the text given to it. -/
structure IsPartOf (given : String × String) (p : Part) : Prop where
  name : '=' ∉ p.name.toList ∧ ∃ content, given.2 = p.name ++ "=" ++ content
  literal : ∀ content, given.2 = p.name ++ "=" ++ content →
    given.1 = "form-string" ∨ IsPlainContent content →
    p = { name := p.name, value := some content }
  file : given.1 ≠ "form-string" → ∀ path type filename, GivesFile p.name path type filename given.2 →
    ';' ∉ path.toList → IsParameterValue type → IsParameterValue filename →
    p = { name := p.name, file := some path, contentType := some type, filename := some filename } ∧
      p.isUpload = true

section Named

theorem exists_name (h : ¬ IsNameless text) :
    ∃ name content, text = name ++ "=" ++ content ∧ name ≠ "" ∧ '=' ∉ name.toList := by
  rw [IsNameless, not_or, not_not] at h
  obtain ⟨hmem, hhead⟩ := h
  rcases hcut : Text.cutList '=' text.toList with ⟨name, _ | content⟩
  · exact absurd hmem (Text.cutList_eq_none.1 hcut).2
  · obtain ⟨htext, hname⟩ := Text.cutList_eq_some.1 hcut
    refine ⟨.ofList name, .ofList content, ?_, ?_, by simpa using hname⟩
    · rw [← String.toList_inj, htext]
      simp
    · intro hnil
      rw [String.ofList_eq_empty_iff] at hnil
      simp [htext, hnil] at hhead

theorem part?_of_isNameless (h : IsNameless given.2) : part? given = none := by
  unfold part?
  rcases h with hmem | hhead
  · have hcut : Text.cut '=' given.2 = (given.2, none) := by simp [Text.cut, hmem]
    simp only [hcut]
    split
    · rfl
    · rfl
    · rename_i heq
      cases heq
  · obtain ⟨rest, hrest⟩ := List.head?_eq_some_iff.1 hhead
    have hcut : Text.cut '=' given.2 = ("", some (.ofList rest)) := by
      simp [Text.cut, hrest, Text.cutList]
    simp only [hcut]

theorem part?_named (hne : name ≠ "") (hname : '=' ∉ name.toList) (flag content : String) :
    part? (flag, name ++ "=" ++ content) =
      some (if flag = "form-string" then { name, value := some content }
        else formPart name content) := by
  unfold part?
  simp only [Text.cut_equals hname]
  split <;> rfl

@[simp] theorem formPart_name : (formPart name content).name = name := by
  unfold formPart
  split <;> rfl

theorem formPart_plain (h : IsPlainContent content) :
    formPart name content = { name, value := some content } := by
  have hcut : Text.cutOn ";type=" content = (content, none) := by
    rw [Text.cutOn, Text.cutOnList_of_not_infix h.typed]
    simp
  unfold formPart
  split
  · rename_i hcontent
    exact absurd (by rw [hcontent]; rfl) h.upload
  · rename_i hcontent
    exact absurd (by rw [hcontent]; rfl) h.contents
  · rw [hcut]
    rfl

end Named

section File

theorem dropWhile_of_not_mem {c : Char} {s : List Char} (h : c ∉ s) : s.dropWhile (· = c) = s := by
  cases s with
  | nil => rfl
  | cons d s =>
    have hd : d ≠ c := fun heq => h (heq ▸ List.mem_cons_self)
    exact List.dropWhile_cons_of_neg (by simpa using hd)

theorem unquoted_eq_self (h : '"' ∉ text.toList) : unquoted text = text := by
  have hreverse : '"' ∉ text.toList.reverse := by simpa using h
  rw [unquoted, dropWhile_of_not_mem h, dropWhile_of_not_mem hreverse, List.reverse_reverse,
    String.ofList_toList]

theorem parameter_of_value {value : String} (h : IsParameterValue value) (key : String)
    (hkey : '=' ∉ key.toList) :
    parameter (key ++ "=" ++ value) = (Text.lower (Text.trim key), value) := by
  rw [parameter, Text.cut_equals hkey]
  simp only [Option.getD_some, h.trimmed, unquoted_eq_self h.quote]

theorem filePart_joined {fromFile : Bool} {parameters : List String} (hpath : ';' ∉ path.toList)
    (h : ∀ parameter ∈ parameters, ';' ∉ parameter.toList) :
    filePart name fromFile (Text.joined ";" (path :: parameters)) =
      { name, file := some path, filename := parameter? "filename" parameters,
        contentType := parameter? "type" parameters, fromFile } := by
  have hsplit : Text.split ';' (Text.joined ";" (path :: parameters)) = path :: parameters :=
    Text.split_joined (List.cons_ne_nil _ _) (List.forall_mem_cons.2 ⟨hpath, h⟩)
  rw [filePart, hsplit]

theorem formPart_upload (name s : String) : formPart name ("@" ++ s) = filePart name false s := by
  have hcontent : ("@" ++ s).toList = '@' :: s.toList := by simp
  unfold formPart
  split
  · rename_i hrest
    obtain rfl := (List.cons.inj (hcontent.symm.trans hrest)).2
    rw [String.ofList_toList]
  · rename_i hrest
    cases (List.cons.inj (hcontent.symm.trans hrest)).1
  · rename_i hupload _
    exact absurd hcontent (hupload _)

theorem formPart_of_givesFile (htext : GivesFile name path type filename text)
    (hpath : ';' ∉ path.toList) (htype : IsParameterValue type)
    (hfilename : IsParameterValue filename) :
    ∃ content, text = name ++ "=" ++ content ∧ formPart name content =
      { name, file := some path, contentType := some type, filename := some filename } := by
  have htypes : parameter ("type=" ++ type) = ("type", type) :=
    parameter_of_value htype "type" (by decide)
  have hnames : parameter ("filename=" ++ filename) = ("filename", filename) :=
    parameter_of_value hfilename "filename" (by decide)
  cases htext with
  | typeFirst =>
    refine ⟨"@" ++ Text.joined ";" [path, "type=" ++ type, "filename=" ++ filename], ?_, ?_⟩
    · rw [← String.toList_inj]
      simp [Text.joined]
    · rw [formPart_upload, filePart_joined hpath (by simp [htype.semicolon, hfilename.semicolon])]
      simp [parameter?, htypes, hnames]
  | filenameFirst =>
    refine ⟨"@" ++ Text.joined ";" [path, "filename=" ++ filename, "type=" ++ type], ?_, ?_⟩
    · rw [← String.toList_inj]
      simp [Text.joined]
    · rw [formPart_upload, filePart_joined hpath (by simp [htype.semicolon, hfilename.semicolon])]
      simp [parameter?, htypes, hnames]

end File

theorem part?_eq_none : part? given = none ↔ IsNameless given.2 := by
  refine ⟨fun h => ?_, part?_of_isNameless⟩
  by_contra hnamed
  obtain ⟨flag, text⟩ := given
  obtain ⟨name, content, rfl, hne, hname⟩ := exists_name hnamed
  rw [part?_named hne hname] at h
  cases h

theorem isPartOf_of_part? (h : part? given = some p) : IsPartOf given p := by
  obtain ⟨flag, text⟩ := given
  have hnamed : ¬ IsNameless text := by
    intro hnameless
    have hnone : part? (flag, text) = none := part?_of_isNameless hnameless
    rw [hnone] at h
    cases h
  obtain ⟨name, content, rfl, hne, hname⟩ := exists_name hnamed
  rw [part?_named hne hname, Option.some.injEq] at h
  have hsame {other : String} (h : name ++ "=" ++ content = name ++ "=" ++ other) :
      content = other := (String.append_right_inj _).1 h
  by_cases hflag : flag = "form-string"
  · rw [if_pos hflag] at h
    subst h
    refine ⟨⟨hname, content, rfl⟩, fun other hother _ => ?_, fun hform => absurd hflag hform⟩
    rw [hsame hother]
  · rw [if_neg hflag] at h
    subst h
    have hpart : (formPart name content).name = name := formPart_name
    constructor
    case name =>
      rw [hpart]
      exact ⟨hname, content, rfl⟩
    case literal =>
      intro other hother hliteral
      rw [hpart] at hother ⊢
      rw [← hsame hother] at hliteral ⊢
      exact formPart_plain (hliteral.resolve_left hflag)
    case file =>
      intro _ path type filename htext hpath htype hfilename
      rw [hpart] at htext ⊢
      obtain ⟨other, hother, hfile⟩ := formPart_of_givesFile htext hpath htype hfilename
      rw [hsame hother, hfile]
      exact ⟨rfl, rfl⟩

theorem forall₂_formParts (values : List (String × String)) :
    List.Forall₂ IsPartOf (values.filter fun given => ¬ IsNameless given.2) (formParts values) := by
  induction values with
  | nil => exact .nil
  | cons given values ih =>
    rw [formParts, List.filterMap_cons]
    cases hpart : part? given with
    | none =>
      have hnameless := part?_eq_none.1 hpart
      rw [List.filter_cons_of_neg (by simpa using hnameless)]
      exact ih
    | some p =>
      have hnamed : ¬ IsNameless given.2 := mt part?_eq_none.2 (by simp [hpart])
      rw [List.filter_cons_of_pos (by simpa using hnamed)]
      exact .cons (isPartOf_of_part? hpart) ih

def isMalformedPart : Notice → Bool
  | .malformedPart _ _ => true
  | _ => false

theorem topic_of_isMalformedPart {n : Notice} (h : isMalformedPart n = true) : n.topic = .body := by
  cases n <;> first | rfl | cases h

theorem filter_map_eq_nil {α : Type} {notice : α → Notice}
    (h : ∀ x, isMalformedPart (notice x) = false) (xs : List α) :
    (xs.map notice).filter isMalformedPart = [] := by
  simp [List.filter_map, Function.comp_def, h]

theorem filter_partNotices (given : String × String) :
    (partNotices given).filter isMalformedPart =
      if IsNameless given.2 then [.malformedPart given.1 given.2] else [] := by
  obtain ⟨flag, text⟩ := given
  have hnone : (part? (flag, text)).isNone = true ↔ IsNameless text := by
    rw [Option.isNone_iff_eq_none, part?_eq_none]
  rw [partNotices]
  by_cases hnameless : IsNameless text
  · rw [if_pos hnameless, if_pos (hnone.2 hnameless)]
    rfl
  · rw [if_neg hnameless, if_neg (mt hnone.1 hnameless)]
    split
    · rfl
    · exact filter_map_eq_nil (fun _ => rfl) _

theorem filter_formNotices (values : List (String × String)) :
    (formNotices values).filter isMalformedPart =
      (values.filter fun given => IsNameless given.2).map fun given =>
        .malformedPart given.1 given.2 := by
  induction values with
  | nil => rfl
  | cons given values ih =>
    rw [formNotices, List.flatMap_cons, List.filter_append, filter_partNotices, ← formNotices, ih]
    by_cases hnameless : IsNameless given.2
    · rw [if_pos hnameless, List.filter_cons_of_pos (by simpa using hnameless)]
      rfl
    · rw [if_neg hnameless, List.filter_cons_of_neg (by simpa using hnameless)]
      rfl

end Request

namespace Arguments

open Request

variable {t : FlagTable} {lenient : Bool} {tokens : List String} {notices : List Notice}
  {a : Arguments} {r : Request}

section Payload

variable {values : List (String × String)} (h : a.payload = .forms values)

include h

theorem filter_bodyNotices : a.bodyNotices.filter isMalformedPart =
    (formNotices values).filter isMalformedPart := by
  have htypes : (multipartTypeNotices a.headers).filter isMalformedPart = [] :=
    filter_map_eq_nil (fun _ => rfl) _
  rw [bodyNotices, h]
  simp only [List.filter_append, htypes, List.append_nil]

theorem filter_notes (hr : a.request.result = .ok r) :
    a.request.notes.filter isMalformedPart = (formNotices values).filter isMalformedPart := by
  obtain ⟨l, -, hnotes⟩ := filter_notes_topic hr
  have hbody : a.request.notes.filter (·.topic = .body) = a.bodyNotices := hnotes .body
  rw [← filter_bodyNotices h, ← hbody, List.filter_filter]
  refine List.filter_congr fun n _ => ?_
  cases hpart : isMalformedPart n with
  | false => rfl
  | true => simp [topic_of_isMalformedPart hpart]

end Payload

/-- Where forms are given and no data, each of their texts that has a name makes the one part that it
says, in the order the texts were given, and each that has none is told of once and makes no part. -/
theorem forms_sent (ht : t = .curl ∨ t = .program)
    (h : parse t lenient tokens = ⟨notices, .ok a⟩) (hforms : a.Gives formFlags)
    (hdata : ¬ a.Gives dataFlags) (hr : a.request.result = .ok r) :
    ∃ values parts, (∀ others, a.Gathers formFlags others ↔ others = values) ∧
      r.body = .multipart parts ∧
      List.Forall₂ IsPartOf (values.filter fun given => ¬ IsNameless given.2) parts ∧
      a.request.notes.filter isMalformedPart =
        (values.filter fun given => IsNameless given.2).map fun given =>
          .malformedPart given.1 given.2 := by
  have hlists : ∀ name ∈ formFlags, ∃ f ∈ t.flags, f.name = name ∧ f.kind = .list :=
    fun name hname => lists_of_payload ht name (List.mem_append_right _ hname)
  have hpayload := payload_of_forms hforms hdata
  refine ⟨a.textsOf formFlags, formParts (a.textsOf formFlags),
    fun _ => gathers_iff (fits_of_parse h) hlists, ?_, forall₂_formParts _, ?_⟩
  · obtain ⟨l, redirects, -, -, rfl⟩ := request_eq_ok.1 hr
    change a.body = _
    rw [body, hpayload]
  · rw [filter_notes hpayload hr, filter_formNotices]

theorem forms_sent_mixed : ∃ a r parts,
    parse .curl true ["-F", "a=1;b", "--form-string", "b=@x;type=y", "-F", "c", "--form-string=",
      "-Fd=@p q;filename=f=g;type=t/u", "http://h/"] = ⟨[], .ok a⟩ ∧
    a.request.result = .ok r ∧ r.body = .multipart parts ∧
    parts = [{ name := "a", value := some "1;b" }, { name := "b", value := some "@x;type=y" },
      { name := "d", file := some "p q", contentType := some "t/u", filename := some "f=g" }] ∧
    List.Forall₂ IsPartOf [("form", "a=1;b"), ("form-string", "b=@x;type=y"),
      ("form", "d=@p q;filename=f=g;type=t/u")] parts ∧
    a.request.notes.filter isMalformedPart =
      [.malformedPart "form" "c", .malformedPart "form-string" ""] := by
  let values : List (String × String) := [("form", "a=1;b"), ("form-string", "b=@x;type=y"),
    ("form", "c"), ("form-string", ""), ("form", "d=@p q;filename=f=g;type=t/u")]
  let a : Arguments := ⟨values.map fun given => ⟨given.1, true, .word given.2⟩, ["http://h/"]⟩
  let parts : List Part := [{ name := "a", value := some "1;b" },
    { name := "b", value := some "@x;type=y" },
    { name := "d", file := some "p q", contentType := some "t/u", filename := some "f=g" }]
  let r : Request := { method := .post, url := "http://h/", body := .multipart parts }
  have hread : parse .curl true ["-F", "a=1;b", "--form-string", "b=@x;type=y", "-F", "c",
      "--form-string=", "-Fd=@p q;filename=f=g;type=t/u", "http://h/"] = ⟨[], .ok a⟩ := by cbv
  have hr : a.request.result = .ok r := by decide
  have hforms : a.Gives formFlags := ⟨"form", by decide, by decide⟩
  have hdata : ¬ a.Gives dataFlags := by simp only [Gives]; decide
  obtain ⟨given, sent, hgathers, hbody, hparts, hnotes⟩ :=
    forms_sent (.inl rfl) hread hforms hdata hr
  obtain rfl : values = given := (hgathers values).1 ⟨by decide, by decide⟩
  obtain rfl : parts = sent := by cases hbody; rfl
  exact ⟨a, r, parts, hread, hr, rfl, rfl, hparts, hnotes⟩

end Arguments

end CurlScribe
