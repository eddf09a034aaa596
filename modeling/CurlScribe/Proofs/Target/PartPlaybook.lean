import CurlScribe.Proofs.Target.Fields
import CurlScribe.Proofs.Target.PartLabel
import CurlScribe.Proofs.Yaml.Block

namespace CurlScribe

variable {r : Request} {p : Part} {value : Option String} {l : Part.Label} {parts more : List Part}

variable (hupload : r.uploadFile = none)

namespace AnsiblePlaybook

open Yaml

section

include hupload

theorem settings_withParts : ∃ before after, ∀ parts,
    settings (r.withParts parts) = before ++ ("body", multipart parts) :: after := by
  have hcontent (parts : List Part) : content (r.withParts parts) =
      [("body_format", Yaml.text "form-multipart"), ("body", multipart parts)] := by
    rw [content, Request.withParts, hupload]
    rfl
  refine ⟨[("url", .text r.url), ("method", .text r.method.name),
      ("body_format", .text "form-multipart")],
    field (headers (r.withParts []) ≠ []) "headers" (texts (headers (r.withParts [])))
      ++ auth r ++ field r.tls.insecure "validate_certs" (.bool false)
      ++ text? "client_cert" r.tls.cert ++ text? "client_key" r.tls.key
      ++ text? "ca_path" r.tls.cacert
      ++ field r.followRedirects "follow_redirects" (.text "all")
      ++ (r.timeout.map fun t => ("timeout", Yaml.int (seconds t))).toList
      ++ field r.compressed "decompress" (.bool true) ++ [("return_content", .bool true)],
    fun parts => ?_⟩
  rw [settings, hcontent]
  simp only [List.append_assoc, List.cons_append, List.nil_append]
  rfl

theorem around_multipart (host : Option String) (parts more : List Part) :
    Around (Yaml.value 4 (columnAfter 4 "body") true (multipart parts))
      (Yaml.value 4 (columnAfter 4 "body") true (multipart more))
      (listDocument [task (r.withParts parts) host])
      (listDocument [task (r.withParts more) host]) := by
  obtain ⟨before, after, hsettings⟩ := settings_withParts hupload
  have hbody : Replaced ("body", multipart parts) ("body", multipart more)
      (settings (r.withParts parts)) (settings (r.withParts more)) :=
    ⟨before, after, hsettings parts, hsettings more⟩
  have huri : Replaced ("uri", Yaml.mapping (settings (r.withParts parts)))
      ("uri", Yaml.mapping (settings (r.withParts more)))
      [("name", .ofOption host), ("uri", .mapping (settings (r.withParts parts))),
        ("register", .text "result")]
      [("name", .ofOption host), ("uri", .mapping (settings (r.withParts more))),
        ("register", .text "result")] := ⟨[_], [_], rfl, rfl⟩
  exact ((around_mapping hbody).trans (around_mapping huri)).trans (around_listDocument _ _)

end

variable {indent column : Nat} {afterKey : Bool}

def typedUpload (path : String) (type : Option String) : Yaml :=
  .mapping (("filename", .text path) :: (type.map fun t => ("mime_type", Yaml.text t)).toList)

def typedText (text : Option String) : Option String → Yaml
  | none => .ofOption text
  | some type => .mapping [("content", .ofOption text), ("mime_type", .text type)]

theorem partValue_of_upload {path : String} (h : p.source = .upload path) :
    partValue p = typedUpload path (filled? p.contentType) := by
  rw [partValue, h]
  cases filled? p.contentType <;> rfl

theorem partValue_of_text {text : Option String} (h : p.source = .text text) :
    partValue p = typedText text (filled? p.contentType) := by
  rw [partValue, h]
  cases filled? p.contentType <;> rfl

theorem value_typedUpload_eq_iff (hindent : indent + 4 < width) (path : String)
    (x y : Option String) : Yaml.value indent column afterKey (typedUpload path x) =
      Yaml.value indent column afterKey (typedUpload path y) ↔ x = y := by
  have hsep : "\n" ++ Text.spaces (indent + 2) ≠ "" := by simp
  have hinner : indent + 2 + 2 < width := hindent
  have hentry := entryText_text_injective hinner "mime_type"
  have hvalue (type : Option String) : Yaml.value indent column afterKey (typedUpload path type) =
      (if afterKey then "\n" ++ Text.spaces (indent + 2) else " ") ++ lines (indent + 2)
        ([entryText (indent + 2) ("filename", .text path)]
          ++ (type.map fun t => entryText (indent + 2) ("mime_type", .text t)).toList ++ []) := by
    rw [typedUpload, value_mapping (List.cons_ne_nil _ _)]
    cases type <;> rfl
  rw [hvalue, hvalue, String.append_right_inj]
  exact Text.joined_option hentry hsep (List.cons_ne_nil _ _) x y

theorem exists_value_ofOption (text : Option String) (indent column : Nat) (afterKey : Bool) :
    ∃ rest, Yaml.value indent column afterKey (.ofOption text) = " " ++ rest ∧
      ∀ tail, rest ≠ "content: " ++ tail := by
  have hlead : ∃ c rest, "content".toList = c :: rest ∧ c ≠ '\'' ∧ c ≠ '"' :=
    ⟨'c', _, rfl, by decide, by decide⟩
  cases text with
  | none =>
    refine ⟨"null", rfl, fun tail h => ?_⟩
    have hhead := congrArg (·.toList.head?) h
    simp at hhead
  | some text => exact ⟨_, rfl, scalar_ne_append (by decide) hlead⟩

theorem value_typedText_ne (text : Option String) (type : String) :
    Yaml.value indent column afterKey (typedText text none) ≠
      Yaml.value indent column afterKey (typedText text (some type)) := by
  intro h
  obtain ⟨rest, hrest, hne⟩ := exists_value_ofOption text indent column afterKey
  rw [typedText, typedText, value_mapping (List.cons_ne_nil _ _), hrest] at h
  cases afterKey with
  | true =>
    have hhead := congrArg (·.toList.head?) h
    simp at hhead
  | false =>
    have hkey : isSimpleKey "content" = true := by decide
    have hsimple : simpleKey "content" = "content" := by decide
    have hcolon : "content: " = "content" ++ ":" ++ " " := rfl
    obtain ⟨inner, hinner, -⟩ := exists_value_ofOption text (indent + 2)
      (columnAfter (indent + 2) "content") true
    refine hne (inner ++ ("\n" ++ Text.spaces (indent + 2))
      ++ entryText (indent + 2) ("mime_type", .text type)) ?_
    have hrest := (String.append_right_inj _).1 h
    rw [hrest, lines, List.map_cons, List.map_singleton,
      Text.joined_cons _ _ (List.cons_ne_nil _ _), entryText, hkey, hsimple, hinner, hcolon]
    simp only [if_true, Text.joined, String.append_assoc]

theorem value_typedText_eq_iff (hindent : indent + 4 < width) (text : Option String)
    (x y : Option String) : Yaml.value indent column afterKey (typedText text x) =
      Yaml.value indent column afterKey (typedText text y) ↔ x = y := by
  cases x with
  | none =>
    cases y with
    | none => simp
    | some type => simp [value_typedText_ne text type]
  | some type =>
    cases y with
    | none => simp [(value_typedText_ne text type).symm]
    | some other =>
      have htype : Replaced ("mime_type", Yaml.text type) ("mime_type", Yaml.text other)
          [("content", .ofOption text), ("mime_type", .text type)]
          [("content", .ofOption text), ("mime_type", .text other)] := ⟨[_], [], rfl, rfl⟩
      rw [typedText, typedText, (around_mapping htype).eq_iff, value_text_inj hindent,
        Option.some.injEq]

theorem value_partValue_eq_iff (hindent : indent + 4 < width) :
    Yaml.value indent column afterKey (partValue p) =
        Yaml.value indent column afterKey (partValue (p.relabelled value l)) ↔
      Target.ansible.written p l = Target.ansible.written (p.relabelled value l) l := by
  have hsame := p.source_relabelled value l
  cases l with
  | filename =>
    have hvalue : partValue (p.relabelled value .filename) = partValue p := rfl
    have hname (q : Part) : Target.ansible.written q .filename = none := by
      cases hsource : q.source <;> simp [Target.written, Target.writtenName, hsource]
    simp [hvalue, hname]
  | contentType =>
    cases hsource : p.source with
    | contents path => simp [partValue, Target.written, Target.writesType, hsource]
    | upload path =>
      rw [partValue_of_upload hsource, partValue_of_upload (hsame.trans hsource),
        value_typedUpload_eq_iff hindent]
      simp [Target.written, Target.writesType, hsource]
    | text text =>
      rw [partValue_of_text hsource, partValue_of_text (hsame.trans hsource),
        value_typedText_eq_iff hindent]
      simp [Target.written, Target.writesType, hsource]

def partEntry (p : Part) : String × Yaml := (p.name, partValue p)

theorem value_multipart_eq_iff (hindent : indent + 6 < width) (before after : List Part) :
    Yaml.value indent column afterKey (multipart (before ++ p :: after)) =
        Yaml.value indent column afterKey
          (multipart (before ++ p.relabelled value l :: after)) ↔
      Target.ansible.written p l = Target.ansible.written (p.relabelled value l) l ∨
        p.name ∈ after.map (·.name) := by
  have hname : (partEntry p).1 = (partEntry (p.relabelled value l)).1 := by simp [partEntry]
  have hmapping (parts : List Part) :
      multipart parts = .mapping (Fields.ofItems (parts.map partEntry)) := rfl
  rw [hmapping, hmapping]
  by_cases hmem : p.name ∈ after.map (·.name)
  · rw [Fields.ofItems_map_of_mem hname hmem]
    simp [hmem]
  · have hentries := Fields.replaced_ofItems_map before hname hmem
    rw [partEntry, partEntry, Part.name_relabelled] at hentries
    rw [(around_mapping hentries).eq_iff, value_partValue_eq_iff hindent]
    simp [hmem]

end AnsiblePlaybook

end CurlScribe
