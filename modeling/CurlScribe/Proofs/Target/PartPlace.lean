import CurlScribe.Proofs.Target.Fields
import CurlScribe.Proofs.Target.PartLabel
import CurlScribe.Proofs.Target.PhpOptions

namespace CurlScribe

open Code (lit)

variable {r : Request} {p : Part} {value : Option String} {l : Part.Label} {parts more : List Part}

variable (hupload : r.uploadFile = none)
  (hparts : Replaced p (p.relabelled value l) parts more)

namespace RequestsScript

section

include hupload

theorem data_withParts (parts : List Part) : data (r.withParts parts) = .parts parts := by
  rw [data, Request.withParts, hupload]

theorem code_withParts : ∃ before after : List Code, ∀ parts, code (r.withParts parts) =
    Code.blocks (before ++ table "files" (parts.map fun p => (p.name, part p)) :: after)
      ++ "\n" := by
  have himports (parts : List Part) : imports (r.withParts parts) = imports (r.withParts []) := by
    rw [imports, imports, data_withParts hupload, data_withParts hupload]
    rfl
  have hcall (parts : List Part) : call (r.withParts parts) = call (r.withParts []) := by
    rw [call, call, arguments, arguments, data_withParts hupload, data_withParts hupload]
    rfl
  refine ⟨[imports (r.withParts [])]
      ++ Code.when (r.cookies ≠ []) (dict "cookies" (literals r.cookies))
      ++ Code.when (headers (r.withParts []) ≠ [])
        (dict "headers" (literals (headers (r.withParts [])))),
    (proxyUrl? r).toList.map proxies ++ [call (r.withParts [])], fun parts => ?_⟩
  rw [code, data_withParts hupload, himports, hcall, dataBlock]
  simp only [List.append_assoc, List.singleton_append]
  rfl

end

theorem dict_eq (name : String) (items : List (String × Code)) : dict name items =
    name ++ " = \x7b\n" ++ Code.joined "" (items.map fun e => item e.1 e.2 ++ "\n") ++ "\x7d" :=
  rfl

theorem pairs_eq (name : String) (items : List (String × Code)) : pairs name items =
    name ++ " = [\n" ++ Code.joined "" (items.map fun e => pairItem e.1 e.2 ++ "\n") ++ "]" :=
  rfl

theorem text_table_eq_iff {c d : Code} {key name : String} {items others : List (String × Code)}
    (h : Replaced (key, c) (key, d) items others) :
    (table name items).text Text.shown = (table name others).text Text.shown ↔
      c.text Text.shown = d.text Text.shown := by
  have hkeys : items.map (·.1) = others.map (·.1) := h.map_eq rfl
  unfold table
  rw [hkeys]
  split
  · rw [dict_eq, dict_eq, (Code.around_joined_map "" _ _ _ h).eq_iff]
    exact ((Code.around_append _ _).trans (Code.around_right _)).eq_iff
  · rw [pairs_eq, pairs_eq, (Code.around_joined_map "" _ _ _ h).eq_iff]
    exact ((Code.around_append _ _).trans (Code.around_right _)).eq_iff

include hupload hparts in
theorem text_code_eq_iff : (code (r.withParts parts)).text Text.shown =
      (code (r.withParts more)).text Text.shown ↔
    Target.python.written p l = Target.python.written (p.relabelled value l) l := by
  obtain ⟨before, after, hcode⟩ := code_withParts hupload
  have hitems := hparts.map fun p => (p.name, part p)
  rw [Part.name_relabelled] at hitems
  rw [hcode, hcode, (Code.around_right _).eq_iff]
  refine (Code.around_joined _ ⟨before, after, rfl, rfl⟩).eq_iff.trans ?_
  exact (text_table_eq_iff hitems).trans text_part_eq_iff

end RequestsScript

namespace FetchCall

section

include hupload

theorem content_withParts (parts : List Part) : content (r.withParts parts) = .form parts := by
  rw [content, Request.withParts, hupload]

include hparts

theorem code_withParts (platform : Platform) (ms : Option Int) : ∃ before after : List Code,
    code platform (r.withParts parts) ms = Code.blocks (before
      ++ Code.lines (("const form = new FormData();" : String) :: parts.map (appendPart platform))
        :: after) ++ "\n" ∧
    code platform (r.withParts more) ms = Code.blocks (before
      ++ Code.lines (("const form = new FormData();" : String) :: more.map (appendPart platform))
        :: after) ++ "\n" := by
  have hreads : readsFile (.form parts) = readsFile (.form more) :=
    hparts.any_eq (by rw [Part.source_relabelled])
  have huploads : parts.any (·.isUpload) = more.any (·.isUpload) :=
    hparts.any_eq (by rw [Part.isUpload_relabelled])
  have himports : imports platform (r.withParts parts) = imports platform (r.withParts more) := by
    cases platform with
    | browser => rfl
    | node =>
      rw [imports, imports, content_withParts hupload, content_withParts hupload, hreads,
        fetchImport, fetchImport, huploads]
      rfl
  have hcall : call platform (r.withParts parts) ms = call platform (r.withParts more) ms := by
    rw [call, call, options, options, content_withParts hupload, content_withParts hupload]
    rfl
  refine ⟨imports platform (r.withParts more), [call platform (r.withParts more) ms], ?_, ?_⟩
  · rw [code, himports, hcall, content_withParts hupload, preamble]
    simp only [List.append_assoc, List.singleton_append]
  · rw [code, content_withParts hupload, preamble]
    simp only [List.append_assoc, List.singleton_append]

theorem text_code_eq_iff (platform : Platform) (ms : Option Int) :
    (code platform (r.withParts parts) ms).text (Json.quoted true) =
        (code platform (r.withParts more) ms).text (Json.quoted true) ↔
      (partValue platform p).text (Json.quoted true) =
        (partValue platform (p.relabelled value l)).text (Json.quoted true) := by
  obtain ⟨before, after, hcode, hmore⟩ := code_withParts hupload hparts platform ms
  have happend := (hparts.map (appendPart platform)).cons [.code "const form = new FormData();"]
  rw [hcode, hmore, (Code.around_right _).eq_iff]
  refine (Code.around_joined _ ⟨before, after, rfl, rfl⟩).eq_iff.trans ?_
  refine (Code.around_joined _ happend).eq_iff.trans ?_
  rw [appendPart, appendPart, Part.name_relabelled, (Code.around_right _).eq_iff]
  exact (Code.around_call _ ⟨[lit p.name], [], rfl, rfl⟩).eq_iff

end

end FetchCall

namespace AxiosCall

open FetchCall (content content_withParts)

section

include hupload hparts

theorem text_code_eq_iff (ms : Option Int) (address : Option ProxyAddress) :
    (code (r.withParts parts) ms address).text (Json.quoted true) =
        (code (r.withParts more) ms address).text (Json.quoted true) ↔
      Target.nodeAxios.written p l = Target.nodeAxios.written (p.relabelled value l) l := by
  have hfiles : usesFiles (.form parts) = usesFiles (.form more) :=
    hparts.any_eq (by rw [Part.file_relabelled])
  have himports : imports (r.withParts parts) = imports (r.withParts more) := by
    rw [imports, imports, content_withParts hupload, content_withParts hupload, hfiles]
    rfl
  have hconfig : config (r.withParts parts) ms address = config (r.withParts more) ms address := by
    rw [config, config, data, data, content_withParts hupload, content_withParts hupload]
    rfl
  have happend := (hparts.map appendPart).cons [.code "const form = new FormData();"]
  rw [code, code, himports, hconfig, preamble, preamble, content_withParts hupload,
    content_withParts hupload, (Code.around_right _).eq_iff]
  refine (Code.around_joined _ ⟨[imports (r.withParts more)], _, rfl, rfl⟩).eq_iff.trans ?_
  refine (Code.around_joined _ happend).eq_iff.trans ?_
  rw [appendPart, appendPart, Part.name_relabelled, (Code.around_right _).eq_iff]
  exact (Code.around_call _ ⟨[lit p.name], [], rfl, rfl⟩).eq_iff.trans text_partValue_eq_iff

end

end AxiosCall

namespace RubyScript

section

include hupload

theorem bodyLines_withParts (parts : List Part) : bodyLines (r.withParts parts) =
    [[.code "req.set_form("], [.code "  ["]] ++ parts.map (fun p => "    " ++ part p ++ ",")
      ++ [[.code "  ],"], [.code "  'multipart/form-data'"], [.code ")"]] := by
  rw [bodyLines, Request.withParts, hupload]
  simp [Code.line]

theorem code_withParts (address : Option ProxyAddress) : ∃ before after : List Code, ∀ parts,
    code (r.withParts parts) address = Code.lines (requireLines r) ++ "\n\n" ++
      Code.lines (before ++ bodyLines (r.withParts parts) ++ after) ++ "\n" := by
  refine ⟨Code.line ("uri = " ++ Code.call "URI" [lit r.url])
      ++ Code.line (requestLine (r.withParts [])) ++ (headers (r.withParts [])).map headerLine
      ++ authLines r ++ [[]],
    Code.line [] ++ Code.line "req_options = \x7b" ++ optionLines r ++ Code.line "\x7d"
      ++ Code.line (startLine r address) ++ Code.line "  http.request(req)" ++ Code.line "end",
    fun parts => ?_⟩
  have hrequest : requestLine (r.withParts parts) = requestLine (r.withParts []) := rfl
  have hwhen : Code.when (bodyLines (r.withParts parts) ≠ []) [] = [[]] := by
    rw [bodyLines_withParts hupload]
    rfl
  rw [code, hrequest, hwhen]
  simp only [List.append_assoc]
  rfl

include hparts

theorem text_code_eq_iff (address : Option ProxyAddress) :
    (code (r.withParts parts) address).text apostrophed =
        (code (r.withParts more) address).text apostrophed ↔
      Target.ruby.written p l = Target.ruby.written (p.relabelled value l) l := by
  obtain ⟨before, after, hcode⟩ := code_withParts hupload address
  have hlines := ((hparts.map fun p => "    " ++ part p ++ ",").append_left
    [[.code "req.set_form("], [.code "  ["]]).append_right
      [[.code "  ],"], [.code "  'multipart/form-data'"], [.code ")"]]
  rw [← bodyLines_withParts hupload, ← bodyLines_withParts hupload] at hlines
  have hall := (hlines.append_left before).append_right after
  rw [hcode, hcode, (Code.around_right _).eq_iff, (Code.around_left _).eq_iff]
  refine (Code.around_joined _ hall).eq_iff.trans ?_
  exact (Code.around_append _ _).eq_iff.trans text_part_eq_iff

end

end RubyScript

namespace GoProgram

section

include hupload

theorem content_withParts (parts : List Part) : content (r.withParts parts) = .form parts := by
  rw [content, Request.withParts, hupload]

theorem contentLines_withParts (parts : List Part) : contentLines (content (r.withParts parts)) =
    [[.code "\tform := new(bytes.Buffer)"], [.code "\twriter := multipart.NewWriter(form)"]]
      ++ parts.zipIdx.flatMap (fun (p, n) => partLines p n) ++ [[.code "\twriter.Close()"]] := by
  rw [content_withParts hupload]
  rfl

theorem code_withParts (ms : Option Int) : ∃ before after : List Code, ∀ parts,
    code (r.withParts parts) ms = "package main\n\nimport (\n"
      ++ Code.lines ((imports (r.withParts parts)).map importLine) ++ "\n)\n\nfunc main() \x7b\n"
      ++ Code.lines (before ++ contentLines (content (r.withParts parts)) ++ after)
      ++ "\n\x7d\n" := by
  refine ⟨clientLines r ms, requestLines (r.withParts []) ++ responseLines, fun parts => ?_⟩
  have hrequest : requestLines (r.withParts parts) = requestLines (r.withParts []) := by
    rw [requestLines, requestLines, content_withParts hupload, content_withParts hupload]
    rfl
  rw [code, hrequest]
  simp only [List.append_assoc]
  rfl

include hparts

theorem imports_withParts : imports (r.withParts parts) = imports (r.withParts more) := by
  have hfiles : usesFiles (.form parts) = usesFiles (.form more) :=
    hparts.any_eq (by rw [Part.source_relabelled])
  rw [imports, imports, content_withParts hupload, content_withParts hupload, hfiles]
  rfl

theorem text_code_eq_iff (ms : Option Int) :
    (code (r.withParts parts) ms).text (Json.quoted false) =
        (code (r.withParts more) ms).text (Json.quoted false) ↔
      Target.go.written p l = Target.go.written (p.relabelled value l) l := by
  obtain ⟨before, after, hcode⟩ := code_withParts hupload ms
  rw [hcode, hcode, imports_withParts hupload hparts, (Code.around_right _).eq_iff,
    (Code.around_left _).eq_iff, contentLines_withParts hupload, contentLines_withParts hupload]
  obtain ⟨start, rest, rfl, rfl⟩ := hparts
  have hplace := @Code.around_joined_append (Json.quoted false) _ _ "\n"
    (partLines_ne_nil p start.length) (partLines_ne_nil (p.relabelled value l) start.length)
    (before ++ [[.code "\tform := new(bytes.Buffer)"],
        [.code "\twriter := multipart.NewWriter(form)"]]
      ++ start.zipIdx.flatMap fun (p, n) => partLines p n)
    ((rest.zipIdx (start.length + 1)).flatMap (fun (p, n) => partLines p n)
      ++ [[.code "\twriter.Close()"]] ++ after)
  simpa [List.zipIdx_append, List.flatMap_append, Code.lines] using
    hplace.eq_iff.trans (text_partLines_eq_iff start.length)

end

end GoProgram

namespace PhpScript

section

include hupload

theorem options_withParts (ms connectMs : Option Int) : ∃ before after, ∀ parts,
    options (r.withParts parts) ms connectMs =
      before ++ option "POSTFIELDS" (multipart parts) :: after := by
  refine ⟨[option "URL" (lit r.url)] ++ methodOptions r ++ [option "RETURNTRANSFER" "true"]
    ++ headerOptions r ++ cookieOptions r ++ authOptions r, transferOptions r ms connectMs,
    fun parts => ?_⟩
  have hbody : bodyOptions (r.withParts parts) = [option "POSTFIELDS" (multipart parts)] := by
    rw [bodyOptions, Request.withParts, hupload]
  rw [options, hbody]
  exact List.append_assoc ..

theorem text_script_eq_iff (ms connectMs : Option Int) :
    (script (options (r.withParts parts) ms connectMs)).text apostrophed =
        (script (options (r.withParts more) ms connectMs)).text apostrophed ↔
      (multipart parts).text apostrophed = (multipart more).text apostrophed := by
  obtain ⟨before, after, hoptions⟩ := options_withParts hupload ms connectMs
  have hplace : Replaced (option "POSTFIELDS" (multipart parts))
      (option "POSTFIELDS" (multipart more)) (options (r.withParts parts) ms connectMs)
      (options (r.withParts more) ms connectMs) := ⟨before, after, hoptions parts, hoptions more⟩
  have hvalue : Replaced (multipart parts) (multipart more)
      ["$ch", "CURLOPT_POSTFIELDS", multipart parts]
      ["$ch", "CURLOPT_POSTFIELDS", multipart more] := ⟨[_, _], [], rfl, rfl⟩
  refine (Code.around_joined_map "" setLine _ _ hplace).eq_iff.trans ?_
  exact ((Code.around_call _ hvalue).trans (Code.around_right _)).eq_iff

end

theorem text_array_eq_iff {c d : Code} {items others : List Code} (h : Replaced c d items others) :
    (array items).text apostrophed = (array others).text apostrophed ↔
      c.text apostrophed = d.text apostrophed := by
  refine ((Code.around_joined_map "" (fun item => "    " ++ item ++ ",\n") _ _
    h).eq_iff).trans ?_
  exact (Code.around_append _ _).eq_iff

def partEntry (p : Part) : String × Code := (p.name, partValue p)

def entryLine (entry : String × Code) : Code := lit entry.1 ++ " => " ++ entry.2

theorem text_multipart_eq_iff (before after : List Part) :
    (multipart (before ++ p :: after)).text apostrophed =
        (multipart (before ++ p.relabelled value l :: after)).text apostrophed ↔
      Target.php.written p l = Target.php.written (p.relabelled value l) l ∨
        p.name ∈ after.map (·.name) := by
  have hname : (partEntry p).1 = (partEntry (p.relabelled value l)).1 := by simp [partEntry]
  have harray (parts : List Part) : multipart parts =
      array ((Fields.ofItems (parts.map partEntry)).map entryLine) := rfl
  rw [harray, harray]
  by_cases hmem : p.name ∈ after.map (·.name)
  · rw [Fields.ofItems_map_of_mem hname hmem]
    simp [hmem]
  · have hentries := Fields.replaced_ofItems_map before hname hmem
    rw [text_array_eq_iff (hentries.map entryLine), entryLine, entryLine, ← hname,
      (Code.around_left _).eq_iff]
    refine text_partValue_eq_iff.trans ?_
    simp [hmem]

end PhpScript

end CurlScribe
