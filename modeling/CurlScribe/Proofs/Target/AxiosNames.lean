import CurlScribe.Proofs.Target.JavaScriptNames

namespace CurlScribe.AxiosCall

open Code (lit IsPhrase)
open FetchCall (Content content)
open ObjectLiteral (Mentions Phrases Values object field)

variable {r : Request} {ms : Option Int} {address : Option ProxyAddress} {p : Part}

section Mentions

theorem mentions_readStream (path : String) : Mentions (readStream path) ["fs".toList] := ⟨rfl, rfl⟩

def partNames (p : Part) : List (List Char) := if p.file.isSome then ["fs".toList] else []

theorem mentions_partValue (p : Part) : Mentions (partValue p) (partNames p) := by
  unfold partValue partNames
  cases p.file with
  | none =>
    cases p.value <;> exact ⟨rfl, rfl⟩
  | some path =>
    have hstream := mentions_readStream path
    have hoptions : Values (uploadOptions p) [] :=
      (Values.option ObjectLiteral.mentions_lit "filename" _).append
        (Values.option ObjectLiteral.mentions_lit "contentType" _)
    have hobject := ObjectLiteral.mentions_object 1 hoptions
    have hcomma : Mentions (", " : Code) [] := ⟨rfl, rfl⟩
    rw [Option.isSome_some, if_pos rfl]
    by_cases hfile : p.fromFile = true
    · have hread : Mentions ("fs.readFileSync(" ++ lit path ++ ", 'utf8')") ["fs".toList] :=
        ⟨rfl, rfl⟩
      simpa [hfile] using hread
    · by_cases hnone : uploadOptions p = []
      · simpa [hfile, hnone, Code.when, Code.joined] using hstream
      · have hall := hstream.append (.inr ⟨_, _, _, rfl, rfl, by decide⟩)
          (hcomma.append (.inl rfl) hobject)
        simpa [hfile, hnone, Code.when, Code.joined] using hall

theorem mentions_data (r : Request) : Values (data r) (FetchCall.contentNames (content r)) := by
  have hform : Mentions "form" [] := ⟨rfl, rfl⟩
  unfold data
  cases hupload : r.uploadFile with
  | some path =>
    have hcontent : content r = .file path := by rw [content, hupload]
    rw [hcontent]
    exact .singleton (mentions_readStream path) _
  | none =>
    cases content r with
    | none => exact .nil
    | file path => exact .singleton (ObjectLiteral.mentions_readFile path) _
    | text text => exact .singleton (ObjectLiteral.mentions_lit text) _
    | form parts => exact .singleton hform _

theorem mentions_login (level : Nat) (user password : String) :
    Mentions (login level user password) [] := ObjectLiteral.mentions_object level (.literals _)

theorem mentions_auth (r : Request) : Values (auth r) [] := by
  unfold auth
  cases r.auth with
  | basic user password => exact .singleton (mentions_login 2 user password) _
  | none | digest | bearer => exact .nil

theorem mentions_proxy (r : Request) (p : ProxyAddress) : Mentions (proxy r p) [] := by
  have hplace : Values [("protocol", lit p.scheme), ("host", lit p.host)] [] :=
    .literals [("protocol", p.scheme), ("host", p.host)]
  have hport : Values [("port", (toString (p.port.getD (defaultPort p.scheme)) : String))] [] :=
    .singleton (ObjectLiteral.mentions_numeral Code.isNumeralChar_nat) "port"
  have hauth := Values.option (fun user : String × String => mentions_login 3 user.1 user.2) "auth"
    r.proxyAuth
  exact ObjectLiteral.mentions_object 2 ((hplace.append hport).append hauth)

theorem mentions_config (r : Request) (ms : Option Int) (address : Option ProxyAddress) :
    Values (config r ms address) (FetchCall.contentNames (content r)
      ++ if r.tls.insecure then ["https".toList] else []) := by
  have hfirst : Values [("method", lit (Text.lower r.method.name)), ("url", lit r.url)] [] :=
    .literals [("method", Text.lower r.method.name), ("url", r.url)]
  have hheaders := Values.field (headers r ≠ []) (ObjectLiteral.mentions_object 2 (Values.literals
    (r.mergedHeaders ++ r.typeHeader ++ r.cookieHeaders ++ r.bearerHeader))) "headers"
  have hnumber (n : Int) : Mentions (toString n : String) [] :=
    ObjectLiteral.mentions_numeral Code.isNumeralChar_int
  have hredirects : Values (if r.followRedirects then
      (r.maxRedirects.map fun n => ("maxRedirects", (toString n : Code))).toList else []) [] := by
    split
    · exact .option hnumber _ _
    · exact .nil
  have hall := (((((((hfirst.append hheaders).append (mentions_data r)).append
    (mentions_auth r)).append (.option hnumber "timeout" ms)).append hredirects).append
    (.field r.tls.insecure ObjectLiteral.mentions_trustingAgent "httpsAgent")).append
    (.option (mentions_proxy r) "proxy" address))
  simp only [ite_self, List.nil_append, List.append_nil] at hall
  exact hall

theorem phrases_preamble (r : Request) :
    Phrases (preamble r) (FetchCall.preambleNames partNames (content r)) := by
  unfold preamble
  cases content r with
  | none | file | text => exact .nil
  | form parts =>
    exact .singleton (ObjectLiteral.mentions_form
      (fun p => ObjectLiteral.mentions_append (mentions_partValue p) p.name) parts)

theorem mentions_response (r : Request) (ms : Option Int) (address : Option ProxyAddress) :
    Mentions ("const response = await " ++ Code.call "axios" [object 1 (config r ms address)] ++ ";")
      (FetchCall.contentNames (content r) ++ if r.tls.insecure then ["https".toList] else []) := by
  have hstart : Mentions [.code "const response = await ", .code "axios", .code "("] [] :=
    ⟨rfl, rfl⟩
  have hend : Mentions [.code ")", .code ";"] [] := ⟨rfl, rfl⟩
  have hall := (hstart.append (.inl rfl)
    (ObjectLiteral.mentions_object 1 (mentions_config r ms address))).append
      (.inr ⟨_, _, _, rfl, rfl, by decide⟩) hend
  simpa [Code.call, Code.joined] using hall

end Mentions

section Imports

def importLines (r : Request) : List Code :=
  Code.when true "import axios from 'axios';"
    ++ Code.when (content r matches .form _) "import FormData from 'form-data';"
    ++ Code.when (usesFiles (content r)) "import fs from 'fs';"
    ++ Code.when r.tls.insecure "import https from 'https';"

def importedNames (r : Request) : List (List Char) :=
  ["axios".toList] ++ (if content r matches .form _ then ["FormData".toList] else [])
    ++ (if usesFiles (content r) then ["fs".toList] else [])
    ++ (if r.tls.insecure then ["https".toList] else [])

theorem imports_importLines (r : Request) :
    Script.Imports (Json.quoted true) (importLines r) (importedNames r) := by
  have haxios : Script.Imports (Json.quoted true) ["import axios from 'axios';"]
      ["axios".toList] := by decide +kernel
  have hform : Script.Imports (Json.quoted true) ["import FormData from 'form-data';"]
      ["FormData".toList] := by decide +kernel
  have hfs : Script.Imports (Json.quoted true) ["import fs from 'fs';"] ["fs".toList] := by
    decide +kernel
  have hhttps : Script.Imports (Json.quoted true) ["import https from 'https';"]
      ["https".toList] := by decide +kernel
  exact (((haxios.of_wanted true).append (hform.of_wanted _)).append (hfs.of_wanted _)).append
    (hhttps.of_wanted _)

theorem mem_partNames {parts : List Part} {x : List Char} : x ∈ parts.flatMap partNames ↔
    usesFiles (.form parts) = true ∧ x = "fs".toList := by
  simp only [List.mem_flatMap, partNames, List.mem_ite_nil_right, List.mem_singleton, usesFiles,
    List.any_eq_true]
  constructor
  · rintro ⟨p, hp, hfile, hx⟩
    exact ⟨⟨p, hp, hfile⟩, hx⟩
  · rintro ⟨⟨p, hp, hfile⟩, hx⟩
    exact ⟨p, hp, hfile, hx⟩

theorem mem_importedNames_iff (r : Request) {x : List Char} (hx : x ∈ nodeNames) :
    x ∈ importedNames r ↔ x ∈ FetchCall.preambleNames partNames (content r) ++
      (FetchCall.contentNames (content r) ++ if r.tls.insecure then ["https".toList] else []) := by
  have hne : x ≠ "axios".toList := by
    rintro rfl
    revert hx
    decide
  have hplain (names : List (List Char)) : x ∈ ["axios".toList] ++ names ↔ x ∈ names := by
    rw [List.singleton_append, List.mem_cons, or_iff_right hne]
  unfold importedNames
  simp only [List.append_assoc]
  rw [hplain]
  cases content r with
  | none | text => exact Iff.rfl
  | file path => exact Iff.rfl
  | form parts =>
    simp only [FetchCall.preambleNames, FetchCall.contentNames, List.mem_append, List.mem_cons,
      List.mem_ite_nil_right, List.not_mem_nil, or_false, false_or, true_and, mem_partNames,
      or_assoc]

theorem import_not_mem_partNames (p : Part) : "import".toList ∉ partNames p := by
  unfold partNames
  split <;> decide

theorem importsUsed (r : Request) (ms : Option Int) (address : Option ProxyAddress) :
    Script.ImportsUsed false nodeNames ((code r ms address).text (Json.quoted true)) :=
  Script.importsUsed_blocks (by decide) (delimits_quoted true) (imports_importLines r)
    (List.cons_ne_nil _ _)
    ((phrases_preamble r).append (.singleton (mentions_response r ms address)))
    (List.append_ne_nil_of_right_ne_nil _ (List.cons_ne_nil _ _))
    (FetchCall.import_not_mem import_not_mem_partNames r) fun _ => mem_importedNames_iff r

end Imports

end CurlScribe.AxiosCall
