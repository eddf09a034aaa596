import CurlScribe.Proofs.Target.ContentType
import CurlScribe.Proofs.Target.ScriptNames

namespace CurlScribe

open Token
open Code (lit IsPhrase IsClosed Separates found)

abbrev nodeNames : List (List Char) :=
  ["fs".toList, "https".toList, "FormData".toList, "fileFromSync".toList]

namespace ObjectLiteral

variable {level : Nat} {name : String} {value : Code} {fields : List (String × Code)}

abbrev mentioned (c : Code) : List (List Char) :=
  c.found (Script.mentions false nodeNames) (Json.quoted true)

abbrev Mentions := Script.Mentions false nodeNames (Json.quoted true)

abbrev Phrases := Script.Phrases false nodeNames (Json.quoted true)

section Keys

theorem isWordChar_of_isWord {c : Char} (h : Text.isWord c = true) : isWordChar c = true := by
  by_cases hascii : c.toNat < 128
  · have hall : ∀ n : Fin 128, Text.isWord (.ofNat n) = true → isWordChar (.ofNat n) = true := by
      decide +kernel
    have hc := hall ⟨c.toNat, hascii⟩
    rw [Char.ofNat_toNat] at hc
    exact hc h
  · have hwide : 0x80 ≤ c.toNat := by omega
    simp [isWordChar, hwide]

theorem isWordText_of_isIdentifier (h : isIdentifier name = true) :
    Code.IsWordText name.toList ∧ name.toList ≠ [] := by
  unfold isIdentifier at h
  split at h
  · cases h
  · rename_i c rest hname
    rw [hname]
    rw [Bool.and_eq_true, List.all_eq_true] at h
    obtain ⟨hfirst, hrest⟩ := h
    refine ⟨List.forall_mem_cons.2 ⟨?_, fun d hd => ?_⟩, List.cons_ne_nil _ _⟩
    · simp only [startsIdentifier, Bool.or_eq_true, decide_eq_true_eq] at hfirst
      rcases hfirst with (hletter | rfl) | rfl
      · simp [isWordChar, Char.isAlphanum, hletter]
      · rfl
      · rfl
    · have hd := hrest d hd
      simp only [Bool.or_eq_true, decide_eq_true_eq] at hd
      rcases hd with hword | rfl
      · exact isWordChar_of_isWord hword
      · rfl

theorem read_indent (level : Nat) (rest : Code) :
    Token.read (Json.quoted true) .between (.code (indent level) :: rest) =
      Token.read (Json.quoted true) .between rest := by
  have hspaces (n : Nat) : scan .between (List.replicate n ' ') = ([], .between) := by
    induction n with
    | zero => rfl
    | succ n ih =>
      rw [List.replicate_succ, scan]
      exact ih
  rw [Token.read, readFragment, indent, Text.spaces, String.toList_ofList, hspaces]
  rfl

theorem mentions_key (level : Nat) (name : String) :
    IsClosed (Json.quoted true) (indent level ++ key name ++ ": ") ∧
      Mentions (indent level ++ key name ++ ": ") [] := by
  have hread : ∃ t, Token.read (Json.quoted true) .between (indent level ++ key name ++ ": ") =
      ([t, .mark ':'], .between) ∧ Script.mentions false nodeNames t = [] := by
    have hindent := read_indent level (key name ++ (": " : Code))
    unfold key at hindent ⊢
    split_ifs at hindent ⊢ with hname
    · obtain ⟨hword, hne⟩ := isWordText_of_isIdentifier hname
      have hcolon (w : List Char) : Token.read (Json.quoted true) (.word w) (": " : Code) =
        ([.label w.reverse, .mark ':'], .between) := rfl
      exact ⟨_, hindent.trans ((Code.read_word hword hne _).trans (hcolon _)), rfl⟩
    · exact ⟨_, hindent, rfl⟩
  obtain ⟨t, hread, ht⟩ := hread
  have hclosed : IsClosed (Json.quoted true) (indent level ++ key name ++ ": ") :=
    congrArg Prod.snd hread
  refine ⟨hclosed, hclosed.isPhrase, ?_⟩
  rw [found, Code.tokens, hread]
  change List.flatMap _ [t, .mark ':'] = []
  rw [List.flatMap_cons, ht]
  rfl

end Keys

theorem mentions_entry (h : IsPhrase (Json.quoted true) value) :
    Mentions (entry level (name, value)) (mentioned value) := by
  obtain ⟨hclosed, hkey⟩ := mentions_key level name
  exact hkey.append (.inl hclosed) ⟨h, rfl⟩

structure Values (fields : List (String × Code)) (names : List (List Char)) : Prop where
  isPhrase : ∀ field ∈ fields, IsPhrase (Json.quoted true) field.2
  mentioned : (fields.flatMap fun field => mentioned field.2) = names

namespace Values

variable {more : List (String × Code)} {names others : List (List Char)}

theorem nil : Values [] [] := ⟨List.forall_mem_nil _, rfl⟩

theorem singleton (h : Mentions value names) (name : String) : Values [(name, value)] names :=
  ⟨List.forall_mem_singleton.2 h.isPhrase, (List.append_nil _).trans h.mentioned⟩

theorem append (h : Values fields names) (hmore : Values more others) :
    Values (fields ++ more) (names ++ others) :=
  ⟨List.forall_mem_append.2 ⟨h.isPhrase, hmore.isPhrase⟩, by
    rw [List.flatMap_append, h.mentioned, hmore.mentioned]⟩

theorem field (wanted : Bool) (h : Mentions value names) (name : String) :
    Values (field wanted name value) (if wanted then names else []) := by
  cases wanted with
  | false => exact nil
  | true => exact singleton h name

theorem option {α : Type} {f : α → Code} (h : ∀ a, Mentions (f a) []) (name : String)
    (o : Option α) : Values (o.map fun a => (name, f a)).toList [] := by
  cases o with
  | none => exact nil
  | some a => exact singleton (h a) name

theorem literals (fields : List (String × String)) : Values (literals fields) [] := by
  refine ⟨?_, ?_⟩
  · rw [ObjectLiteral.literals, List.forall_mem_map]
    exact fun _ _ => rfl
  · rw [ObjectLiteral.literals, List.flatMap_map]
    exact List.flatMap_eq_nil_iff.2 fun _ _ => rfl

end Values

theorem mentions_object (level : Nat) {names : List (List Char)} (h : Values fields names) :
    Mentions (object level fields) names := by
  have hsep : Code.IsSeparator (Script.mentions false nodeNames) (Json.quoted true) (",\n" : Code) :=
    ⟨⟨_, _, _, rfl, rfl, by decide⟩, rfl, rfl⟩
  have hentry : ∀ field ∈ fields, Mentions (entry level field) (mentioned field.2) :=
    fun field hfield => mentions_entry (h.isPhrase field hfield)
  unfold object
  split
  · rename_i hfields
    rw [← h.mentioned, hfields]
    exact ⟨rfl, rfl⟩
  · obtain ⟨hphrase, hfound⟩ := Code.isPhrase_joined hsep
      (List.forall_mem_map.2 fun field hfield => (hentry field hfield).isPhrase)
    have hstart : Mentions ("\x7b\n" : Code) [] := ⟨rfl, rfl⟩
    have hbreak : Mentions ("\n" : Code) [] := ⟨rfl, rfl⟩
    have hend : Mentions ("\x7d" : Code) [] := ⟨rfl, rfl⟩
    have hread := read_indent (level - 1) []
    have hclosed : IsClosed (Json.quoted true) (indent (level - 1) : Code) :=
      congrArg Prod.snd hread
    have hindent : Mentions (indent (level - 1) : Code) [] := by
      refine ⟨hclosed.isPhrase, ?_⟩
      rw [found, Code.tokens, hread]
      rfl
    have hfields : (fields.map (entry level)).flatMap mentioned = names := by
      rw [List.flatMap_map, ← h.mentioned]
      exact List.flatMap_congr fun field hfield => (hentry field hfield).mentioned
    have hbroken : Separates ("\n" : Code) := ⟨_, _, _, rfl, rfl, by decide⟩
    have hbefore := hstart.append (.inl rfl) ⟨hphrase, hfound.trans hfields⟩
    have hline := Code.isClosed_append (.inr ⟨hbefore.isPhrase, hbroken⟩)
      (rfl : IsClosed (Json.quoted true) ("\n" : Code))
    have hall := (((hbefore.append (.inr hbroken) hbreak).append (.inl hline) hindent).append
      (.inl (Code.isClosed_append (.inl hline) hclosed)) hend)
    simpa only [List.nil_append, List.append_nil] using hall

end ObjectLiteral

namespace ObjectLiteral

theorem mentions_readFile (path : String) : Mentions (readFile path) ["fs".toList] := by
  unfold readFile source
  split <;> exact ⟨rfl, rfl⟩

theorem mentions_readText (path : Option String) : Mentions (readText path) ["fs".toList] := by
  unfold readText
  cases path with
  | none => exact ⟨rfl, rfl⟩
  | some path =>
    simp only [Option.elim_some, source]
    split <;> exact ⟨rfl, rfl⟩

theorem mentions_trustingAgent : Mentions trustingAgent ["https".toList] := ⟨rfl, rfl⟩

theorem mentions_lit (s : String) : Mentions (lit s) [] := ⟨rfl, rfl⟩

theorem mentions_numeral {s : String} (h : ∀ c ∈ s.toList, Code.isNumeralChar c = true) :
    Mentions (s : Code) [] := by
  obtain ⟨hphrase, htokens⟩ := Code.numeral h
  refine ⟨hphrase, List.flatMap_eq_nil_iff.2 fun t ht => ?_⟩
  exact Script.mentions_numeral (htokens t ht) (by decide)

theorem mentions_timeout (n : Int) :
    Mentions (Code.call "AbortSignal.timeout" [(toString n : String)]) [] := by
  have hstart : Mentions [.code "AbortSignal.timeout", .code "("] [] := ⟨rfl, rfl⟩
  have hend : Mentions (")" : Code) [] := ⟨rfl, rfl⟩
  exact (hstart.append (.inl rfl) (mentions_numeral Code.isNumeralChar_int)).append
    (.inr ⟨_, _, _, rfl, rfl, by decide⟩) hend

theorem mentions_append {value : Code} {names : List (List Char)} (h : Mentions value names)
    (name : String) : Mentions (Code.call "form.append" [lit name, value] ++ ";") names := by
  have hstart : Mentions [.code "form.append", .code "(", .literal name, .code ", "] [] :=
    ⟨rfl, rfl⟩
  have hend : Mentions [.code ")", .code ";"] [] := ⟨rfl, rfl⟩
  have hall := (hstart.append (.inl rfl) h).append (.inr ⟨_, _, _, rfl, rfl, by decide⟩) hend
  simpa [Code.call, Code.joined, lit] using hall

theorem mentions_form {append : Part → Code} {names : Part → List (List Char)}
    (h : ∀ p, Mentions (append p) (names p)) (parts : List Part) :
    Mentions (Code.lines (("const form = new FormData();" : String) :: parts.map append))
      ("FormData".toList :: parts.flatMap names) := by
  have hform : Mentions "const form = new FormData();" ["FormData".toList] := ⟨rfl, rfl⟩
  have hparts : Phrases (parts.map append) (parts.flatMap names) := by
    induction parts with
    | nil => exact .nil
    | cons p parts ih =>
      rw [List.flatMap_cons]
      exact .cons (h p) ih
  exact (Script.Phrases.cons hform hparts).joined (Script.isSeparator_break _ rfl).1

end ObjectLiteral

namespace FetchCall

open ObjectLiteral (Mentions Phrases Values object field)

variable {r : Request} {ms : Option Int} {p : Part}

def partNames (p : Part) : List (List Char) :=
  match p.source with
  | .text _ => []
  | .upload _ => ["fileFromSync".toList]
  | .contents _ => ["fs".toList]

theorem mentions_partValue (p : Part) : Mentions (partValue .node p) (partNames p) := by
  unfold partValue partNames
  cases p.source with
  | text value => cases value <;> exact ⟨rfl, rfl⟩
  | upload path =>
    simp only [partUpload]
    cases filled? p.contentType <;> cases filled? p.filename <;> exact ⟨rfl, rfl⟩
  | contents path => exact ObjectLiteral.mentions_readText path

theorem mentions_headers (r : Request) : ObjectLiteral.Values (headers .node r) [] := by
  refine (ObjectLiteral.Values.literals _).append ?_
  cases r.auth with
  | basic user password =>
    have hbasic : Mentions (basicHeader .node user password) [] := ⟨rfl, rfl⟩
    exact .singleton hbasic _
  | none | digest | bearer => exact .nil

def contentNames : Content → List (List Char)
  | .file _ => ["fs".toList]
  | _ => []

theorem mentions_options (r : Request) (ms : Option Int) :
    ObjectLiteral.Values (options .node r ms)
      (contentNames (content r) ++ if r.tls.insecure then ["https".toList] else []) := by
  have hmethod := Values.field (r.method.name ≠ "GET") (ObjectLiteral.mentions_lit r.method.name)
    "method"
  have hheaders := Values.field (headers .node r ≠ [])
    (ObjectLiteral.mentions_object 2 (mentions_headers r)) "headers"
  have hcontent : Values (contentField .node (content r)) (contentNames (content r)) := by
    have hform : Mentions "form" [] := ⟨rfl, rfl⟩
    cases content r with
    | none => exact .nil
    | file path => exact .singleton (ObjectLiteral.mentions_readFile path) _
    | text text => exact .singleton (ObjectLiteral.mentions_lit text) _
    | form parts => exact .singleton hform _
  have htime := Values.option (fun n : Int => ObjectLiteral.mentions_timeout n) "signal" ms
  have hagent := Values.field (hasAgent .node r) ObjectLiteral.mentions_trustingAgent "agent"
  have hall := (((hmethod.append hheaders).append hcontent).append htime).append hagent
  simp only [ite_self, List.nil_append, List.append_nil] at hall
  exact hall

theorem mentions_call (r : Request) (ms : Option Int) : Mentions (call .node r ms)
    (contentNames (content r) ++ if r.tls.insecure then ["https".toList] else []) := by
  have hoptions := mentions_options r ms
  have hend : Mentions [.code ")", .code ";"] [] := ⟨rfl, rfl⟩
  by_cases hnone : options .node r ms = []
  · have hplain : Mentions (Code.call "fetch" [lit r.url] ++ ";") [] := ⟨rfl, rfl⟩
    rw [← hoptions.mentioned]
    simpa [call, hnone, Code.when] using hplain
  · have hstart : Mentions [.code "fetch", .code "(", .literal r.url, .code ", "] [] := ⟨rfl, rfl⟩
    have hall := (hstart.append (.inl rfl) (ObjectLiteral.mentions_object 1 hoptions)).append
      (.inr ⟨_, _, _, rfl, rfl, by decide⟩) hend
    simpa [call, hnone, Code.when, Code.call, Code.joined, lit] using hall

def preambleNames (names : Part → List (List Char)) : Content → List (List Char)
  | .form parts => "FormData".toList :: parts.flatMap names
  | _ => []

theorem phrases_preamble (c : Content) :
    Phrases (preamble .node c) (preambleNames partNames c) := by
  cases c with
  | none | file | text => exact .nil
  | form parts =>
    exact .singleton (ObjectLiteral.mentions_form
      (fun p => ObjectLiteral.mentions_append (mentions_partValue p) p.name) parts)

def fetchNames : Content → List (List Char)
  | .form parts =>
    if parts.any (·.isUpload) then ["fetch".toList, "FormData".toList, "fileFromSync".toList]
    else ["fetch".toList, "FormData".toList]
  | _ => ["fetch".toList]

theorem imports_fetchImport (c : Content) :
    Script.Imports (Json.quoted true) [fetchImport c] (fetchNames c) := by
  have hplain : Script.Imports (Json.quoted true) ["import fetch from 'node-fetch';"]
      ["fetch".toList] := by decide +kernel
  have hform (uploads : Bool) : Script.Imports (Json.quoted true)
      [if uploads then "import fetch, \x7b FormData, fileFromSync \x7d from 'node-fetch';"
        else "import fetch, \x7b FormData \x7d from 'node-fetch';"]
      (if uploads then ["fetch".toList, "FormData".toList, "fileFromSync".toList]
        else ["fetch".toList, "FormData".toList]) := by
    revert uploads
    decide +kernel
  cases c with
  | none | file | text => exact hplain
  | form parts => exact hform (parts.any (·.isUpload))

def importLines (r : Request) : List Code :=
  fetchImport (content r) :: Code.when (readsFile (content r)) "import fs from 'fs';"
    ++ Code.when r.tls.insecure "import https from 'https';"

theorem imports_importLines (r : Request) : Script.Imports (Json.quoted true) (importLines r)
    (fetchNames (content r) ++ (if readsFile (content r) then ["fs".toList] else [])
      ++ if r.tls.insecure then ["https".toList] else []) := by
  have hfs : Script.Imports (Json.quoted true) ["import fs from 'fs';"] ["fs".toList] := by
    decide +kernel
  have hhttps : Script.Imports (Json.quoted true) ["import https from 'https';"]
      ["https".toList] := by decide +kernel
  exact ((imports_fetchImport (content r)).append (hfs.of_wanted _)).append (hhttps.of_wanted _)

theorem mem_partNames {parts : List Part} {x : List Char} : x ∈ parts.flatMap partNames ↔
    parts.any (·.isUpload) = true ∧ x = "fileFromSync".toList ∨
      readsFile (.form parts) = true ∧ x = "fs".toList := by
  simp only [List.mem_flatMap, readsFile, List.any_eq_true]
  constructor
  · rintro ⟨p, hp, hx⟩
    unfold partNames at hx
    cases hsource : p.source with
    | text value => simp [hsource] at hx
    | upload path =>
      rw [hsource] at hx
      exact .inl ⟨⟨p, hp, by simp [Part.isUpload, hsource]⟩, List.mem_singleton.1 hx⟩
    | contents path =>
      rw [hsource] at hx
      exact .inr ⟨⟨p, hp, by simp [hsource]⟩, List.mem_singleton.1 hx⟩
  · rintro (⟨⟨p, hp, hsource⟩, rfl⟩ | ⟨⟨p, hp, hsource⟩, rfl⟩)
    · refine ⟨p, hp, ?_⟩
      unfold partNames
      unfold Part.isUpload at hsource
      cases hp : p.source <;> simp_all
    · refine ⟨p, hp, ?_⟩
      unfold partNames
      cases hp : p.source <;> simp_all

theorem mem_imports_iff (r : Request) {x : List Char} (hx : x ∈ nodeNames) :
    x ∈ fetchNames (content r) ++ (if readsFile (content r) then ["fs".toList] else [])
        ++ (if r.tls.insecure then ["https".toList] else []) ↔
      x ∈ preambleNames partNames (content r) ++ (contentNames (content r)
        ++ if r.tls.insecure then ["https".toList] else []) := by
  have hne : x ≠ "fetch".toList := by
    rintro rfl
    revert hx
    decide
  have hplain (names : List (List Char)) : x ∈ ["fetch".toList] ++ names ↔ x ∈ names := by
    rw [List.singleton_append, List.mem_cons, or_iff_right hne]
  cases content r with
  | none | text => exact hplain _
  | file path => exact hplain _
  | form parts =>
    have hpart := @mem_partNames parts x
    simp only [fetchNames, preambleNames, contentNames, List.mem_append, List.mem_cons, hpart,
      List.mem_ite_nil_right, List.nil_append]
    generalize "fetch".toList = fetch, "FormData".toList = form, "fileFromSync".toList = file,
      "fs".toList = fs, "https".toList = https at hne ⊢
    split_ifs with huploads
    · simp only [List.mem_cons, List.not_mem_nil, or_false, hne, false_or, huploads, true_and,
        or_assoc]
    · simp only [List.mem_cons, List.not_mem_nil, or_false, hne, false_or, huploads, false_and,
        Bool.false_eq_true, or_assoc]

theorem import_not_mem_partNames (p : Part) : "import".toList ∉ partNames p := by
  unfold partNames
  split <;> decide

theorem import_not_mem {names : Part → List (List Char)} (h : ∀ p, "import".toList ∉ names p)
    (r : Request) : "import".toList ∉ preambleNames names (content r) ++
      (contentNames (content r) ++ if r.tls.insecure then ["https".toList] else []) := by
  have hsecure : "import".toList ∉ if r.tls.insecure then ["https".toList] else [] := by
    split <;> decide
  cases content r with
  | none | text => exact hsecure
  | file path => exact List.not_mem_cons_of_ne_of_not_mem (by decide) hsecure
  | form parts =>
    refine List.not_mem_cons_of_ne_of_not_mem (by decide) fun hmem => ?_
    rcases List.mem_append.1 hmem with hmem | hmem
    · obtain ⟨p, -, hp⟩ := List.mem_flatMap.1 hmem
      exact h p hp
    · exact hsecure hmem

theorem importsUsed (r : Request) (ms : Option Int) :
    Script.ImportsUsed false nodeNames ((code .node r ms).text (Json.quoted true)) :=
  Script.importsUsed_blocks (by decide) (delimits_quoted true) (imports_importLines r)
    (List.cons_ne_nil _ _) ((phrases_preamble (content r)).append (.singleton (mentions_call r ms)))
    (List.append_ne_nil_of_right_ne_nil _ (List.cons_ne_nil _ _))
    (import_not_mem import_not_mem_partNames r) fun _ => mem_imports_iff r

end FetchCall

end CurlScribe
