import CurlScribe.Proofs.Target.Reading
import CurlScribe.Target.RubyScript

namespace CurlScribe.RubyScript

open Token
open Code (lit IsLine AreLines)

variable {r : Request} {p : Part} {c : Code} {cs : List Code} {name path : String}

section Reading

def value? (written : List Char) : Option String :=
  match readApostrophed written with
  | some (s, []) => some (.ofList s)
  | _ => none

def headerStatement? : List Token → Option HeaderStatement
  | [.word ['r', 'e', 'q'], .mark '[', .literal name, .mark ']', .mark '=', .literal value] => do
    return .replace (← value? name) (← value? value)
  | [.word function, .mark '(', .literal name, .mark ',', .literal value, .mark ')'] =>
    if function = "req.add_field".toList then do return .append (← value? name) (← value? value)
    else none
  | _ => none

def setsHeader : List Token → Bool
  | .word ['r', 'e', 'q'] :: .mark '[' :: _ => true
  | .word function :: _ => function = "req.add_field".toList || function = "req.basic_auth".toList
  | _ => false

def required? : List Token → Option String
  | [.word ['r', 'e', 'q', 'u', 'i', 'r', 'e'], .literal library] => value? library
  | _ => none

def openSsl : Token := .label "OpenSSL".toList

def NamesOpenSsl (line : List Token) : Prop := [openSsl, .mark ':', .mark ':'] <:+: line

end Reading

abbrev tokens (c : Code) : List Token := c.tokens apostrophed

def isPlain (line : List Token) : Bool :=
  (required? line).isNone && !setsHeader line && !line.contains openSsl

def IsPlain (c : Code) : Prop := IsLine apostrophed c ∧ isPlain (tokens c) = true

instance : DecidablePred IsPlain := fun _ => inferInstanceAs (Decidable (_ ∧ _))

section Values

def watched (t : Token) : List Token := if t = newline || t = openSsl then [t] else []

structure IsValue (c : Code) : Prop where
  isPhrase : Code.IsPhrase apostrophed c
  found : Code.found watched apostrophed c = []

variable {start value ending : Code}

theorem IsValue.append (hc : IsValue value)
    (h : Code.IsClosed apostrophed value ∨ Code.Separates ending) (hd : IsValue ending) :
    IsValue (value ++ ending) := by
  have h := h.imp_right (And.intro hc.isPhrase)
  refine ⟨Code.isPhrase_append h hd.isPhrase, ?_⟩
  rw [Code.found_append h, hc.found, hd.found]
  rfl

theorem IsValue.not_contains (h : IsValue value) :
    (tokens value).contains newline = false ∧ (tokens value).contains openSsl = false := by
  have hfound : ∀ t ∈ tokens value, watched t = [] := List.flatMap_eq_nil_iff.1 h.found
  constructor
  · by_contra hmem
    exact List.cons_ne_nil _ _ (hfound newline (by simpa using hmem))
  · by_contra hmem
    exact List.cons_ne_nil _ _ (hfound openSsl (by simpa using hmem))

theorem IsValue.isPlain (start : Code) (hstart : Code.IsClosed apostrophed start)
    (hplain : ∀ ts, required? (tokens start ++ ts) = none ∧ setsHeader (tokens start ++ ts) = false)
    (h : IsValue (start ++ value)) : IsPlain (start ++ value) := by
  obtain ⟨hnewline, hnames⟩ := h.not_contains
  obtain ⟨hrequired, hsets⟩ := hplain (tokens value)
  rw [tokens, tokens, ← Code.tokens_append (.inl hstart)] at hrequired hsets
  refine ⟨⟨h.isPhrase, hnewline⟩, ?_⟩
  rw [RubyScript.isPlain, hrequired, hsets, hnames]
  rfl

theorem isSeparator_comma : Code.IsSeparator watched apostrophed (", " : Code) :=
  ⟨⟨_, _, _, rfl, rfl, by decide⟩, rfl, rfl⟩

theorem isValue_joined {cs : List Code} (h : ∀ c ∈ cs, IsValue c) :
    IsValue (Code.joined ", " cs) := by
  obtain ⟨hphrase, hfound⟩ :=
    Code.isPhrase_joined isSeparator_comma fun c hc => (h c hc).isPhrase
  refine ⟨hphrase, hfound.trans ?_⟩
  exact List.flatMap_eq_nil_iff.2 fun c hc => (h c hc).found

theorem isValue_numeral {s : String} (h : ∀ c ∈ s.toList, Code.isNumeralChar c = true) :
    IsValue (s : Code) := by
  obtain ⟨hphrase, htokens⟩ := Code.numeral h
  refine ⟨hphrase, List.flatMap_eq_nil_iff.2 fun t ht => ?_⟩
  cases htokens t ht with
  | word => rfl
  | sign hsign => rcases hsign with rfl | rfl <;> rfl

theorem isValue_hash {entries : List Code} (h : ∀ c ∈ entries, IsValue c) :
    ∀ c ∈ hash entries, IsValue c := by
  unfold hash Code.when
  split
  · rw [List.forall_mem_singleton]
    have hstart : IsValue ("\x7b " : Code) := ⟨rfl, rfl⟩
    exact (hstart.append (.inl rfl) (isValue_joined h)).append (.inr ⟨_, _, _, rfl, rfl, by decide⟩)
      ⟨rfl, rfl⟩
  · exact List.forall_mem_nil _

theorem isValue_entry {name : String} (h : name = "content_type" ∨ name = "filename")
    (value : Option String) : ∀ c ∈ entry name value, IsValue c := by
  cases value with
  | none => exact List.forall_mem_nil _
  | some value =>
    rcases h with rfl | rfl <;> exact List.forall_mem_singleton.2 ⟨rfl, rfl⟩

end Values

section Lines

theorem isPlain_requestLine (r : Request) : IsPlain (requestLine r) := by
  have hclass : ∀ name ∈ classes.map (·.2),
      IsPlain ("req = " ++ Code.call ("Net::HTTP::" ++ name ++ ".new") ["uri"]) := by
    decide +kernel
  unfold requestLine
  split
  · rename_i name hname
    obtain ⟨before, after, hclasses, -⟩ := List.lookup_eq_some_iff.1 hname
    have hmem : (r.method.name, name) ∈ classes := by
      rw [hclasses]
      exact List.mem_append_right _ List.mem_cons_self
    exact hclass name (List.mem_map_of_mem hmem)
  · generalize (r.hasBody || r.uploadFile.isSome) = sends
    cases sends <;> exact ⟨⟨rfl, rfl⟩, rfl⟩

theorem isValue_readFile (path : String) : IsValue (readFile path) := by
  unfold readFile
  split <;> exact ⟨rfl, rfl⟩

theorem isValue_openFile (path : String) : IsValue (openFile path) := by
  unfold openFile
  split <;> exact ⟨rfl, rfl⟩

theorem part_eq (p : Part) : ∃ items, part p = "[" ++ Code.joined ", " items ++ "]" ∧
    ∀ c ∈ items, IsValue c := by
  have htype := isValue_entry (.inl rfl) (filled? p.contentType)
  have hfilename := isValue_entry (.inr rfl) (filled? p.filename)
  refine ⟨_, rfl, List.forall_mem_cons.2 ⟨⟨rfl, rfl⟩, ?_⟩⟩
  cases p.source with
  | contents path =>
    cases path with
    | none => exact List.forall_mem_singleton.2 ⟨rfl, rfl⟩
    | some path => exact List.forall_mem_singleton.2 (isValue_readFile path)
  | text value =>
    refine List.forall_mem_cons.2 ⟨?_, isValue_hash htype⟩
    cases value <;> exact ⟨rfl, rfl⟩
  | upload path =>
    exact List.forall_mem_cons.2
      ⟨isValue_openFile path, isValue_hash (List.forall_mem_append.2 ⟨hfilename, htype⟩)⟩

theorem isPlain_part (p : Part) : IsPlain ("    " ++ part p ++ ",") := by
  obtain ⟨items, hpart, hitems⟩ := part_eq p
  have hstart : IsValue [.code "    ", .code "["] := ⟨rfl, rfl⟩
  have hending : IsValue [.code "]", .code ","] := ⟨rfl, rfl⟩
  have hline := hstart.append (.inl rfl)
    ((isValue_joined hitems).append (.inr ⟨_, _, _, rfl, rfl, by decide⟩) hending)
  have hplain := hline.isPlain [.code "    ", .code "["] rfl fun _ => ⟨rfl, rfl⟩
  rw [hpart]
  simpa using hplain

theorem isPlain_of_mem_bodyLines (h : c ∈ bodyLines r) : IsPlain c := by
  have hread (path : String) : IsPlain ("req.body = " ++ readFile path) := by
    unfold readFile
    split <;> exact ⟨⟨rfl, rfl⟩, rfl⟩
  unfold bodyLines at h
  split at h
  · exact List.mem_singleton.1 h ▸ hread _
  split at h
  · cases h
  · exact List.mem_singleton.1 h ▸ ⟨⟨rfl, rfl⟩, rfl⟩
  · exact List.mem_singleton.1 h ▸ ⟨⟨rfl, rfl⟩, rfl⟩
  · exact List.mem_singleton.1 h ▸ hread _
  · have hfixed : ∀ c ∈
        (["req.set_form(", "  [", "  ],", "  'multipart/form-data'", ")"] : List Code),
        IsPlain c := by decide +kernel
    simp only [Code.line, List.mem_append, List.mem_map] at h
    rcases h with (((((h | h) | ⟨p, -, rfl⟩) | h) | h) | h)
    · exact hfixed c (by simp [List.mem_singleton.1 h])
    · exact hfixed c (by simp [List.mem_singleton.1 h])
    · exact isPlain_part p
    · exact hfixed c (by simp [List.mem_singleton.1 h])
    · exact hfixed c (by simp [List.mem_singleton.1 h])
    · exact hfixed c (by simp [List.mem_singleton.1 h])

structure IsOpenSsl (c : Code) : Prop where
  isLine : IsLine apostrophed c
  required : required? (tokens c) = none
  sets : setsHeader (tokens c) = false
  names : NamesOpenSsl (tokens c)

theorem isPlain_timed (start : Code)
    (h : start = ("  read_timeout: " : Code) ∨ start = ("  open_timeout: " : Code)) (t : Binary64) :
    IsPlain (start ++ (t.text : Code) ++ (",": Code)) := by
  have hending : IsValue ("," : Code) := ⟨rfl, rfl⟩
  have hvalue := (isValue_numeral (Code.isNumeralChar_text (x := t))).append
    (.inr ⟨_, _, _, rfl, rfl, by decide⟩) hending
  rw [List.append_assoc]
  rcases h with rfl | rfl
  · have hstart : IsValue ("  read_timeout: " : Code) := ⟨rfl, rfl⟩
    exact (hstart.append (.inl rfl) hvalue).isPlain _ rfl fun _ => ⟨rfl, rfl⟩
  · have hstart : IsValue ("  open_timeout: " : Code) := ⟨rfl, rfl⟩
    exact (hstart.append (.inl rfl) hvalue).isPlain _ rfl fun _ => ⟨rfl, rfl⟩

theorem isOpenSsl_insecure :
    IsOpenSsl ("  " ++ "verify_mode" ++ ": " ++ "OpenSSL::SSL::VERIFY_NONE" ++ ",") :=
  ⟨⟨rfl, rfl⟩, rfl, rfl, ⟨[.label "verify_mode".toList, .mark ':'], _, rfl⟩⟩

theorem isOpenSsl_cert (path : String) : IsOpenSsl ("  " ++ "cert" ++ ": " ++
    Code.call "OpenSSL::X509::Certificate.new" [Code.call "File.read" [lit path]] ++ ",") :=
  ⟨⟨rfl, rfl⟩, rfl, rfl, ⟨[.label "cert".toList, .mark ':'], _, rfl⟩⟩

theorem isOpenSsl_key (path : String) : IsOpenSsl ("  " ++ "key" ++ ": " ++
    Code.call "OpenSSL::PKey.read" [Code.call "File.read" [lit path]] ++ ",") :=
  ⟨⟨rfl, rfl⟩, rfl, rfl, ⟨[.label "key".toList, .mark ':'], _, rfl⟩⟩

theorem of_mem_optionLines (h : c ∈ optionLines r) :
    IsPlain c ∨ IsOpenSsl c ∧ usesOpenSsl r = true := by
  simp only [optionLines, option, fileOption, Code.when, List.mem_append, List.mem_ite_nil_right,
    List.mem_singleton, Option.mem_toList, Option.map_eq_some_iff] at h
  rcases h with (((((⟨-, rfl⟩ | ⟨hwanted, rfl⟩) | ⟨path, hpath, rfl⟩) | ⟨path, hpath, rfl⟩) |
    ⟨path, -, rfl⟩) | ⟨t, -, rfl⟩) | ⟨t, -, rfl⟩
  · exact .inl (by decide +kernel)
  · exact .inr ⟨isOpenSsl_insecure, by simp [usesOpenSsl, hwanted]⟩
  · exact .inr ⟨isOpenSsl_cert path, by simp [usesOpenSsl, hpath]⟩
  · exact .inr ⟨isOpenSsl_key path, by simp [usesOpenSsl, hpath]⟩
  · exact .inl ⟨⟨rfl, rfl⟩, rfl⟩
  · exact .inl (isPlain_timed _ (.inl rfl) t)
  · exact .inl (isPlain_timed _ (.inr rfl) t)

theorem exists_mem_optionLines (h : usesOpenSsl r = true) : ∃ c ∈ optionLines r, IsOpenSsl c := by
  simp only [optionLines, option, fileOption, Code.when, List.mem_append, List.mem_ite_nil_right,
    List.mem_singleton, Option.mem_toList, Option.map_eq_some_iff]
  simp only [usesOpenSsl, Bool.or_eq_true] at h
  rcases h with (hinsecure | hcert) | hkey
  · exact ⟨_, .inl (.inl (.inl (.inl (.inl (.inr ⟨hinsecure, rfl⟩))))), isOpenSsl_insecure⟩
  · obtain ⟨path, hpath⟩ := Option.isSome_iff_exists.1 hcert
    exact ⟨_, .inl (.inl (.inl (.inl (.inr ⟨path, hpath, rfl⟩)))), isOpenSsl_cert path⟩
  · obtain ⟨path, hpath⟩ := Option.isSome_iff_exists.1 hkey
    exact ⟨_, .inl (.inl (.inl (.inr ⟨path, hpath, rfl⟩))), isOpenSsl_key path⟩

theorem isPlain_startLine (r : Request) (address : Option ProxyAddress) :
    IsPlain (startLine r address) := by
  have harguments : ∀ c ∈ Code.line "uri.hostname" ++ Code.line "uri.port" ++
      proxyArguments r address ++ Code.line "req_options", IsValue c := by
    refine List.forall_mem_append.2 ⟨List.forall_mem_append.2 ⟨?_, ?_⟩, ?_⟩
    · exact List.forall_mem_cons.2 ⟨⟨rfl, rfl⟩, List.forall_mem_singleton.2 ⟨rfl, rfl⟩⟩
    · unfold proxyArguments
      cases address with
      | none => exact List.forall_mem_nil _
      | some p =>
        refine List.forall_mem_append.2 ⟨List.forall_mem_cons.2 ⟨⟨rfl, rfl⟩, ?_⟩, ?_⟩
        · exact List.forall_mem_singleton.2 (isValue_numeral Code.isNumeralChar_nat)
        · cases r.proxyAuth with
          | none => exact List.forall_mem_nil _
          | some user =>
            exact List.forall_mem_cons.2 ⟨⟨rfl, rfl⟩, List.forall_mem_singleton.2 ⟨rfl, rfl⟩⟩
    · exact List.forall_mem_singleton.2 ⟨rfl, rfl⟩
  have hending : IsValue [.code ")", .code " do |http|"] := ⟨rfl, rfl⟩
  have hstart : IsValue [.code "res = ", .code "Net::HTTP.start", .code "("] := ⟨rfl, rfl⟩
  have hline := hstart.append (.inl rfl)
    ((isValue_joined harguments).append (.inr ⟨_, _, _, rfl, rfl, by decide⟩) hending)
  have hplain := hline.isPlain [.code "res = ", .code "Net::HTTP.start", .code "("] rfl
    fun _ => ⟨rfl, rfl⟩
  rw [startLine, Code.call]
  simpa using hplain

end Lines

section Script

variable {address : Option ProxyAddress} {text : String}

def firstLines (r : Request) : List Code :=
  Code.line ("uri = " ++ Code.call "URI" [lit r.url]) ++ Code.line (requestLine r)

def lastLines (r : Request) (address : Option ProxyAddress) : List Code :=
  Code.when (bodyLines r ≠ []) [] ++ bodyLines r ++ Code.line []
    ++ Code.line "req_options = \x7b" ++ optionLines r ++ Code.line "\x7d"
    ++ Code.line (startLine r address) ++ Code.line "  http.request(req)" ++ Code.line "end"

def mainLines (r : Request) (address : Option ProxyAddress) : List Code :=
  firstLines r ++ ((headers r).map headerLine ++ (authLines r ++ lastLines r address))

theorem isPlain_of_mem_firstLines (h : c ∈ firstLines r) : IsPlain c := by
  rcases List.mem_append.1 h with h | h
  · exact List.mem_singleton.1 h ▸ ⟨⟨rfl, rfl⟩, rfl⟩
  · exact List.mem_singleton.1 h ▸ isPlain_requestLine r

theorem of_mem_lastLines (h : c ∈ lastLines r address) :
    IsPlain c ∨ IsOpenSsl c ∧ usesOpenSsl r = true := by
  have hfixed : ∀ c ∈
      ([[], "req_options = \x7b", "\x7d", "  http.request(req)", "end"] : List Code),
      IsPlain c := by decide +kernel
  simp only [lastLines, Code.line, Code.when, List.mem_append, List.mem_ite_nil_right,
    List.mem_singleton] at h
  rcases h with (((((((⟨-, rfl⟩ | h) | rfl) | rfl) | h) | rfl) | rfl) | rfl) | rfl
  · exact .inl (hfixed _ (by simp))
  · exact .inl (isPlain_of_mem_bodyLines h)
  · exact .inl (hfixed _ (by simp))
  · exact .inl (hfixed _ (by simp))
  · exact of_mem_optionLines h
  · exact .inl (hfixed _ (by simp))
  · exact .inl (isPlain_startLine r address)
  · exact .inl (hfixed _ (by simp))
  · exact .inl (hfixed _ (by simp))

theorem value?_apostrophed (s : String) : value? (apostrophed s).toList = some s := by
  have hread : readApostrophed (apostrophed s).toList = some (s.toList, []) := by
    rw [toList_apostrophed]
    exact apostrophedFrom_flatMap s.toList []
  rw [value?, hread]
  exact congrArg some String.ofList_toList

theorem headerStatement?_headerLine (statement : HeaderStatement) :
    headerStatement? (tokens (headerLine statement)) = some statement := by
  have hread (put : Bool) (name value : String) : headerStatement? (tokens (headerLine
      (if put then .replace name value else .append name value))) =
      (value? (apostrophed name).toList).bind fun name =>
        (value? (apostrophed value).toList).bind fun value =>
          some (if put then .replace name value else .append name value) := by
    cases put <;> rfl
  cases statement with
  | replace name value =>
    have hread := hread true name value
    rwa [value?_apostrophed, value?_apostrophed] at hread
  | append name value =>
    have hread := hread false name value
    rwa [value?_apostrophed, value?_apostrophed] at hread

theorem setsHeader_headerLine (statement : HeaderStatement) :
    setsHeader (tokens (headerLine statement)) = true := by
  cases statement <;> rfl

theorem of_mem_mainLines (h : c ∈ mainLines r address) :
    IsLine apostrophed c ∧ required? (tokens c) = none ∧
      ((tokens c).contains openSsl = false ∨ NamesOpenSsl (tokens c) ∧ usesOpenSsl r = true) := by
  have hplain {c : Code} (hc : IsPlain c) : IsLine apostrophed c ∧ required? (tokens c) = none ∧
      ((tokens c).contains openSsl = false ∨ NamesOpenSsl (tokens c) ∧ usesOpenSsl r = true) := by
    obtain ⟨hline, hplain⟩ := hc
    simp only [isPlain, Bool.and_eq_true, Bool.not_eq_true', Option.isNone_iff_eq_none] at hplain
    exact ⟨hline, hplain.1.1, .inl hplain.2⟩
  simp only [mainLines, List.mem_append, List.mem_map] at h
  rcases h with h | ⟨statement, -, rfl⟩ | h | h
  · exact hplain (isPlain_of_mem_firstLines h)
  · cases statement <;> exact ⟨⟨rfl, rfl⟩, rfl, .inl rfl⟩
  · unfold authLines at h
    split at h
    · exact List.mem_singleton.1 h ▸ ⟨⟨rfl, rfl⟩, rfl, .inl rfl⟩
    · cases h
  · rcases of_mem_lastLines h with h | ⟨h, huses⟩
    · exact hplain h
    · exact ⟨h.isLine, h.required, .inr ⟨h.names, huses⟩⟩

theorem sets_of_mem_firstLines (h : c ∈ firstLines r) : setsHeader (tokens c) = false := by
  have hplain := (isPlain_of_mem_firstLines h).2
  simp only [isPlain, Bool.and_eq_true, Bool.not_eq_true'] at hplain
  exact hplain.1.2

theorem sets_of_mem_lastLines (h : c ∈ lastLines r address) : setsHeader (tokens c) = false := by
  rcases of_mem_lastLines h with ⟨-, hplain⟩ | ⟨h, -⟩
  · simp only [isPlain, Bool.and_eq_true, Bool.not_eq_true'] at hplain
    exact hplain.1.2
  · exact h.sets

theorem filter_mainLines : ((mainLines r address).map tokens).filter setsHeader =
    ((headers r).map headerLine ++ authLines r).map tokens := by
  have hfirst : ((firstLines r).map tokens).filter setsHeader = [] := by
    simpa using fun c hc => sets_of_mem_firstLines hc
  have hlast : ((lastLines r address).map tokens).filter setsHeader = [] := by
    simpa using fun c hc => sets_of_mem_lastLines hc
  have hheaders : (((headers r).map headerLine).map tokens).filter setsHeader =
      ((headers r).map headerLine).map tokens := by
    rw [List.filter_eq_self, List.map_map, List.forall_mem_map]
    exact fun statement _ => setsHeader_headerLine statement
  have hauth : ((authLines r).map tokens).filter setsHeader = (authLines r).map tokens := by
    unfold authLines
    split <;> rfl
  simp only [mainLines, List.map_append, List.filter_append, hfirst, hlast, hheaders, hauth,
    List.nil_append, List.append_nil]

theorem areLines_script (r : Request) (address : Option ProxyAddress) :
    AreLines apostrophed (code r address)
      ((requireLines r).map tokens ++ [[]] ++ (mainLines r address).map tokens) := by
  have hrequires : ∀ c ∈ requireLines r, IsLine apostrophed c := by
    unfold requireLines
    cases usesOpenSsl r <;> decide +kernel
  have hrequires := Code.areLines_lines hrequires (by simp [requireLines, Code.line])
  have hempty : AreLines apostrophed ("\n" : Code) [[]] := ⟨rfl, by simp⟩
  have hmain := Code.areLines_lines (fun c hc => (of_mem_mainLines hc).1)
    (by simp [mainLines, firstLines, Code.line] : mainLines r address ≠ [])
  have hall := (hrequires.append hempty).append hmain
  have hcode : code r address = Code.lines (requireLines r) ++ .code ("\n" ++ "\n") ::
      (Code.lines (mainLines r address) ++ ("\n" : Code)) := by
    simp [code, mainLines, firstLines, lastLines]
  rw [hcode, Code.areLines_cut]
  simpa using hall

theorem lines_script (r : Request) (address : Option ProxyAddress) :
    Token.lines (ofText ((code r address).text apostrophed)) =
      (requireLines r).map tokens ++ [] :: ((mainLines r address).map tokens ++ [[]]) := by
  rw [(areLines_script r address).lines_ofText delimits_apostrophed]
  simp

variable {lines : List (List Token)}
  (h : lines = Token.lines (ofText ((code r address).text apostrophed)))

include h

theorem required_script : lines.filterMap required? =
    "net/http" :: if usesOpenSsl r then ["openssl"] else [] := by
  have hmain : ((mainLines r address).map tokens).filterMap required? = [] := by
    rw [List.filterMap_eq_nil_iff, List.forall_mem_map]
    exact fun c hc => (of_mem_mainLines hc).2.1
  have hrequires : ((requireLines r).map tokens).filterMap required? =
      "net/http" :: if usesOpenSsl r then ["openssl"] else [] := by
    unfold requireLines
    cases usesOpenSsl r <;> decide +kernel
  rw [h, lines_script, List.filterMap_append, hrequires, List.filterMap_cons_none rfl,
    List.filterMap_append, hmain]
  exact List.append_nil _

theorem names_script : (∃ line ∈ lines, NamesOpenSsl line) ↔ usesOpenSsl r = true := by
  have hmem {line : List Token} (hline : NamesOpenSsl line) : line.contains openSsl = true :=
    List.contains_iff_mem.2 (hline.subset List.mem_cons_self)
  rw [h, lines_script]
  constructor
  · rintro ⟨line, hline, hnames⟩
    simp only [List.mem_append, List.mem_cons, List.mem_map, List.not_mem_nil, or_false] at hline
    rcases hline with ⟨c, hc, rfl⟩ | rfl | ⟨c, hc, rfl⟩ | rfl
    · have hrequires : ∀ c ∈ requireLines r, (tokens c).contains openSsl = false := by
        unfold requireLines
        cases usesOpenSsl r <;> decide +kernel
      have hfree := hrequires c hc
      rw [hmem hnames] at hfree
      cases hfree
    · cases hmem hnames
    · rcases (of_mem_mainLines hc).2.2 with hfree | ⟨-, huses⟩
      · rw [hmem hnames] at hfree
        cases hfree
      · exact huses
    · cases hmem hnames
  · intro huses
    obtain ⟨c, hc, hnames⟩ := exists_mem_optionLines huses
    refine ⟨tokens c, ?_, hnames.names⟩
    refine List.mem_append_right _ (List.mem_cons_of_mem _ (List.mem_append_left _ ?_))
    refine List.mem_map_of_mem ?_
    simp [mainLines, lastLines, hc]

end Script

end CurlScribe.RubyScript
