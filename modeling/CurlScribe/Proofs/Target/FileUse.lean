import CurlScribe.Proofs.Target.PartTold

namespace CurlScribe

open Code (lit)

variable {r : Request} {t : Target} {p : Part} {before after : List Part} {path text : String}

inductive FilePlace
  | upload
  | body
  | part
  | contents
  deriving DecidableEq

inductive FileUse
  | upload (path : String)
  | body (path : String)
  | part (before : List Part) (p : Part) (after : List Part)

namespace FileUse

def path? : FileUse → Option String
  | upload path => some path
  | body path => some path
  | part _ p _ => p.file

def name? : FileUse → Option String
  | part _ p _ => some p.name
  | _ => none

def place : FileUse → FilePlace
  | upload _ => .upload
  | body _ => .body
  | part _ p _ => if p.fromFile then .contents else .part

theorem place_part (h : p.fromFile = false) : (part before p after).place = .part := by
  simp [place, h]

theorem place_contents (h : p.fromFile = true) : (part before p after).place = .contents := by
  simp [place, h]

end FileUse

inductive Request.Names (r : Request) : FileUse → Prop
  | upload {path : String} : r.uploadFile = some path → r.Names (.upload path)
  | body {data path : String} : r.body = .raw data (some path) → r.Names (.body path)
  | part {before : List Part} {p : Part} {after : List Part} :
      r.body = .multipart (before ++ p :: after) → r.Names (.part before p after)

namespace Target

def opensFiles : Target → Bool
  | .python | .node | .nodeAxios | .go | .ruby | .php => true
  | _ => false

def literalText : Target → String → String
  | .python => Text.shown
  | .node | .nodeAxios | .javascript => Json.quoted true
  | .go => Json.quoted false
  | .ruby | .php => apostrophed
  | _ => id

/-- Whether standard input is taken where a file of the name `-` would be opened or read. -/
def takesInput : Target → FilePlace → Bool
  | .python, place => place = .body
  | .node, place => place ≠ .part
  | .nodeAxios, place => place = .body
  | .go, place => place ≠ .contents
  | .php, place => place ≠ .part
  | .ruby, _ => true
  | _, _ => false

def opener : Target → FilePlace → Code
  | .python, _ => "open" ++ "("
  | .node, .part => "fileFromSync" ++ "("
  | .node, _ => "fs.readFileSync("
  | .nodeAxios, .upload | .nodeAxios, .part => "fs.createReadStream" ++ "("
  | .nodeAxios, _ => "fs.readFileSync("
  | .go, .contents => "os.ReadFile" ++ "("
  | .go, _ => "os.Open" ++ "("
  | .ruby, .part => "File.open" ++ "("
  | .ruby, _ => "File.read" ++ "("
  | .php, .upload => "fopen" ++ "("
  | .php, .part => "CURLFile" ++ "("
  | .php, _ => "file_get_contents" ++ "("
  | _, _ => []

def inputCode : Target → FilePlace → Code
  | .python, _ => "data = sys.stdin.buffer.read()"
  | .node, _ | .nodeAxios, _ => "fs.readFileSync(" ++ "0"
  | .go, _ => " := os.Stdin"
  | .ruby, .part => "STDIN"
  | .ruby, _ => "STDIN.read"
  | .php, .upload => "fopen" ++ "(" ++ lit "php://stdin"
  | .php, _ => "file_get_contents" ++ "(" ++ lit "php://stdin"
  | _, _ => []

def Opens (t : Target) (place : FilePlace) (path : String) (c : Code) : Prop :=
  t.opener place ++ lit path <:+: c

def TakesInput (t : Target) (place : FilePlace) (c : Code) : Prop := t.inputCode place <:+: c

def codeFor : Target → FileUse → Code
  | .python, .upload path => "data=" ++ RequestsScript.openFile path
  | .python, .body path =>
    Code.lines (RequestsScript.dataBlock (if path = "-" then .input else .file path))
  | .python, .part _ p _ => RequestsScript.part p
  | .node, .upload path | .node, .body path =>
    ObjectLiteral.entry 1 ("body", ObjectLiteral.readFile path)
  | .node, .part _ p _ => FetchCall.appendPart .node p
  | .nodeAxios, .upload path => ObjectLiteral.entry 1 ("data", AxiosCall.readStream path)
  | .nodeAxios, .body path => ObjectLiteral.entry 1 ("data", ObjectLiteral.readFile path)
  | .nodeAxios, .part _ p _ => AxiosCall.appendPart p
  | .go, .upload path | .go, .body path => Code.lines (GoProgram.openLines "data" path)
  | .go, .part before p _ => Code.lines (GoProgram.partLines p before.length)
  | .ruby, .upload path | .ruby, .body path => "req.body = " ++ RubyScript.readFile path
  | .ruby, .part _ p _ => RubyScript.part p
  | .php, .upload path => PhpScript.setLine
      (PhpScript.option "INFILE" (Code.call "fopen" [PhpScript.file path, "'r'"]))
  | .php, .body path => PhpScript.setLine
      (PhpScript.option "POSTFIELDS" (Code.call "file_get_contents" [PhpScript.file path]))
  | .php, .part _ p _ => PhpScript.entryLine (PhpScript.partEntry p)
  | _, _ => []

/-- Whether the code for a file is not there, since a later part has the name of the file's part. -/
def Replaces (t : Target) : FileUse → Prop
  | .part _ p after => t.Overwrites p after
  | _ => False

end Target

theorem Code.prefix_call (function path : String) (rest : List Code) :
    ([.code function, .code "("] : Code) ++ lit path <+: call function (lit path :: rest) := by
  cases rest with
  | nil => exact List.prefix_append ..
  | cons c rest => exact ⟨.code ", " :: joined ", " (c :: rest) ++ [.code ")"], rfl⟩

section Reads

theorem Part.source_of_file (h : p.file = some path) :
    p.source = if p.fromFile then .contents (some path) else .upload path := by
  rw [source, h]

namespace Target

/-- Whether the code for a file takes standard input or else opens or reads the file by its name. -/
def Reads (t : Target) (place : FilePlace) (path : String) (c : Code) : Prop :=
  if path = "-" ∧ t.takesInput place = true then t.TakesInput place c ∧ ¬ t.Opens place path c
  else t.Opens place path c

variable {place : FilePlace} {c : Code}

theorem reads_of_opens (h : ¬ (path = "-" ∧ t.takesInput place = true))
    (hopens : t.opener place ++ lit path <:+: c) : t.Reads place path c := by
  rw [Reads, if_neg h]
  exact hopens

theorem reads_of_not_takesInput (h : t.takesInput place = false)
    (hopens : t.opener place ++ lit path <:+: c) : t.Reads place path c :=
  reads_of_opens (by simp [h]) hopens

theorem reads_input (h : t.takesInput place = true) (hinput : t.inputCode place <:+: c)
    (hopens : ¬ t.opener place ++ lit "-" <:+: c) : t.Reads place "-" c := by
  rw [Reads, if_pos ⟨rfl, h⟩]
  exact ⟨hinput, hopens⟩

end Target

namespace RequestsScript

theorem reads_upload (path : String) :
    Target.python.Reads .upload path (Target.python.codeFor (.upload path)) :=
  Target.reads_of_not_takesInput rfl
    ((Code.prefix_call "open" path _).isInfix.trans (List.suffix_append ..).isInfix)

theorem reads_body (path : String) :
    Target.python.Reads .body path (Target.python.codeFor (.body path)) := by
  by_cases h : path = "-"
  · subst h
    exact Target.reads_input rfl List.infix_rfl (by decide)
  · refine Target.reads_of_opens (fun hinput => h hinput.1)
      ((Code.prefix_call "open" path [[.code "'rb'"]]).isInfix.trans ?_)
    rw [Target.codeFor, if_neg h]
    exact List.infix_append [Fragment.code "with "] _ _

theorem reads_part (h : p.file = some path) :
    Target.python.Reads (FileUse.part before p after).place path (part p) := by
  have hcontent : content p <:+: part p := Code.infix_call (by simp)
  refine Target.reads_of_not_takesInput ?_ (.trans ?_ hcontent)
  · cases hfrom : p.fromFile <;> simp [FileUse.place, hfrom, Target.takesInput]
  · rw [content, Part.source_of_file h]
    cases p.fromFile with
    | false => exact (Code.prefix_call "open" path _).isInfix
    | true => exact (Code.prefix_call "open" path []).isInfix.trans (List.prefix_append ..).isInfix

end RequestsScript

namespace ObjectLiteral

theorem reads_readFile {key : String} {place : FilePlace}
    (htakes : t.takesInput place = true) (hopener : t.opener place = ("fs.readFileSync(" : String))
    (hinput : t.inputCode place = "fs.readFileSync(" ++ "0") (hkey : isIdentifier key = true)
    (path : String) : t.Reads place path (entry 1 (key, readFile path)) := by
  by_cases h : path = "-"
  · subst h
    refine Target.reads_input htakes ?_ ?_
    · rw [hinput]
      exact ((List.prefix_append _ _).trans (List.prefix_append _ _)).isInfix.trans
        (List.suffix_append _ _).isInfix
    · rw [hopener]
      simp [entry, ObjectLiteral.key, hkey, readFile, source, List.infix_cons_iff, lit]
  · refine Target.reads_of_opens (fun hinput => h hinput.1) ?_
    have hread : ([.code "fs.readFileSync("] : Code) ++ lit path <+: readFile path := by
      rw [readFile, source, if_neg h]
      exact List.prefix_append _ _
    rw [hopener]
    exact hread.isInfix.trans (List.suffix_append _ _).isInfix

end ObjectLiteral

namespace FetchCall

theorem reads_part (h : p.file = some path) :
    Target.node.Reads (FileUse.part before p after).place path (appendPart .node p) := by
  have hvalue : partValue .node p <:+: appendPart .node p :=
    (Code.infix_call (by simp)).trans (List.prefix_append ..).isInfix
  cases hfrom : p.fromFile with
  | false =>
    rw [FileUse.place_part hfrom]
    refine Target.reads_of_not_takesInput rfl (.trans ?_ hvalue)
    rw [partValue, Part.source_of_file h, hfrom]
    exact (Code.prefix_call "fileFromSync" path _).isInfix.trans (Code.infix_joined List.mem_cons_self)
  | true =>
    rw [FileUse.place_contents hfrom]
    by_cases hpath : path = "-"
    · subst hpath
      refine Target.reads_input rfl (.trans ?_ hvalue) ?_
      · rw [partValue, Part.source_of_file h, hfrom]
        exact (List.prefix_append _ _).isInfix
      · rw [appendPart, partValue, Part.source_of_file h, hfrom]
        simp [Target.opener, lit, Code.call, Code.joined, fileText, ObjectLiteral.readText,
          ObjectLiteral.source, List.infix_cons_iff]
    · refine Target.reads_of_opens (fun hinput => hpath hinput.1) (.trans ?_ hvalue)
      rw [partValue, Part.source_of_file h, hfrom]
      simp only [if_true, fileText, ObjectLiteral.readText, Option.elim_some, ObjectLiteral.source,
        if_neg hpath]
      exact (List.prefix_append _ _).isInfix

end FetchCall

namespace AxiosCall

theorem reads_upload (path : String) :
    Target.nodeAxios.Reads .upload path (Target.nodeAxios.codeFor (.upload path)) :=
  Target.reads_of_not_takesInput rfl
    ((Code.prefix_call "fs.createReadStream" path []).isInfix.trans (List.suffix_append ..).isInfix)

theorem reads_part (h : p.file = some path) :
    Target.nodeAxios.Reads (FileUse.part before p after).place path (appendPart p) := by
  have hvalue : partValue p <:+: appendPart p :=
    (Code.infix_call (by simp)).trans (List.prefix_append ..).isInfix
  cases hfrom : p.fromFile with
  | false =>
    rw [FileUse.place_part hfrom]
    refine Target.reads_of_not_takesInput rfl (.trans ?_ hvalue)
    simp only [partValue, h, hfrom, Bool.false_eq_true, if_false]
    exact (Code.prefix_call "fs.createReadStream" path []).isInfix.trans
      (Code.infix_joined List.mem_cons_self)
  | true =>
    rw [FileUse.place_contents hfrom]
    refine Target.reads_of_not_takesInput rfl (.trans ?_ hvalue)
    simp only [partValue, h, hfrom, if_true]
    exact (List.prefix_append _ _).isInfix

end AxiosCall

namespace GoProgram

theorem infix_step (name : String) (value : Code) (after : List Code) :
    value <:+: Code.lines (step name value ++ after) :=
  (List.suffix_append _ _).isInfix.trans (Code.infix_joined List.mem_cons_self)

theorem infix_openLines (h : path ≠ "-") (name : String) :
    ([.code "os.Open", .code "("] : Code) ++ lit path <:+: Code.lines (openLines name path) := by
  rw [openLines, if_neg h]
  exact (Code.prefix_call "os.Open" path []).isInfix.trans (infix_step name _ _)

theorem reads_openLines {place : FilePlace} (hplace : place ≠ .contents) (name path : String) :
    Target.go.Reads place path (Code.lines (openLines name path)) := by
  have hopener : Target.go.opener place = ([.code "os.Open", .code "("] : Code) := by
    cases place <;> first | rfl | exact absurd rfl hplace
  by_cases h : path = "-"
  · subst h
    refine Target.reads_input (by simp [Target.takesInput, hplace])
      (List.suffix_append _ _).isInfix ?_
    rw [hopener]
    simp [openLines, Code.lines, Code.joined, lit, List.infix_cons_iff]
  · refine Target.reads_of_opens (fun hinput => h hinput.1) ?_
    rw [hopener]
    exact infix_openLines h name

theorem reads_part (h : p.file = some path) (n : Nat) :
    Target.go.Reads (FileUse.part before p after).place path (Code.lines (partLines p n)) := by
  cases hfrom : p.fromFile with
  | false =>
    have hopen : Code.lines (openLines ("file" ++ toString n) path) <:+:
        Code.lines (partLines p n) := by
      rw [partLines, Part.source_of_file h, hfrom]
      exact Code.infix_lines ⟨_, _, rfl⟩
    rw [FileUse.place_part hfrom]
    by_cases hpath : path = "-"
    · subst hpath
      refine Target.reads_input rfl ((List.suffix_append _ _).isInfix.trans hopen) ?_
      rw [partLines, Part.source_of_file h, hfrom]
      simp [Target.opener, step, fatal, openLines, guarded, Code.call, Code.lines, Code.joined, lit,
        List.infix_cons_iff]
    · exact Target.reads_of_opens (fun hinput => hpath hinput.1) ((infix_openLines hpath _).trans hopen)
  | true =>
    rw [FileUse.place_contents hfrom]
    refine Target.reads_of_not_takesInput rfl ?_
    rw [partLines, Part.source_of_file h, hfrom]
    exact (Code.prefix_call "os.ReadFile" path []).isInfix.trans (infix_step _ _ _)

end GoProgram

namespace RubyScript

theorem infix_readFile (h : path ≠ "-") :
    ([.code "File.read", .code "("] : Code) ++ lit path <:+: readFile path := by
  rw [readFile, if_neg h]
  exact (Code.prefix_call "File.read" path []).isInfix

theorem reads_readFile {place : FilePlace} (hplace : place ≠ .part) (path : String) :
    Target.ruby.Reads place path ("req.body = " ++ readFile path) := by
  have hopener : Target.ruby.opener place = ([.code "File.read", .code "("] : Code) := by
    cases place <;> first | rfl | exact absurd rfl hplace
  have hinput : Target.ruby.inputCode place = ([.code "STDIN.read"] : Code) := by
    cases place <;> first | rfl | exact absurd rfl hplace
  by_cases h : path = "-"
  · subst h
    refine Target.reads_input rfl ?_ ?_
    · rw [hinput]
      exact (List.suffix_append _ _).isInfix
    · rw [hopener]
      decide
  · refine Target.reads_of_opens (fun hinput => h hinput.1) ?_
    rw [hopener]
    exact (infix_readFile h).trans (List.suffix_append _ _).isInfix

theorem reads_part (h : p.file = some path) :
    Target.ruby.Reads (FileUse.part before p after).place path (part p) := by
  have hitem {item : Code} {items : List Code} (hmem : item ∈ items) :
      item <:+: "[" ++ Code.joined ", " (lit p.name :: items) ++ "]" :=
    (Code.infix_joined (List.mem_cons_of_mem _ hmem)).trans (List.infix_append _ _ _)
  cases hfrom : p.fromFile with
  | false =>
    rw [FileUse.place_part hfrom, part, Part.source_of_file h, hfrom]
    by_cases hpath : path = "-"
    · subst hpath
      refine Target.reads_input rfl (hitem List.mem_cons_self) ?_
      cases filled? p.filename <;> cases filled? p.contentType <;>
        simp [Target.opener, openFile, hash, entry, Code.when, Code.joined, lit,
          List.infix_cons_iff]
    · refine Target.reads_of_opens (fun hinput => hpath hinput.1)
        (List.IsInfix.trans ?_ (hitem List.mem_cons_self))
      rw [openFile, if_neg hpath]
      exact (Code.prefix_call "File.open" path []).isInfix
  | true =>
    rw [FileUse.place_contents hfrom, part, Part.source_of_file h, hfrom]
    by_cases hpath : path = "-"
    · subst hpath
      refine Target.reads_input rfl (hitem List.mem_cons_self) ?_
      simp [Target.opener, readFile, Code.joined, lit, List.infix_cons_iff]
    · exact Target.reads_of_opens (fun hinput => hpath hinput.1)
        ((infix_readFile hpath).trans (hitem List.mem_cons_self))

end RubyScript

namespace PhpScript

theorem infix_call_file (h : path ≠ "-") (function : String) (rest : List Code) :
    ([.code function, .code "("] : Code) ++ lit path <:+: Code.call function (file path :: rest) := by
  rw [file, if_neg h]
  exact (Code.prefix_call function path rest).isInfix

theorem infix_setLine (name : String) (value : Code) : value <:+: setLine (option name value) :=
  (Code.infix_call (by simp [option])).trans (List.prefix_append ..).isInfix

theorem reads_upload (path : String) :
    Target.php.Reads .upload path (Target.php.codeFor (.upload path)) := by
  by_cases h : path = "-"
  · subst h
    exact Target.reads_input rfl (by decide) (by decide)
  · exact Target.reads_of_opens (fun hinput => h hinput.1)
      ((infix_call_file h "fopen" _).trans (infix_setLine _ _))

theorem reads_body (path : String) :
    Target.php.Reads .body path (Target.php.codeFor (.body path)) := by
  by_cases h : path = "-"
  · subst h
    exact Target.reads_input rfl (by decide) (by decide)
  · exact Target.reads_of_opens (fun hinput => h hinput.1)
      ((infix_call_file h "file_get_contents" _).trans (infix_setLine _ _))

theorem reads_part (h : p.file = some path) :
    Target.php.Reads (FileUse.part before p after).place path (entryLine (partEntry p)) := by
  have hvalue : partValue p <:+: entryLine (partEntry p) := (List.suffix_append _ _).isInfix
  cases hfrom : p.fromFile with
  | false =>
    rw [FileUse.place_part hfrom]
    refine Target.reads_of_not_takesInput rfl (List.IsInfix.trans ?_ hvalue)
    have hupload : partValue p = upload p path := by
      rw [partValue, Part.source_of_file h, hfrom]
      rfl
    have hcall : ∃ rest, partValue p = "new " ++ Code.call "CURLFile" (lit path :: rest) := by
      rw [hupload, upload]
      split <;> exact ⟨_, rfl⟩
    obtain ⟨rest, hrest⟩ := hcall
    rw [hrest]
    exact (Code.prefix_call "CURLFile" path rest).isInfix.trans (List.suffix_append _ _).isInfix
  | true =>
    rw [FileUse.place_contents hfrom]
    have hcall : partValue p = Code.call "file_get_contents" [file path] := by
      rw [partValue, Part.source_of_file h, hfrom]
      rfl
    by_cases hpath : path = "-"
    · subst hpath
      refine Target.reads_input rfl (List.IsInfix.trans ?_ hvalue) ?_
      · rw [hcall]
        exact (Code.prefix_call "file_get_contents" "php://stdin" []).isInfix
      · rw [entryLine, partEntry, hcall]
        simp [Target.opener, file, Code.call, Code.joined, lit, List.infix_cons_iff]
    · refine Target.reads_of_opens (fun hinput => hpath hinput.1) (List.IsInfix.trans ?_ hvalue)
      rw [hcall]
      exact infix_call_file hpath "file_get_contents" []

end PhpScript

theorem Target.reads_codeFor {u : FileUse} (ht : t.opensFiles = true) (hpath : u.path? = some path) :
    t.Reads u.place path (t.codeFor u) := by
  cases u with
  | upload _ =>
    cases hpath
    have hcontents : FilePlace.upload ≠ .contents := nofun
    have hpart : FilePlace.upload ≠ .part := nofun
    cases t with
    | python => exact RequestsScript.reads_upload path
    | node => exact ObjectLiteral.reads_readFile rfl rfl rfl (by decide) path
    | nodeAxios => exact AxiosCall.reads_upload path
    | go => exact GoProgram.reads_openLines hcontents "data" path
    | ruby => exact RubyScript.reads_readFile hpart path
    | php => exact PhpScript.reads_upload path
    | _ => cases ht
  | body _ =>
    cases hpath
    have hcontents : FilePlace.body ≠ .contents := nofun
    have hpart : FilePlace.body ≠ .part := nofun
    cases t with
    | python => exact RequestsScript.reads_body path
    | node => exact ObjectLiteral.reads_readFile rfl rfl rfl (by decide) path
    | nodeAxios => exact ObjectLiteral.reads_readFile rfl rfl rfl (by decide) path
    | go => exact GoProgram.reads_openLines hcontents "data" path
    | ruby => exact RubyScript.reads_readFile hpart path
    | php => exact PhpScript.reads_body path
    | _ => cases ht
  | part before p after =>
    cases t with
    | python => exact RequestsScript.reads_part hpath
    | node => exact FetchCall.reads_part hpath
    | nodeAxios => exact AxiosCall.reads_part hpath
    | go => exact GoProgram.reads_part hpath before.length
    | ruby => exact RubyScript.reads_part hpath
    | php => exact PhpScript.reads_part hpath
    | _ => cases ht

end Reads

end CurlScribe
