import CurlScribe.Proofs.Target.ScriptNames
import CurlScribe.Target.RequestsScript

namespace CurlScribe.RequestsScript

open Code (lit IsPhrase IsClosed Separates found)

abbrev pythonNames : List (List Char) := ["sys".toList, "HTTPDigestAuth".toList]

abbrev mentioned (c : Code) : List (List Char) :=
  c.found (Script.mentions true pythonNames) Text.shown

abbrev Mentions := Script.Mentions true pythonNames Text.shown

abbrev Phrases := Script.Phrases true pythonNames Text.shown

variable {r : Request} {p : Part} {c value : Code} {cs : List Code} {name path : String}
  {items : List (String × Code)}

section Tables

def IsPlain (c : Code) : Prop := IsClosed Text.shown c ∧ Mentions c []

theorem IsPlain.append {d : Code} (hc : IsPlain c) (hd : IsPlain d) : IsPlain (c ++ d) :=
  ⟨Code.isClosed_append (.inl hc.1) hd.1, hc.2.append (.inl hc.1) hd.2⟩

theorem isPlain_iff : IsPlain c ↔ IsClosed Text.shown c ∧ mentioned c = [] :=
  ⟨fun h => ⟨h.1, h.2.mentioned⟩, fun h => ⟨h.1, h.1.isPhrase, h.2⟩⟩

theorem isPlain_joined (h : ∀ c ∈ cs, IsPlain c) : IsPlain (Code.joined "" cs) := by
  obtain ⟨hclosed, htokens⟩ := Code.tokens_joined fun c hc => (h c hc).1
  refine isPlain_iff.2 ⟨hclosed, ?_⟩
  rw [mentioned, found, htokens, List.flatMap_assoc]
  exact List.flatMap_eq_nil_iff.2 fun c hc => (h c hc).2.mentioned

theorem isPlain_line (start : Code) (hstart : IsPlain start) (h : Mentions value [])
    (ending : Code) (hsep : Separates ending) (hending : IsPlain ending) :
    IsPlain (start ++ (value ++ ending)) :=
  have hrest := h.append (.inr hsep) hending.2
  ⟨(Code.tokens_between hstart.1 h.isPhrase hsep hending.1).1, hstart.2.append (.inl hstart.1) hrest⟩

theorem isPlain_item (h : Mentions value []) (key : String) :
    IsPlain (item key value ++ "\n") ∧ IsPlain (pairItem key value ++ "\n") := by
  have hitem := isPlain_line [.code "    ", .literal key, .code ": "] ⟨rfl, rfl, rfl⟩ h
    [.code ",", .code "\n"] ⟨_, _, _, rfl, rfl, by decide⟩ ⟨rfl, rfl, rfl⟩
  have hpair := isPlain_line [.code "    (", .literal key, .code ", "] ⟨rfl, rfl, rfl⟩ h
    [.code "),", .code "\n"] ⟨_, _, _, rfl, rfl, by decide⟩ ⟨rfl, rfl, rfl⟩
  exact ⟨by simpa [item, lit] using hitem, by simpa [pairItem, lit] using hpair⟩

def tableNames : List String := ["data", "files", "cookies", "headers", "proxies"]

theorem isPlain_table (h : ∀ item ∈ items, Mentions item.2 []) (hname : name ∈ tableNames) :
    IsPlain (dict name items) ∧ IsPlain (pairs name items) := by
  have hstart : ∀ name ∈ tableNames,
      IsPlain [.code name, .code " = \x7b\n"] ∧ IsPlain [.code name, .code " = [\n"] := by
    simp only [tableNames, List.forall_mem_cons]
    exact ⟨⟨⟨rfl, rfl, rfl⟩, ⟨rfl, rfl, rfl⟩⟩, ⟨⟨rfl, rfl, rfl⟩, ⟨rfl, rfl, rfl⟩⟩,
      ⟨⟨rfl, rfl, rfl⟩, ⟨rfl, rfl, rfl⟩⟩, ⟨⟨rfl, rfl, rfl⟩, ⟨rfl, rfl, rfl⟩⟩,
      ⟨⟨rfl, rfl, rfl⟩, ⟨rfl, rfl, rfl⟩⟩, List.forall_mem_nil _⟩
  obtain ⟨hdict, hpairs⟩ := hstart name hname
  have hitems : IsPlain (Code.joined "" (items.map fun i => item i.1 i.2 ++ "\n")) :=
    isPlain_joined (List.forall_mem_map.2 fun i hi => (isPlain_item (h i hi) i.1).1)
  have hpairItems : IsPlain (Code.joined "" (items.map fun i => pairItem i.1 i.2 ++ "\n")) :=
    isPlain_joined (List.forall_mem_map.2 fun i hi => (isPlain_item (h i hi) i.1).2)
  have hbrace : IsPlain ("\x7d" : Code) := ⟨rfl, rfl, rfl⟩
  have hbracket : IsPlain ("]" : Code) := ⟨rfl, rfl, rfl⟩
  exact ⟨(hdict.append hitems).append hbrace, (hpairs.append hpairItems).append hbracket⟩

end Tables

section Values

theorem mentions_lit (s : String) : Mentions (lit s) [] := ⟨rfl, rfl⟩

theorem mentions_text (t : Binary64) : Mentions (t.text : Code) [] := by
  obtain ⟨hphrase, htokens⟩ := Code.numeral (Code.isNumeralChar_text (x := t))
  refine ⟨hphrase, List.flatMap_eq_nil_iff.2 fun t ht => ?_⟩
  exact Script.mentions_numeral (htokens t ht) (by decide)

theorem mentions_arguments {start : Code} {arguments : List Code} {names : List (List Char)}
    (hstart : IsPlain start) (h : Phrases arguments names) :
    Mentions (start ++ (Code.joined ", " arguments ++ (")" : Code))) names := by
  have hcomma : Code.IsSeparator (Script.mentions true pythonNames) Text.shown (", " : Code) :=
    ⟨⟨_, _, _, rfl, rfl, by decide⟩, rfl, rfl⟩
  have hend : Mentions (")" : Code) [] := ⟨rfl, rfl⟩
  have hall := hstart.2.append (.inl hstart.1)
    ((h.joined hcomma).append (.inr ⟨_, _, _, rfl, rfl, by decide⟩) hend)
  simpa only [List.nil_append, List.append_nil] using hall

theorem mentions_part (p : Part) : Mentions (part p) [] := by
  have hfilename : Mentions (filename p) [] := by
    unfold filename
    split <;> exact ⟨rfl, rfl⟩
  have hcontent : Mentions (content p) [] := by
    unfold content
    split
    · rename_i value _
      cases value <;> exact ⟨rfl, rfl⟩
    · exact ⟨rfl, rfl⟩
    · rename_i path _
      cases path <;> exact ⟨rfl, rfl⟩
  have htype : Phrases (Code.literal? (filled? p.contentType)) [] := by
    unfold Code.literal?
    cases filled? p.contentType with
    | none => exact .nil
    | some type => exact .singleton (mentions_lit type)
  have hstart : IsPlain [.code "", .code "("] := ⟨rfl, rfl, rfl⟩
  have hall := mentions_arguments hstart (.append (.cons hfilename (.singleton hcontent)) htype)
  simpa [part, Code.call] using hall

theorem mentions_literals (items : List (String × String)) :
    ∀ item ∈ literals items, Mentions item.2 [] :=
  List.forall_mem_map.2 fun item _ => mentions_lit item.2

end Values

section Blocks

theorem mentions_table (h : ∀ item ∈ items, Mentions item.2 []) (hname : name ∈ tableNames) :
    Mentions (table name items) [] := by
  obtain ⟨hdict, hpairs⟩ := isPlain_table h hname
  unfold table
  split
  · exact hdict.2
  · exact hpairs.2

def dataNames : Data → List (List Char)
  | .input => ["sys".toList]
  | _ => []

theorem phrases_dataBlock (d : Data) : Phrases (dataBlock d) (dataNames d) := by
  cases d with
  | none | upload => exact .nil
  | form fields =>
    exact .singleton (mentions_table (mentions_literals fields) (by simp [tableNames]))
  | text text =>
    have htext : Mentions ("data = " ++ lit text) [] := ⟨rfl, rfl⟩
    exact .singleton htext
  | input =>
    have hinput : Mentions "data = sys.stdin.buffer.read()" ["sys".toList] := ⟨rfl, rfl⟩
    exact .singleton hinput
  | file path =>
    have hfile : Mentions ("with " ++ openFile path ++ " as f:\n    data = f.read()") [] :=
      ⟨rfl, rfl⟩
    exact .singleton hfile
  | parts parts =>
    refine .singleton (mentions_table (List.forall_mem_map.2 fun p _ => mentions_part p) ?_)
    simp [tableNames]

def authNames : Auth → List (List Char)
  | .digest _ _ => ["HTTPDigestAuth".toList]
  | _ => []

theorem phrases_dataArgument (d : Data) : Phrases (dataArgument d) [] := by
  have hdata : Mentions "data=data" [] := ⟨rfl, rfl⟩
  have hfiles : Mentions "files=files" [] := ⟨rfl, rfl⟩
  have hopen (path : String) : Mentions ("data=" ++ openFile path) [] := ⟨rfl, rfl⟩
  cases d with
  | none => exact .nil
  | upload path => exact .singleton (hopen path)
  | parts parts => exact .singleton hfiles
  | form | text | input | file => exact .singleton hdata

theorem phrases_authArgument (r : Request) : Phrases (authArgument r) (authNames r.auth) := by
  have hbasic (user password : String) :
      Mentions ("auth=" ++ Code.call "" [lit user, lit password]) [] := ⟨rfl, rfl⟩
  have hdigest (user password : String) : Mentions ("auth=" ++
      Code.call "HTTPDigestAuth" [lit user, lit password]) ["HTTPDigestAuth".toList] := ⟨rfl, rfl⟩
  unfold authArgument
  cases r.auth with
  | none | bearer => exact .nil
  | basic user password => exact .singleton (hbasic user password)
  | digest user password => exact .singleton (hdigest user password)

theorem phrases_certArgument (r : Request) : Phrases (certArgument r) [] := by
  have hpair (cert key : String) : Mentions ("cert=" ++ Code.call "" [lit cert, lit key]) [] :=
    ⟨rfl, rfl⟩
  have hcert (cert : String) : Mentions ("cert=" ++ lit cert) [] := ⟨rfl, rfl⟩
  unfold certArgument
  split
  · exact .singleton (hpair _ _)
  · exact .singleton (hcert _)
  · exact .nil

theorem phrases_verifyArgument (r : Request) : Phrases (verifyArgument r) [] := by
  have hfalse : Mentions "verify=False" [] := ⟨rfl, rfl⟩
  have hverify (path : String) : Mentions ("verify=" ++ lit path) [] := ⟨rfl, rfl⟩
  unfold verifyArgument
  split
  · exact .singleton hfalse
  · split
    · exact .singleton (hverify _)
    · exact .nil

theorem phrases_timeoutArgument (r : Request) : Phrases (timeoutArgument r) [] := by
  have hpair : Mentions "timeout=(" [] := ⟨rfl, rfl⟩
  have hcomma : Mentions ", " [] := ⟨rfl, rfl⟩
  have hend : Mentions ")" [] := ⟨rfl, rfl⟩
  have hnone : Mentions ", None)" [] := ⟨rfl, rfl⟩
  have hone : Mentions "timeout=" [] := ⟨rfl, rfl⟩
  unfold timeoutArgument
  split
  · rename_i c t _ _
    have hsep : Separates (", " : Code) := ⟨_, _, _, rfl, rfl, by decide⟩
    have hfirst := hpair.append (.inl rfl) (mentions_text c)
    have hclosed := Code.isClosed_append (.inr ⟨hfirst.isPhrase, hsep⟩)
      (rfl : IsClosed Text.shown (", " : Code))
    exact .singleton (((hfirst.append (.inr hsep) hcomma).append (.inl hclosed)
      (mentions_text t)).append (.inr ⟨_, _, _, rfl, rfl, by decide⟩) hend)
  · rename_i c _ _
    exact .singleton ((hpair.append (.inl rfl) (mentions_text c)).append
      (.inr ⟨_, _, _, rfl, rfl, by decide⟩) hnone)
  · rename_i t _ _
    exact .singleton (hone.append (.inl rfl) (mentions_text t))
  · exact .nil

theorem phrases_arguments (r : Request) : Phrases (arguments r) (authNames r.auth) := by
  have hcookies : Mentions "cookies=cookies" [] := ⟨rfl, rfl⟩
  have hheaders : Mentions "headers=headers" [] := ⟨rfl, rfl⟩
  have hproxies : Mentions "proxies=proxies" [] := ⟨rfl, rfl⟩
  have hredirects : Mentions "allow_redirects=True" [] := ⟨rfl, rfl⟩
  have hall := (((((((((Script.Phrases.singleton (mentions_lit r.url)).append
    (.of_wanted (r.cookies ≠ []) hcookies)).append (.of_wanted (headers r ≠ []) hheaders)).append
    (phrases_dataArgument (data r))).append (phrases_authArgument r)).append
    (.of_wanted (proxyUrl? r).isSome hproxies)).append (phrases_certArgument r)).append
    (phrases_verifyArgument r)).append (phrases_timeoutArgument r)).append
    (.of_wanted (r.followRedirects && r.method.name = "HEAD") hredirects)
  simp only [ite_self, List.nil_append, List.append_nil] at hall
  exact hall

theorem isPlain_function (r : Request) : IsPlain ("response = " ++ function r) := by
  have hlower : ∀ name ∈ shortcuts, Text.lower name ∈
      ["get", "post", "put", "delete", "head", "patch", "options"] := by decide +kernel
  have hshortcut : ∀ name ∈ ["get", "post", "put", "delete", "head", "patch", "options"],
      IsPlain ("response = " ++ ("requests." ++ name ++ "(" : Code)) := by
    simp only [List.forall_mem_cons]
    exact ⟨⟨rfl, rfl, rfl⟩, ⟨rfl, rfl, rfl⟩, ⟨rfl, rfl, rfl⟩, ⟨rfl, rfl, rfl⟩, ⟨rfl, rfl, rfl⟩,
      ⟨rfl, rfl, rfl⟩, ⟨rfl, rfl, rfl⟩, List.forall_mem_nil _⟩
  unfold function
  split
  · rename_i hname
    exact hshortcut _ (hlower _ (List.contains_iff_mem.1 hname))
  · exact ⟨rfl, rfl, rfl⟩

theorem mentions_call (r : Request) : Mentions (call r) (authNames r.auth) := by
  have hall := mentions_arguments (isPlain_function r) (phrases_arguments r)
  simpa [call] using hall

def blocks (r : Request) : List Code :=
  Code.when (r.cookies ≠ []) (dict "cookies" (literals r.cookies))
    ++ Code.when (headers r ≠ []) (dict "headers" (literals (headers r)))
    ++ dataBlock (data r) ++ (proxyUrl? r).toList.map proxies ++ [call r]

theorem phrases_blocks (r : Request) :
    Phrases (blocks r) (dataNames (data r) ++ authNames r.auth) := by
  have hcookies : Mentions (dict "cookies" (literals r.cookies)) [] :=
    (isPlain_table (mentions_literals _) (by simp [tableNames])).1.2
  have hheaders : Mentions (dict "headers" (literals (headers r))) [] :=
    (isPlain_table (mentions_literals _) (by simp [tableNames])).1.2
  have hproxies : Phrases ((proxyUrl? r).toList.map proxies) [] := by
    cases proxyUrl? r with
    | none => exact .nil
    | some url =>
      exact .singleton (isPlain_table (mentions_literals _) (by simp [tableNames])).1.2
  have hall := ((((Script.Phrases.of_wanted (r.cookies ≠ []) hcookies).append
    (.of_wanted (headers r ≠ []) hheaders)).append (phrases_dataBlock (data r))).append
    hproxies).append (.singleton (mentions_call r))
  simp only [ite_self, List.nil_append, List.append_nil] at hall
  exact hall

end Blocks

section Imports

def importLines (r : Request) : List Code :=
  Code.when (data r matches .input) "import sys" ++ Code.when true "import requests"
    ++ Code.when (r.auth matches .digest _ _) "from requests.auth import HTTPDigestAuth"

theorem imports_importLines (r : Request) : Script.Imports Text.shown (importLines r)
    (dataNames (data r) ++ ["requests".toList] ++ authNames r.auth) := by
  have hsys : Script.Imports Text.shown ["import sys"] ["sys".toList] := by decide +kernel
  have hrequests : Script.Imports Text.shown ["import requests"] ["requests".toList] := by
    decide +kernel
  have hdigest : Script.Imports Text.shown ["from requests.auth import HTTPDigestAuth"]
      ["HTTPDigestAuth".toList] := by decide +kernel
  have hnone : Script.Imports Text.shown [] [] := ⟨List.forall_mem_nil _, rfl⟩
  unfold importLines
  refine .append (.append ?_ hrequests) ?_
  · cases data r with
    | input => exact hsys
    | none | upload | form | text | file | parts => exact hnone
  · cases r.auth with
    | digest user password => exact hdigest
    | none | basic | bearer => exact hnone

theorem importsUsed (r : Request) :
    Script.ImportsUsed true pythonNames ((code r).text Text.shown) := by
  have hplain : "import".toList ∉ dataNames (data r) ++ authNames r.auth := by
    intro hmem
    rcases List.mem_append.1 hmem with hmem | hmem
    · unfold dataNames at hmem
      split at hmem
      · revert hmem
        decide
      · cases hmem
    · unfold authNames at hmem
      split at hmem
      · revert hmem
        decide
      · cases hmem
  have hnames (x : List Char) (hx : x ∈ pythonNames) :
      x ∈ dataNames (data r) ++ ["requests".toList] ++ authNames r.auth ↔
        x ∈ dataNames (data r) ++ authNames r.auth := by
    have hne : x ∉ ["requests".toList] := by
      have hother : ∀ x ∈ pythonNames, x ∉ ["requests".toList] := by decide
      exact hother x hx
    simp only [List.mem_append, hne, or_false]
  refine Script.importsUsed_blocks (by decide) delimits_shown (imports_importLines r) ?_
    (phrases_blocks r) ?_ hplain hnames
  · simp [Code.when]
  · simp

end Imports

end CurlScribe.RequestsScript
