import CurlScribe.Proofs.Target.GoLines

namespace CurlScribe.GoProgram

open Token
open Code (lit IsLine)

variable {r : Request} {ms : Option Int} {p : Part} {parts : List Part} {path : String} {n : Nat}

section Expressions

theorem isValue_parse (s : String) : IsValue (Code.call "url.Parse" [lit s]) ["url".toList] :=
  ⟨⟨rfl, rfl⟩, rfl, fun _ => rfl⟩

theorem isValue_open (path : String) : IsValue (Code.call "os.Open" [lit path]) ["os".toList] :=
  ⟨⟨rfl, rfl⟩, rfl, fun _ => rfl⟩

theorem isValue_readFile (path : Option String) :
    IsValue (Code.call "os.ReadFile" [Code.orNull "null" path]) ["os".toList] := by
  cases path <;> exact ⟨⟨rfl, rfl⟩, rfl, fun _ => rfl⟩

theorem isValue_createFormFile (name filename : String) :
    IsValue (Code.call "writer.CreateFormFile" [lit name, lit filename]) ["writer".toList] :=
  ⟨⟨rfl, rfl⟩, rfl, fun _ => rfl⟩

theorem isValue_writeField (name : String) (value : Option String) :
    IsValue (Code.call "writer.WriteField" [lit name, Code.orNull "null" value])
      ["writer".toList] := by
  cases value <;> exact ⟨⟨rfl, rfl⟩, rfl, fun _ => rfl⟩

theorem isValue_newRequest (method url : String) (c : Content) :
    IsValue (Code.call "http.NewRequest" [lit method, lit url, reader c]) ["http".toList] := by
  cases c <;> exact ⟨⟨rfl, rfl⟩, rfl, fun _ => rfl⟩

theorem isValue_do : IsValue "client.Do(req)" ["client".toList] :=
  ⟨⟨rfl, rfl⟩, rfl, fun _ => rfl⟩

theorem isValue_readAll : IsValue "io.ReadAll(resp.Body)" ["io".toList, "resp".toList] :=
  ⟨⟨rfl, rfl⟩, rfl, fun _ => rfl⟩

theorem read_number (before : List Char) (n : Nat) (rest : Code) :
    Token.read (Json.quoted false) (.word before) (.code (toString n) :: rest) =
      Token.read (Json.quoted false) (.word ((toString n).toList.reverse ++ before)) rest := by
  rw [Token.read, readFragment, Code.scan_word Code.isWordText_toString]
  rfl

theorem isValue_of_tokens {value : Code} {ts : List Token} {qualifiers : List (List Char)}
    (hread : Token.read (Json.quoted false) .between value = (ts, .between))
    (hfree : ts.contains newline = false) (hmentions : ts.filterMap qualifier? = qualifiers)
    (hbraces : ∀ scopes, ts.foldl brace scopes = scopes) : IsValue value qualifiers := by
  have htokens : tokens value = ts := by
    rw [tokens, Code.tokens, hread]
    exact List.append_nil ts
  refine ⟨⟨?_, ?_⟩, ?_, ?_⟩
  · rw [hread]
    rfl
  · rw [← tokens, htokens, hfree]
  · rw [htokens, hmentions]
  · rw [htokens]
    exact hbraces

theorem qualifier?_number (base : List Char) (h : '.' ∉ base) (n : Nat) :
    qualifier? (.word (((toString n).toList.reverse ++ base).reverse)) = none := by
  have hplain : '.' ∉ ((toString n).toList.reverse ++ base).reverse := by
    simp only [List.mem_reverse, List.mem_append, not_or]
    exact ⟨fun hmem => absurd (Code.isDigit_of_mem_toString hmem) (by decide), h⟩
  rw [qualifier?, Text.splitList_of_not_mem hplain]

theorem isValue_writeNumbered (name : String) (n : Nat) :
    IsValue (Code.call "writer.WriteField" [lit name, "string(content" ++ toString n ++ ")"])
      ["writer".toList] := by
  have hstart (c : Code) : Token.read (Json.quoted false) .between
      (.code "writer.WriteField" :: .code "(" :: .literal name :: .code ", " ::
        .code "string(content" :: c) =
      ([.word "writer.WriteField".toList, .mark '(', .literal (Json.quoted false name).toList,
        .mark ',', .word "string".toList, .mark '('] ++
          (Token.read (Json.quoted false) (.word "tnetnoc".toList) c).1,
        (Token.read (Json.quoted false) (.word "tnetnoc".toList) c).2) := rfl
  have hend (w : List Char) : Token.read (Json.quoted false) (.word w) [.code ")", .code ")"] =
      ([.word w.reverse, .mark ')', .mark ')'], .between) := rfl
  have hread := hstart [.code (toString n), .code ")", .code ")"]
  rw [read_number, hend] at hread
  refine isValue_of_tokens hread rfl ?_ fun _ => rfl
  have hnumber := qualifier?_number "tnetnoc".toList (by decide) n
  simp only [List.filterMap_append, List.filterMap_cons, hnumber]
  rfl

theorem isValue_copy (n : Nat) :
    IsValue (Code.call "io.Copy" ["part" ++ toString n, "file" ++ toString n]) ["io".toList] := by
  have hstart (c : Code) : Token.read (Json.quoted false) .between
      (.code "io.Copy" :: .code "(" :: .code "part" :: c) =
      ([.word "io.Copy".toList, .mark '('] ++
          (Token.read (Json.quoted false) (.word "trap".toList) c).1,
        (Token.read (Json.quoted false) (.word "trap".toList) c).2) := rfl
  have hmiddle (w : List Char) (c : Code) : Token.read (Json.quoted false) (.word w)
      (.code ", " :: .code "file" :: c) =
      ([.word w.reverse, .mark ','] ++
          (Token.read (Json.quoted false) (.word "elif".toList) c).1,
        (Token.read (Json.quoted false) (.word "elif".toList) c).2) := rfl
  have hend (w : List Char) : Token.read (Json.quoted false) (.word w) [.code ")"] =
      ([.word w.reverse, .mark ')'], .between) := rfl
  have hread := hstart [.code (toString n), .code ", ", .code "file", .code (toString n), .code ")"]
  rw [read_number, hmiddle, read_number, hend] at hread
  refine isValue_of_tokens hread rfl ?_ fun _ => rfl
  have hpart := qualifier?_number "trap".toList (by decide) n
  have hfile := qualifier?_number "elif".toList (by decide) n
  simp only [List.filterMap_append, List.filterMap_cons, hpart, hfile]
  rfl

end Expressions

section Names

theorem isName_data : IsName "data" := ⟨by decide, by decide, by decide⟩

theorem isName_req : IsName "req" := ⟨by decide, by decide, by decide⟩

theorem isName_content (n : Nat) : IsName ("content" ++ toString n) :=
  isName_numbered (by decide) (by decide) (by decide) n

theorem isName_part (n : Nat) : IsName ("part" ++ toString n) :=
  isName_numbered (by decide) (by decide) (by decide) n

theorem isName_file (n : Nat) : IsName ("file" ++ toString n) :=
  isName_numbered (by decide) (by decide) (by decide) n

def digits (name : List Char) : List Char := (name.reverse.takeWhile Char.isDigit).reverse

theorem digits_numbered {base : String} (h : base.toList.getLast?.any Char.isDigit = false)
    (n : Nat) : digits (base ++ toString n).toList = (toString n).toList := by
  have hnumber : ∀ c ∈ (toString n).toList.reverse, c.isDigit = true := fun c hc =>
    Code.isDigit_of_mem_toString (List.mem_reverse.1 hc)
  rw [digits, String.toList_append, List.reverse_append, List.takeWhile_append_of_pos hnumber]
  rw [← List.head?_reverse] at h
  cases hbase : base.toList.reverse with
  | nil => simp
  | cons c rest =>
    rw [hbase] at h
    have hc : ¬ c.isDigit = true := by simpa using h
    rw [List.takeWhile_cons_of_neg hc, List.append_nil, List.reverse_reverse]

theorem toString_ne {m n : Nat} (h : m ≠ n) : (toString m).toList ≠ (toString n).toList := by
  intro heq
  have hvalue : Numeral.value (Nat.toDigits 10 m) = Numeral.value (Nat.toDigits 10 n) :=
    congrArg Numeral.value (Nat.toList_repr.symm.trans (heq.trans Nat.toList_repr))
  rw [Numeral.value_toDigits, Numeral.value_toDigits] at hvalue
  exact h hvalue

end Names

section Parts

def openQualifiers (name path : String) : List (List Char) :=
  if path = "-" then ["os".toList] else ["os".toList, "log".toList, name.toList]

def partQualifiers (p : Part) (n : Nat) : List (List Char) :=
  match p.source with
  | .text _ => ["writer".toList, "log".toList]
  | .contents _ => ["os".toList, "log".toList, "writer".toList, "log".toList]
  | .upload path => ["writer".toList, "log".toList] ++ openQualifiers ("file" ++ toString n) path
      ++ ["io".toList, "log".toList]

def partLocals (p : Part) (n : Nat) : List (List Char) :=
  match p.source with
  | .text _ => []
  | .contents _ => [("content" ++ toString n).toList]
  | .upload _ => [("part" ++ toString n).toList, ("file" ++ toString n).toList]

theorem digits_partLocals {x : List Char} (h : x ∈ partLocals p n) :
    digits x = (toString n).toList := by
  unfold partLocals at h
  split at h
  · cases h
  · rw [List.mem_singleton.1 h]
    exact digits_numbered (by decide) n
  · rcases List.mem_cons.1 h with rfl | h
    · exact digits_numbered (by decide) n
    · rw [List.mem_singleton.1 h]
      exact digits_numbered (by decide) n

theorem block_openLines {name : String} (h : IsName name) (path : String) :
    Block (openLines name path) (openQualifiers name path) [name.toList] := by
  unfold openLines openQualifiers
  split
  · exact block_stdin h
  · exact (block_step h (isValue_open path)).append (block_close h) (by simp) (by simp)

theorem block_part (p : Part) (n : Nat) :
    Block (partLines p n) (partQualifiers p n) (partLocals p n) := by
  unfold partLines partQualifiers partLocals
  cases p.source with
  | text value => exact block_guarded (.inl rfl) (isValue_writeField p.name value)
  | contents path =>
    exact (block_step (isName_content n) (isValue_readFile path)).append
      (block_guarded (.inl rfl) (isValue_writeNumbered p.name n)) (by simp) (by simp)
  | upload path =>
    have hpart := block_step (isName_part n)
      (isValue_createFormFile p.name ((filled? p.filename).getD (baseName path)))
    have hcopy := block_guarded (.inr rfl) (isValue_copy n)
    refine (hpart.append (block_openLines (isName_file n) path) ?_ ?_).append hcopy ?_ ?_
    · simp
    · simp
    · simp
    · simp

theorem block_parts (ps : List Part) (n : Nat) :
    Block ((ps.zipIdx n).flatMap fun (p, n) => partLines p n)
      ((ps.zipIdx n).flatMap fun (p, n) => partQualifiers p n)
      ((ps.zipIdx n).flatMap fun (p, n) => partLocals p n) := by
  induction ps generalizing n with
  | nil => exact .nil
  | cons p ps ih =>
    have hlater : ∀ x ∈ (ps.zipIdx (n + 1)).flatMap fun (p, n) => partLocals p n,
        ∃ m, n < m ∧ digits x = (toString m).toList := by
      intro x hx
      obtain ⟨⟨q, m⟩, hq, hx⟩ := List.mem_flatMap.1 hx
      exact ⟨m, List.le_snd_of_mem_zipIdx hq, digits_partLocals hx⟩
    refine (block_part p n).append (ih (n + 1)) (fun x hx hmem => ?_) fun herr => ?_
    · obtain ⟨m, hm, hdigits⟩ := hlater x hx
      exact toString_ne hm.ne' (hdigits.symm.trans (digits_partLocals hmem))
    · obtain ⟨m, -, hdigits⟩ := hlater _ herr
      have hnone : digits "err".toList = [] := by decide
      rw [hnone] at hdigits
      simp at hdigits

end Parts

section Client

theorem exists_tokens_int (k : Int) : ∃ sign digits,
    (sign = [] ∨ sign = [Token.mark '-']) ∧ qualifier? (.word digits) = none ∧
    Code.IsPhrase (Json.quoted false) (toString k : String) ∧
    tokens (toString k : String) = sign ++ [.word digits] := by
  have hscan (n : Nat) : scan .between (toString n).toList =
      ([], .word (toString n).toList.reverse) :=
    Code.scan_between_word Code.isWordText_toString (by simp [Nat.toDigits_ne_nil])
  have hplain (n : Nat) : qualifier? (.word (toString n).toList.reverse.reverse) = none := by
    have hdot : '.' ∉ (toString n).toList.reverse.reverse := fun hmem =>
      absurd (Code.isDigit_of_mem_toString (by simpa using hmem)) (by decide)
    rw [qualifier?, Text.splitList_of_not_mem hdot]
  have hread (s : String) : Token.read (Json.quoted false) .between (s : Code) =
      scan .between s.toList := by
    simp [Token.read, readFragment]
  cases k with
  | ofNat n =>
    have hnumber : Token.read (Json.quoted false) .between (toString (Int.ofNat n) : String) =
        ([], .word (toString n).toList.reverse) := (hread _).trans (hscan n)
    refine ⟨[], _, .inl rfl, hplain n, ?_, ?_⟩
    · rw [Code.IsPhrase, hnumber]
      rfl
    · rw [tokens, Code.tokens, hnumber]
      rfl
  | negSucc n =>
    have hnumber : Token.read (Json.quoted false) .between (toString (Int.negSucc n) : String) =
        ([.mark '-'], .word (toString (n + 1)).toList.reverse) := by
      have htext : (toString (Int.negSucc n)).toList = ['-'] ++ (toString (n + 1)).toList :=
        String.toList_append
      have hsign : scan .between ['-'] = ([.mark '-'], .between) := rfl
      rw [hread, htext, scan_append, hsign, hscan]
      rfl
    refine ⟨[.mark '-'], _, .inr rfl, hplain (n + 1), ?_, ?_⟩
    · rw [Code.IsPhrase, hnumber]
      rfl
    · rw [tokens, Code.tokens, hnumber]
      rfl

def transportQualifiers (r : Request) : List (List Char) :=
  if transportFields r = [] then []
  else
    ["http".toList] ++ (if r.tls.insecure then ["tls".toList] else [])
      ++ (if r.proxy.isSome then ["http".toList] else [])

def clientQualifiers (r : Request) (ms : Option Int) : List (List Char) :=
  (if r.proxy.isSome then ["url".toList, "log".toList] else []) ++ transportQualifiers r
    ++ "http".toList :: if ms.isSome then ["time".toList] else []

def clientLocals (r : Request) : List (List Char) :=
  (if r.proxy.isSome then ["proxyURL".toList] else [])
    ++ (if transportFields r = [] then [] else ["transport".toList]) ++ ["client".toList]

theorem block_proxyLines (r : Request) : Block (proxyLines r)
    (if r.proxy.isSome then ["url".toList, "log".toList] else [])
    (if r.proxy.isSome then ["proxyURL".toList] else []) := by
  unfold proxyLines
  cases r.proxy with
  | none => exact .nil
  | some proxy => exact block_step ⟨by decide, by decide, by decide⟩ (isValue_parse _)

theorem block_transportLines (r : Request) : Block (transportLines r) (transportQualifiers r)
    (if transportFields r = [] then [] else ["transport".toList]) := by
  unfold transportLines transportQualifiers transportFields
  generalize r.tls.insecure = insecure, r.proxy.isSome = proxied
  cases insecure <;> cases proxied
  · exact .nil
  all_goals
    refine Block.define (by decide +kernel) rfl rfl (by decide) (List.forall_mem_nil _)
      (fun _ _ => rfl) fun _ _ => rfl

theorem block_timed {before : Code}
    (hbefore : before = ([.code "\tclient := &http.Client\x7b", .code "Timeout: "] : Code) ∨
      before = ([.code "\tclient := &http.Client\x7b", .code "Transport: transport", .code ", ",
        .code "Timeout: "] : Code)) (k : Int) :
    Block [before ++ ((toString k : String) ++
        ([.code " * time.Millisecond", .code "\x7d"] : Code))]
      ["http".toList, "time".toList] ["client".toList] := by
  obtain ⟨sign, digits, hsign, hdigits, hphrase, hnumber⟩ := exists_tokens_int k
  have hclosed : Code.IsClosed (Json.quoted false) before := by
    rcases hbefore with rfl | rfl <;> rfl
  have hseparates :
      Code.Separates ([.code " * time.Millisecond", .code "\x7d"] : Code) :=
    ⟨_, _, _, rfl, rfl, by decide⟩
  have htokens := (Code.tokens_append (.inl hclosed)).trans
    (congrArg (tokens before ++ ·) (Code.tokens_append (.inr ⟨hphrase, hseparates⟩)))
  have hline : IsLine (Json.quoted false) (before ++ ((toString k : String) ++
      ([.code " * time.Millisecond", .code "\x7d"] : Code))) := by
    refine Code.isLine_append (.inl hclosed) ?_
      (Code.isLine_append (.inr ⟨hphrase, hseparates⟩) ?_ ⟨rfl, rfl⟩)
    · rcases hbefore with rfl | rfl <;> rfl
    · rw [← tokens, hnumber]
      rcases hsign with rfl | rfl <;> rfl
  generalize hc : before ++ ((toString k : String) ++
    ([.code " * time.Millisecond", .code "\x7d"] : Code)) = c at htokens hline ⊢
  change tokens c = tokens before ++ (tokens _ ++ _) at htokens
  rw [hnumber] at htokens
  refine Block.define (List.forall_mem_singleton.2 hline) ?_ ?_ (by decide)
    (List.forall_mem_nil _) (fun scope outer => ?_) fun scope outer => ?_
  · rw [List.map_singleton, List.flatMap_singleton, htokens]
    simp only [List.filterMap_append, List.filterMap_cons, hdigits]
    rcases hbefore with rfl | rfl <;> rcases hsign with rfl | rfl <;> rfl
  · rw [List.map_singleton, List.flatMap_singleton, htokens]
    rcases hbefore with rfl | rfl <;> rfl
  · rw [htokens]
    rcases hbefore with rfl | rfl <;> rfl
  · rw [htokens]
    rcases hbefore with rfl | rfl <;> rcases hsign with rfl | rfl <;> rfl

theorem block_client (r : Request) (ms : Option Int) :
    Block ["\tclient := &http.Client\x7b" ++ Code.joined ", " (clientFields r ms) ++ "\x7d"]
      ("http".toList :: if ms.isSome then ["time".toList] else []) ["client".toList] := by
  unfold clientFields
  generalize decide (transportFields r ≠ []) = transported
  rcases ms with - | k
  · cases transported <;>
      exact Block.define (by decide +kernel) rfl rfl (by decide) (List.forall_mem_nil _)
        (fun _ _ => rfl) fun _ _ => rfl
  · cases transported
    · exact block_timed (.inl rfl) k
    · exact block_timed (.inr rfl) k

theorem block_clientLines (r : Request) (ms : Option Int) :
    Block (clientLines r ms) (clientQualifiers r ms) (clientLocals r) := by
  have hproxy := block_proxyLines r
  have htransport := block_transportLines r
  have hclient := block_client r ms
  refine (hproxy.append htransport ?_ ?_).append hclient ?_ ?_
  · split <;> split <;> decide
  · split <;> decide
  · split <;> split <;> decide
  · decide

end Client

section Body

def contentQualifiers : Content → List (List Char)
  | .none => []
  | .file path => openQualifiers "data" path
  | .text _ => ["strings".toList]
  | .form parts => ["bytes".toList] ++ ["multipart".toList]
      ++ (parts.zipIdx.flatMap fun (p, n) => partQualifiers p n) ++ ["writer".toList]

def contentLocals : Content → List (List Char)
  | .none => []
  | .file _ => ["data".toList]
  | .text _ => ["data".toList]
  | .form parts => ["form".toList] ++ ["writer".toList]
      ++ (parts.zipIdx.flatMap fun (p, n) => partLocals p n)

theorem digits_ne_nil {x : List Char}
    (h : x ∈ parts.zipIdx.flatMap fun (p, n) => partLocals p n) : digits x ≠ [] := by
  obtain ⟨⟨q, m⟩, -, hx⟩ := List.mem_flatMap.1 h
  rw [digits_partLocals hx]
  simp [Nat.toDigits_ne_nil]

theorem block_text (text : String) :
    Block ["\tvar data = " ++ Code.call "strings.NewReader" [lit text]] ["strings".toList]
      ["data".toList] where
  isLine := List.forall_mem_singleton.2 ⟨rfl, rfl⟩
  mentions := rfl
  of_declared := List.forall_mem_singleton.2 (.inl (List.mem_singleton_self _))
  declares := List.forall_mem_singleton.2 (List.mem_singleton_self _)
  runs := fun scope outer _ => ⟨"data".toList :: scope, rfl, fun x hx => by
    rcases List.mem_cons.1 hx with rfl | hx
    · exact .inr (.inl (List.mem_singleton_self _))
    · exact .inl hx⟩

theorem block_contentLines (c : Content) :
    Block (contentLines c) (contentQualifiers c) (contentLocals c) := by
  cases c with
  | none => exact .nil
  | file path => exact block_openLines isName_data path
  | text text => exact block_text text
  | form parts =>
    have hform : Block ["\tform := new(bytes.Buffer)"] ["bytes".toList] ["form".toList] :=
      .define (by decide +kernel) rfl rfl (by decide) (List.forall_mem_nil _) (fun _ _ => rfl)
        fun _ _ => rfl
    have hwriter : Block ["\twriter := multipart.NewWriter(form)"] ["multipart".toList]
        ["writer".toList] :=
      .define (by decide +kernel) rfl rfl (by decide) (List.forall_mem_nil _) (fun _ _ => rfl)
        fun _ _ => rfl
    have hclose : Block ["\twriter.Close()"] ["writer".toList] [] :=
      .singleton (by decide +kernel) rfl rfl fun _ _ => rfl
    have hall := ((hform.append hwriter (by decide) (by decide)).append (block_parts parts 0)
      (fun x hx hmem => ?_) fun herr => ?_).append hclose (by simp) (by simp)
    · simp only [List.append_nil] at hall
      exact hall
    · have hdigits : ∀ x ∈ ["form".toList] ++ ["writer".toList], digits x = [] := by decide
      exact digits_ne_nil hx (hdigits x hmem)
    · exact digits_ne_nil herr (by decide)

end Body

section Request

theorem value?_quoted (s : String) : value? (Json.quoted false s).toList = some s := by
  have hread : readQuoted .refused ((Json.quoted false s).toList ++ []) = some (s.toList, []) :=
    readQuoted_of_ascii (fun h => by cases h) s []
  rw [List.append_nil] at hread
  rw [value?, hread]
  exact congrArg some String.ofList_toList

theorem headerStatement?_headerLine (statement : HeaderStatement) :
    headerStatement? (tokens (headerLine statement)) = some statement := by
  have hread (put : Bool) (name value : String) : headerStatement? (tokens (headerLine
      (if put then .replace name value else .append name value))) =
      (value? (Json.quoted false name).toList).bind fun name =>
        (value? (Json.quoted false value).toList).bind fun value =>
          some (if put then .replace name value else .append name value) := by
    cases put <;> rfl
  cases statement with
  | replace name value =>
    have hread := hread true name value
    rwa [value?_quoted, value?_quoted] at hread
  | append name value =>
    have hread := hread false name value
    rwa [value?_quoted, value?_quoted] at hread

theorem block_headerLine (statement : HeaderStatement) :
    Block [headerLine statement] ["req".toList] [] := by
  cases statement <;> exact .singleton ⟨rfl, rfl⟩ rfl rfl fun _ _ => rfl

theorem block_headerLines (statements : List HeaderStatement) :
    Block (statements.map headerLine) (statements.map fun _ => "req".toList) [] := by
  induction statements with
  | nil => exact .nil
  | cons statement statements ih =>
    exact (block_headerLine statement).append ih (by simp) (by simp)

def requestQualifiers (r : Request) : List (List Char) :=
  ["http".toList, "log".toList] ++ ((headers r).map fun _ => "req".toList)
    ++ (if r.body matches .multipart _ then ["req".toList, "writer".toList] else [])
    ++ (if r.auth matches .basic _ _ then ["req".toList] else [])

theorem block_requestLines (r : Request) :
    Block (requestLines r) (requestQualifiers r) ["req".toList] := by
  have hmultipart (wanted : Bool) : Block
      (Code.when wanted "\treq.Header.Set(\"Content-Type\", writer.FormDataContentType())")
      (if wanted then ["req".toList, "writer".toList] else []) [] := by
    cases wanted
    · exact .nil
    · exact .singleton (by decide +kernel) rfl rfl fun _ _ => rfl
  have hauth : Block (authLines r) (if r.auth matches .basic _ _ then ["req".toList] else [])
      [] := by
    unfold authLines
    cases r.auth with
    | basic user password => exact .singleton ⟨rfl, rfl⟩ rfl rfl fun _ _ => rfl
    | _ => exact .nil
  have hall := (((block_step isName_req (isValue_newRequest r.method.name r.url (content r))).append
    (block_headerLines (headers r)) (by simp) (by simp)).append
    (hmultipart (r.body matches .multipart _)) (by simp) (by simp)).append hauth (by simp) (by simp)
  simp only [List.append_nil] at hall
  exact hall

theorem block_responseLines : Block responseLines
    ["client".toList, "log".toList, "resp".toList, "io".toList, "resp".toList, "log".toList,
      "fmt".toList] ["resp".toList, "bodyText".toList] := by
  have hresp : IsName "resp" := ⟨by decide, by decide, by decide⟩
  have hbody : IsName "bodyText" := ⟨by decide, by decide, by decide⟩
  have hclose : Block ["\tdefer resp.Body.Close()"] ["resp".toList] [] :=
    .singleton (by decide +kernel) rfl rfl fun _ _ => rfl
  have hprint : Block ["\tfmt.Printf(\"%s\\n\", bodyText)"] ["fmt".toList] [] :=
    .singleton (by decide +kernel) rfl rfl fun _ _ => rfl
  exact (((block_step hresp isValue_do).append hclose (by simp) (by simp)).append
    (block_step hbody isValue_readAll) (by decide) (by decide)).append hprint (by simp) (by simp)

end Request

section Program

def bodyLines (r : Request) (ms : Option Int) : List Code :=
  clientLines r ms ++ contentLines (content r) ++ requestLines r ++ responseLines

def bodyQualifiers (r : Request) (ms : Option Int) : List (List Char) :=
  clientQualifiers r ms ++ contentQualifiers (content r) ++ requestQualifiers r ++
    ["client".toList, "log".toList, "resp".toList, "io".toList, "resp".toList, "log".toList,
      "fmt".toList]

def bodyLocals (r : Request) : List (List Char) :=
  clientLocals r ++ contentLocals (content r) ++ ["req".toList]
    ++ ["resp".toList, "bodyText".toList]

theorem mem_clientLocals {x : List Char} (h : x ∈ clientLocals r) :
    x ∈ ["proxyURL".toList, "transport".toList, "client".toList] := by
  unfold clientLocals at h
  split at h <;> split at h <;> revert x <;> decide

theorem mem_contentLocals {c : Content} {x : List Char} (h : x ∈ contentLocals c) :
    x ∈ ["data".toList, "form".toList, "writer".toList] ∨ digits x ≠ [] := by
  cases c with
  | none => cases h
  | file path | text text =>
    rw [contentLocals, List.mem_singleton] at h
    exact .inl (by simp [h])
  | form parts =>
    have hfixed : ∀ x ∈ ["form".toList] ++ ["writer".toList],
        x ∈ ["data".toList, "form".toList, "writer".toList] := by decide
    exact (List.mem_append.1 h).imp (hfixed x) digits_ne_nil

theorem not_mem_contentLocals {c : Content} {x : List Char}
    (h : x ∉ ["data".toList, "form".toList, "writer".toList]) (hdigits : digits x = []) :
    x ∉ contentLocals c :=
  fun hmem => (mem_contentLocals hmem).elim h fun hne => hne hdigits

theorem block_body (r : Request) (ms : Option Int) :
    Block (bodyLines r ms) (bodyQualifiers r ms) (bodyLocals r) := by
  have hcontent (x : List Char) (hx : x ∈ clientLocals r) : x ∉ contentLocals (content r) := by
    have hclient : ∀ x ∈ ["proxyURL".toList, "transport".toList, "client".toList],
        x ∉ ["data".toList, "form".toList, "writer".toList] ∧ digits x = [] := by decide
    obtain ⟨hother, hdigits⟩ := hclient x (mem_clientLocals hx)
    exact not_mem_contentLocals hother hdigits
  have hlast : ∀ x ∈ ["req".toList, "resp".toList, "bodyText".toList, "err".toList],
      x ∉ clientLocals r ∧ x ∉ contentLocals (content r) := by
    intro x hx
    have hfree : ∀ x ∈ ["req".toList, "resp".toList, "bodyText".toList, "err".toList],
        x ∉ ["proxyURL".toList, "transport".toList, "client".toList] ∧
          x ∉ ["data".toList, "form".toList, "writer".toList] ∧ digits x = [] := by decide
    obtain ⟨hclient, hother, hdigits⟩ := hfree x hx
    exact ⟨mt mem_clientLocals hclient, not_mem_contentLocals hother hdigits⟩
  simp only [List.forall_mem_cons, List.not_mem_nil, false_implies, implies_true, and_true] at hlast
  obtain ⟨hreq, hresp, hbody, herr⟩ := hlast
  have hall := (((block_clientLines r ms).append (block_contentLines (content r))
    (fun x hx hmem => hcontent x hmem hx) herr.2).append (block_requestLines r)
    ?_ (by decide)).append block_responseLines ?_ (by decide)
  · exact hall
  · simp only [List.forall_mem_singleton, List.mem_append, not_or]
    exact hreq
  · simp only [List.forall_mem_cons, List.mem_append, not_or]
    exact ⟨⟨hresp, by decide⟩, ⟨hbody, by decide⟩, List.forall_mem_nil _⟩

end Program

end CurlScribe.GoProgram
