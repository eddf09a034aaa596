import CurlScribe.Proofs.Target.Reading
import CurlScribe.Proofs.Text.Cut
import CurlScribe.Target.GoProgram

/-!
What a Go program says, line by line: the packages it imports, the dotted names in it, the locals
that it declares in each scope, and the headers that it puts into the request.
-/

namespace CurlScribe.GoProgram

open Token
open Code (lit IsLine)

abbrev Scope := List (List Char)

section Reading

def value? (written : List Char) : Option String :=
  match readQuoted .refused written with
  | some (s, []) => some (.ofList s)
  | _ => none

def headerStatement? : List Token → Option HeaderStatement
  | [.word function, .mark '(', .literal name, .mark ',', .literal value, .mark ')'] => do
    let name ← value? name
    let value ← value? value
    if function = "req.Header.Set".toList then some (.replace name value)
    else if function = "req.Header.Add".toList then some (.append name value)
    else none
  | _ => none

def package? : List Token → Option (List Char)
  | [.literal path] => (Text.splitList '/' (path.drop 1).dropLast).getLast?
  | _ => none

def packages (lines : List (List Token)) : List (List Char) :=
  (((lines.dropWhile (· ≠ [.word "import".toList, .mark '('])).drop 1).takeWhile
    (· ≠ [.mark ')'])).filterMap package?

/-- What a dotted name starts with: a package or a variable. -/
def qualifier? : Token → Option (List Char)
  | .word name | .label name =>
    match Text.splitList '.' name with
    | q :: _ :: _ => some q
    | _ => none
  | _ => none

def targets? : List Token → Option (List (List Char))
  | .word name :: .mark ':' :: .mark '=' :: _ => some [name]
  | .word name :: .mark ',' :: rest => (targets? rest).map (name :: ·)
  | _ => none

def declared : List Token → List (List Char)
  | .word ['v', 'a', 'r'] :: .word name :: _ => [name]
  | .word ['i', 'f'] :: rest => (targets? rest).getD []
  | line => (targets? line).getD []

def hasDefinition : List Token → Bool
  | .mark ':' :: .mark '=' :: _ => true
  | _ :: rest => hasDefinition rest
  | [] => false

def declare (names : List (List Char)) : List Scope → Option (List Scope)
  | scope :: outer =>
    if names.any fun name => name ≠ ['_'] && !scope.contains name then
      some ((names ++ scope) :: outer)
    else none
  | [] => none

def brace (scopes : List Scope) : Token → List Scope
  | .mark '\x7b' => [] :: scopes
  | .mark '\x7d' => scopes.tail
  | _ => scopes

def runSimple : List Scope → List Token → Option (List Scope)
  | scope :: outer, .word ['v', 'a', 'r'] :: .word name :: _ => some ((name :: scope) :: outer)
  | scopes, line =>
    if hasDefinition line then (targets? line).bind (declare · scopes) else some scopes

/-- The scopes behind a line, or none if a `:=` in it declares nothing new. An `if` has a scope of
its own, which is that of its block, too. -/
def runLine (scopes : List Scope) : List Token → Option (List Scope)
  | .word ['i', 'f'] :: rest =>
    (runSimple ([] :: scopes) rest).map fun scopes => rest.dropLast.foldl brace scopes
  | line => (runSimple scopes line).map fun scopes => line.foldl brace scopes

def run (scopes : List Scope) (lines : List (List Token)) : Option (List Scope) :=
  lines.foldlM runLine scopes

end Reading

abbrev tokens (c : Code) : List Token := c.tokens (Json.quoted false)

structure Block (cs : List Code) (qualifiers locals : List (List Char)) : Prop where
  isLine : ∀ c ∈ cs, IsLine (Json.quoted false) c
  mentions : (cs.map tokens).flatMap (·.filterMap qualifier?) = qualifiers
  of_declared : ∀ x ∈ (cs.map tokens).flatMap declared,
    x ∈ locals ∨ x = "err".toList ∨ x = "_".toList
  declares : ∀ x ∈ locals, x ∈ (cs.map tokens).flatMap declared
  runs : ∀ scope outer, (∀ x ∈ locals, x ∉ scope) → ∃ after,
    run (scope :: outer) (cs.map tokens) = some (after :: outer) ∧
      ∀ x ∈ after, x ∈ scope ∨ x ∈ locals ∨ x = "err".toList

namespace Block

variable {c : Code} {cs ds : List Code} {qualifiers locals more names : List (List Char)}

theorem nil : Block [] [] [] where
  isLine := by simp
  mentions := rfl
  of_declared := by simp
  declares := by simp
  runs := fun scope outer _ => ⟨scope, rfl, fun _ => .inl⟩

theorem append (h : Block cs qualifiers locals) (h' : Block ds more names)
    (hnew : ∀ x ∈ names, x ∉ locals) (herr : "err".toList ∉ names) :
    Block (cs ++ ds) (qualifiers ++ more) (locals ++ names) where
  isLine := List.forall_mem_append.2 ⟨h.isLine, h'.isLine⟩
  mentions := by rw [List.map_append, List.flatMap_append, h.mentions, h'.mentions]
  of_declared := by
    rw [List.map_append, List.flatMap_append, List.forall_mem_append]
    exact ⟨fun x hx => (h.of_declared x hx).imp_left (List.mem_append_left _),
      fun x hx => (h'.of_declared x hx).imp_left (List.mem_append_right _)⟩
  declares := by
    rw [List.map_append, List.flatMap_append, List.forall_mem_append]
    exact ⟨fun x hx => List.mem_append_left _ (h.declares x hx),
      fun x hx => List.mem_append_right _ (h'.declares x hx)⟩
  runs := by
    intro scope outer hscope
    obtain ⟨hfirst, hsecond⟩ := List.forall_mem_append.1 hscope
    obtain ⟨middle, hrun, hmiddle⟩ := h.runs scope outer hfirst
    have hfresh : ∀ x ∈ names, x ∉ middle := by
      intro x hx hmem
      rcases hmiddle x hmem with hmem | hmem | rfl
      · exact hsecond x hx hmem
      · exact hnew x hx hmem
      · exact herr hx
    obtain ⟨after, hrun', hafter⟩ := h'.runs middle outer hfresh
    refine ⟨after, ?_, fun x hx => ?_⟩
    · rw [run, List.map_append, List.foldlM_append]
      exact (congrArg (· >>= _) hrun).trans hrun'
    · rcases hafter x hx with hmem | hmem | hmem
      · exact (hmiddle x hmem).imp_right (Or.imp_left (List.mem_append_left _))
      · exact .inr (.inl (List.mem_append_right _ hmem))
      · exact .inr (.inr hmem)

theorem of_run (hline : ∀ c ∈ cs, IsLine (Json.quoted false) c)
    (hmentions : (cs.map tokens).flatMap (·.filterMap qualifier?) = qualifiers)
    (hdeclared : ∀ x ∈ (cs.map tokens).flatMap declared, x = "err".toList ∨ x = "_".toList)
    (hrun : ∀ scope outer, run (scope :: outer) (cs.map tokens) = some (scope :: outer)) :
    Block cs qualifiers [] where
  isLine := hline
  mentions := hmentions
  of_declared := fun x hx => .inr (hdeclared x hx)
  declares := by simp
  runs := fun scope outer _ => ⟨scope, hrun scope outer, fun _ => .inl⟩

theorem singleton (hline : IsLine (Json.quoted false) c)
    (hmentions : (tokens c).filterMap qualifier? = qualifiers)
    (hdeclared : declared (tokens c) = [])
    (hrun : ∀ scope outer, runLine (scope :: outer) (tokens c) = some (scope :: outer)) :
    Block [c] qualifiers [] := by
  refine of_run (List.forall_mem_singleton.2 hline) ?_ ?_ fun scope outer => ?_
  · simp [hmentions]
  · simp [hdeclared]
  · simp [run, hrun]

theorem define {name : List Char}
    (hline : ∀ d ∈ c :: cs, IsLine (Json.quoted false) d)
    (hmentions : ((c :: cs).map tokens).flatMap (·.filterMap qualifier?) = qualifiers)
    (hdeclared : ((c :: cs).map tokens).flatMap declared = name :: names)
    (hname : name ≠ "_".toList) (hnames : ∀ x ∈ names, x = "err".toList)
    (hfirst : ∀ scope outer, runLine (scope :: outer) (tokens c) =
      (declare (name :: names) (scope :: outer)).map fun scopes => (tokens c).foldl brace scopes)
    (hrest : ∀ scope outer, run ((tokens c).foldl brace (scope :: outer)) (cs.map tokens) =
      some (scope :: outer)) :
    Block (c :: cs) qualifiers [name] where
  isLine := hline
  mentions := hmentions
  of_declared := by
    rw [hdeclared, List.forall_mem_cons]
    exact ⟨.inl (List.mem_singleton_self name), fun x hx => .inr (.inl (hnames x hx))⟩
  declares := by
    rw [hdeclared, List.forall_mem_singleton]
    exact List.mem_cons_self
  runs := by
    intro scope outer hscope
    have hnew : name ∉ scope := hscope name (List.mem_singleton_self name)
    have hdeclare : declare (name :: names) (scope :: outer) =
        some ((name :: names ++ scope) :: outer) := by
      have hname : name ≠ ['_'] := hname
      simp [declare, hname, hnew]
    refine ⟨name :: names ++ scope, ?_, fun x hx => ?_⟩
    · rw [List.map_cons, run, List.foldlM_cons, hfirst, hdeclare]
      exact hrest _ _
    · rcases List.mem_append.1 hx with hx | hx
      · rcases List.mem_cons.1 hx with rfl | hx
        · exact .inr (.inl (List.mem_singleton_self x))
        · exact .inr (.inr (hnames x hx))
      · exact .inl hx

end Block

section Steps

variable {name : String} {value : Code} {qualifiers : List (List Char)}

structure IsName (name : String) : Prop where
  isWordText : Code.IsWordText name.toList
  plain : '.' ∉ name.toList
  free : name.toList ∉ [[], ['_'], ['i', 'f'], ['v', 'a', 'r']]

structure IsValue (value : Code) (qualifiers : List (List Char)) : Prop where
  isLine : IsLine (Json.quoted false) value
  mentions : (tokens value).filterMap qualifier? = qualifiers
  braces : ∀ scopes, (tokens value).foldl brace scopes = scopes

theorem isName_numbered {base : String} (hword : Code.IsWordText base.toList)
    (hplain : '.' ∉ base.toList) (hlong : 3 < base.toList.length) (n : Nat) :
    IsName (base ++ toString n) := by
  have hdigit : ∀ c ∈ (toString n).toList, c.isDigit = true := fun c =>
    Code.isDigit_of_mem_toString
  refine ⟨?_, ?_, fun hmem => ?_⟩
  · rw [String.toList_append]
    exact List.forall_mem_append.2 ⟨hword, Code.isWordText_toString⟩
  · rw [String.toList_append, List.mem_append]
    rintro (h | h)
    · exact hplain h
    · exact absurd (hdigit _ h) (by decide)
  · have hshort : ∀ s ∈ [[], ['_'], ['i', 'f'], ['v', 'a', 'r']], s.length ≤ 3 := by simp
    have hlength := hshort _ hmem
    rw [String.toList_append, List.length_append] at hlength
    omega

theorem qualifier?_name (h : IsName name) : qualifier? (.word name.toList) = none := by
  rw [qualifier?, Text.splitList_of_not_mem h.plain]

theorem qualifier?_method (h : IsName name) (method : List Char) :
    qualifier? (.word (name.toList ++ '.' :: method)) = some name.toList := by
  rw [qualifier?, Text.splitList_append h.plain]
  rcases hmethod : Text.splitList '.' method with - | ⟨first, rest⟩
  · exact absurd hmethod (Text.splitList_ne_nil '.' method)
  · rfl

theorem IsName.not_reserved (h : IsName name) :
    name.toList ≠ ['_'] ∧ name.toList ≠ ['i', 'f'] ∧ name.toList ≠ ['v', 'a', 'r'] := by
  have hfree := h.free
  simp only [List.mem_cons, List.not_mem_nil, or_false, not_or] at hfree
  exact hfree.2

theorem read_name (h : IsName name) (rest : Code) :
    Token.read (Json.quoted false) .between (.code name :: rest) =
      Token.read (Json.quoted false) (.word name.toList.reverse) rest :=
  Code.read_word h.isWordText (fun hnil => h.free (by simp [hnil])) rest

theorem read_indented (h : IsName name) (rest : Code) :
    Token.read (Json.quoted false) .between (.code "\t" :: .code name :: rest) =
      Token.read (Json.quoted false) (.word name.toList.reverse) rest := by
  rw [← read_name h]
  rfl

theorem read_targets (h : IsName name) :
    Token.read (Json.quoted false) .between ("\t" ++ name ++ ", err := " : Code) =
      ([.word name.toList, .mark ',', .word "err".toList, .mark ':', .mark '='], .between) := by
  have hrest (w : List Char) : Token.read (Json.quoted false) (.word w) (", err := " : Code) =
      ([.word w.reverse, .mark ',', .word "err".toList, .mark ':', .mark '='], .between) := rfl
  have hname := (read_indented h (", err := " : Code)).trans (hrest _)
  rwa [List.reverse_reverse] at hname

theorem declared_define {name : List Char} {rest : List Token} (hif : name ≠ ['i', 'f'])
    (hvar : name ≠ ['v', 'a', 'r']) :
    declared (.word name :: rest) = (targets? (.word name :: rest)).getD [] := by
  unfold declared
  split <;> simp_all

theorem runLine_define {name : List Char} {rest : List Token} (hif : name ≠ ['i', 'f'])
    (hvar : name ≠ ['v', 'a', 'r']) (hdefines : hasDefinition (.word name :: rest) = true)
    (scope : Scope) (outer : List Scope) :
    runLine (scope :: outer) (.word name :: rest) =
      ((targets? (.word name :: rest)).bind (declare · (scope :: outer))).map
        fun scopes => (Token.word name :: rest).foldl brace scopes := by
  have hsimple : runSimple (scope :: outer) (.word name :: rest) =
      (targets? (.word name :: rest)).bind (declare · (scope :: outer)) := by
    unfold runSimple
    split
    · simp_all
    · exact if_pos hdefines
  unfold runLine
  split
  · simp_all
  · rw [hsimple]

theorem block_step (hname : IsName name) (hvalue : IsValue value qualifiers) :
    Block (step name value) (qualifiers ++ ["log".toList]) [name.toList] := by
  have hread := read_targets hname
  generalize htargets : ("\t" ++ name ++ ", err := " : Code) = targets at hread
  have hclosed : Code.IsClosed (Json.quoted false) targets := congrArg Prod.snd hread
  have htokens : tokens targets =
      [.word name.toList, .mark ',', .word "err".toList, .mark ':', .mark '='] := by
    rw [tokens, Code.tokens, hread]
    rfl
  have hfirst : tokens (targets ++ value) = .word name.toList :: .mark ',' ::
      .word "err".toList :: .mark ':' :: .mark '=' :: tokens value := by
    rw [tokens, Code.tokens_append (.inl hclosed)]
    exact congrArg (· ++ tokens value) htokens
  have hmentions : (tokens (targets ++ value)).filterMap qualifier? = qualifiers := by
    rw [hfirst, List.filterMap_cons, qualifier?_name hname]
    exact hvalue.mentions
  have hlines : ∀ c ∈ fatal, IsLine (Json.quoted false) c := by
    refine List.forall_mem_cons.2 ⟨⟨rfl, rfl⟩, List.forall_mem_cons.2 ⟨⟨rfl, rfl⟩, ?_⟩⟩
    exact List.forall_mem_singleton.2 ⟨rfl, rfl⟩
  have hline : IsLine (Json.quoted false) (targets ++ value) :=
    Code.isLine_append (.inl hclosed) (by rw [← tokens, htokens]; rfl) hvalue.isLine
  rw [step, htargets]
  obtain ⟨hblank, hif, hvar⟩ := hname.not_reserved
  refine Block.define (List.forall_mem_cons.2 ⟨hline, hlines⟩) ?_ ?_ hblank
    (List.forall_mem_singleton.2 rfl) (fun scope outer => ?_) fun scope outer => ?_
  · rw [List.map_cons, List.flatMap_cons, hmentions]
    rfl
  · rw [List.map_cons, List.flatMap_cons, hfirst, declared_define hif hvar]
    rfl
  · rw [hfirst]
    exact runLine_define hif hvar rfl scope outer
  · rw [hfirst]
    exact congrArg (run · _) (hvalue.braces _)

def test : List Token :=
  [.mark ';', .word "err".toList, .mark '!', .mark '=', .word "nil".toList]

theorem tokens_guarded {targets : Code} (htargets : Code.IsClosed (Json.quoted false) targets)
    (hfree : (tokens targets).contains newline = false) (hvalue : IsValue value qualifiers) :
    tokens ("\tif " ++ (targets ++ value) ++ "; err != nil \x7b") =
        .word "if".toList :: (tokens targets ++ (tokens value ++ test) ++ [.mark '\x7b']) ∧
      IsLine (Json.quoted false) ("\tif " ++ (targets ++ value) ++ "; err != nil \x7b") := by
  let start : Code := "\tif "
  let ending : Code := "; err != nil \x7b"
  have hstart : Code.IsClosed (Json.quoted false) start := rfl
  have hending : Code.Separates ending := ⟨_, _, _, rfl, rfl, by decide⟩
  have hstep := Code.tokens_append (d := value) (.inl htargets)
  have hhead : tokens (start ++ (targets ++ value)) =
      .word "if".toList :: (tokens targets ++ tokens value) :=
    (Code.tokens_append (.inl hstart)).trans (congrArg (_ ++ ·) hstep)
  have hphrase : IsLine (Json.quoted false) (start ++ (targets ++ value)) :=
    Code.isLine_append (.inl hstart) rfl (Code.isLine_append (.inl htargets) hfree hvalue.isLine)
  refine ⟨?_, Code.isLine_append (.inr ⟨hphrase.1, hending⟩) hphrase.2 ⟨rfl, rfl⟩⟩
  refine (Code.tokens_append (.inr ⟨hphrase.1, hending⟩)).trans ?_
  rw [← tokens, hhead]
  simp only [List.cons_append, List.append_assoc]
  rfl

theorem block_guarded {targets : Code}
    (htargets : targets = ("err := " : Code) ∨ targets = ("_, err := " : Code))
    (hvalue : IsValue value qualifiers) :
    Block (guarded (targets ++ value)) (qualifiers ++ ["log".toList]) [] := by
  obtain ⟨hclosed, hfree⟩ : Code.IsClosed (Json.quoted false) targets ∧
      (tokens targets).contains newline = false := by
    rcases htargets with rfl | rfl <;> exact ⟨rfl, rfl⟩
  obtain ⟨htokens, hline⟩ := tokens_guarded hclosed hfree hvalue
  have hlines : ∀ c ∈ (["\t\tlog.Fatal(err)", "\t\x7d"] : List Code),
      IsLine (Json.quoted false) c :=
    List.forall_mem_cons.2 ⟨⟨rfl, rfl⟩, List.forall_mem_singleton.2 ⟨rfl, rfl⟩⟩
  have hbefore : (tokens targets).filterMap qualifier? = [] := by
    rcases htargets with rfl | rfl <;> rfl
  have hmentions : (tokens ("\tif " ++ (targets ++ value) ++ "; err != nil \x7b")).filterMap
      qualifier? = qualifiers := by
    rw [htokens, List.filterMap_cons, List.filterMap_append, List.filterMap_append,
      List.filterMap_append, hbefore, hvalue.mentions]
    simp [test, qualifier?, Text.splitList]
  have hbraces (scopes : List Scope) :
      (tokens targets ++ (tokens value ++ test)).foldl brace scopes = scopes := by
    have hbraces : (tokens targets).foldl brace scopes = scopes := by
      rcases htargets with rfl | rfl <;> rfl
    rw [List.foldl_append, List.foldl_append, hbraces, hvalue.braces]
    rfl
  have hrun (scopes : List Scope) : ∃ names,
      runLine scopes (tokens ("\tif " ++ (targets ++ value) ++ "; err != nil \x7b")) =
        some (names :: scopes) := by
    obtain ⟨names, hsimple⟩ : ∃ names,
        runSimple ([] :: scopes) (tokens targets ++ (tokens value ++ test) ++ [.mark '\x7b']) =
          some (names :: scopes) := by
      rcases htargets with rfl | rfl <;> exact ⟨_, rfl⟩
    refine ⟨names, ?_⟩
    rw [htokens]
    change (runSimple ([] :: scopes) _).map _ = _
    rw [hsimple, List.dropLast_concat]
    exact congrArg some (hbraces _)
  rw [guarded]
  refine Block.of_run (List.forall_mem_cons.2 ⟨hline, hlines⟩) ?_ ?_ fun scope outer => ?_
  · rw [List.map_cons, List.flatMap_cons, hmentions]
    rfl
  · rw [List.map_cons, htokens]
    rcases htargets with rfl | rfl
    · exact List.forall_mem_singleton.2 (.inl rfl)
    · exact List.forall_mem_cons.2 ⟨.inr rfl, List.forall_mem_singleton.2 (.inl rfl)⟩
  · obtain ⟨names, hfirst⟩ := hrun (scope :: outer)
    rw [List.map_cons, run, List.foldlM_cons, hfirst]
    rfl

theorem block_stdin (h : IsName name) :
    Block ["\t" ++ name ++ " := os.Stdin"] ["os".toList] [name.toList] := by
  have hrest (w : List Char) : Token.read (Json.quoted false) (.word w) (" := os.Stdin" : Code) =
      ([.word w.reverse, .mark ':', .mark '='], .word "nidtS.so".toList) := rfl
  have hread := (read_indented h (" := os.Stdin" : Code)).trans (hrest _)
  rw [List.reverse_reverse] at hread
  have htokens : tokens ("\t" ++ name ++ " := os.Stdin") =
      [.word name.toList, .mark ':', .mark '=', .word "os.Stdin".toList] := by
    refine (congrArg (fun read => read.1 ++ read.2.last) hread).trans ?_
    rfl
  have hline : IsLine (Json.quoted false) ("\t" ++ name ++ " := os.Stdin") :=
    ⟨congrArg (Place.isEnd ·.2) hread, by rw [← tokens, htokens]; rfl⟩
  obtain ⟨hblank, hif, hvar⟩ := h.not_reserved
  refine Block.define (List.forall_mem_singleton.2 hline) ?_ ?_ hblank (List.forall_mem_nil _)
    (fun scope outer => ?_) fun scope outer => ?_
  · rw [List.map_singleton, List.flatMap_singleton, htokens, List.filterMap_cons, qualifier?_name h]
    rfl
  · rw [List.map_singleton, List.flatMap_singleton, htokens, declared_define hif hvar]
    rfl
  · rw [htokens]
    exact runLine_define hif hvar rfl scope outer
  · rw [htokens]
    rfl

theorem block_close (h : IsName name) :
    Block ["\tdefer " ++ name ++ ".Close()"] [name.toList] [] := by
  have hrest (w : List Char) : Token.read (Json.quoted false) (.word w) (".Close()" : Code) =
      ([.word ("esolC.".toList ++ w).reverse, .mark '(', .mark ')'], .between) := rfl
  have hstart (c : Code) : Token.read (Json.quoted false) .between (.code "\tdefer " :: c) =
      (.word "defer".toList :: (Token.read (Json.quoted false) .between c).1,
        (Token.read (Json.quoted false) .between c).2) := rfl
  have hread := hstart (.code name :: (".Close()" : Code))
  rw [read_name h, hrest, List.reverse_append, List.reverse_reverse] at hread
  have htokens : tokens ("\tdefer " ++ name ++ ".Close()" : Code) =
      [.word "defer".toList, .word (name.toList ++ ".Close".toList), .mark '(', .mark ')'] :=
    congrArg (fun read => read.1 ++ read.2.last) hread
  have hclose : qualifier? (.word (name.toList ++ ".Close".toList)) = some name.toList :=
    qualifier?_method h "Close".toList
  refine Block.singleton ⟨congrArg (Place.isEnd ·.2) hread, by rw [← tokens, htokens]; rfl⟩ ?_ ?_
    fun scope outer => ?_
  · rw [htokens, List.filterMap_cons_none rfl, List.filterMap_cons_some hclose]
    rfl
  · rw [htokens]
    rfl
  · rw [htokens]
    rfl

end Steps

end CurlScribe.GoProgram
