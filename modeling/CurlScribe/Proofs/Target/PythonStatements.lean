import CurlScribe.Proofs.Target.PythonNames
import CurlScribe.Proofs.Target.Statement

namespace CurlScribe.RequestsScript

open Code (lit IsPhrase IsClosed Separates Assigns Assigning)
open Token (Encloses IsInline newline depthBehind)
open Display (entryTokens Reads)

variable {c value : Code} {name own : String} {items : List (String × Code)} {α : Type}
  {xs : List α}

abbrev litTokens (s : String) : List Token := [.literal (Text.shown s).toList]

section Tables

structure IsInlineCode (c : Code) : Prop where
  isPhrase : IsPhrase Text.shown c
  isInline : IsInline (c.tokens Text.shown)

theorem IsInlineCode.append {d : Code} (hc : IsInlineCode c)
    (h : IsClosed Text.shown c ∨ Separates d) (hd : IsInlineCode d) : IsInlineCode (c ++ d) := by
  have h := h.imp_right (And.intro hc.isPhrase)
  refine ⟨Code.isPhrase_append h hd.isPhrase, ?_⟩
  rw [Code.tokens_append h]
  exact hc.isInline.append hd.isInline

theorem isInline_literal (w : List Char) : IsInline [.literal w] := ⟨rfl, fun _ => rfl⟩

theorem isInline_entry {ts : List Token} (key : String) (h : IsInline ts) :
    IsInline (entryTokens key ts) :=
  have hkey : IsInline [.literal (Text.shown key).toList, .mark ':'] := ⟨rfl, fun _ => rfl⟩
  have hcomma : IsInline [.mark ','] := ⟨rfl, fun _ => rfl⟩
  hkey.append (h.append hcomma)

def pairTokens (key : String) (ts : List Token) : List Token :=
  .mark '(' :: (litTokens key ++ .mark ',' :: ts) ++ [.mark ')'] ++ [.mark ',']

theorem isInline_pair {ts : List Token} (key : String) (h : IsInline ts) :
    IsInline (pairTokens key ts) :=
  have hkey : IsInline [.literal (Text.shown key).toList, .mark ','] := ⟨rfl, fun _ => rfl⟩
  have hcomma : IsInline [.mark ','] := ⟨rfl, fun _ => rfl⟩
  (IsInline.enclosed .parentheses (hkey.append h)).append hcomma

structure IsRow (row : Code) (ts : List Token) : Prop where
  isInline : IsInline ts
  isClosed : IsClosed Text.shown row
  tokens : row.tokens Text.shown = ts ++ [newline]

theorem assigns_rows {start ending : Code} {opening closing : Char} {row : α → Code}
    {tokens : α → List Token} (hbrackets : Encloses opening closing)
    (hstart : Token.read Text.shown .between start =
      ([.word own.toList, .mark '=', .mark opening, newline], .between))
    (hending : Token.read Text.shown .between ending = ([.mark closing], .between))
    (h : ∀ x ∈ xs, IsRow (row x) (tokens x)) :
    Assigns name (start ++ (Code.joined "" (xs.map row) ++ ending)) (if name = own then
      [Display.ofTokens? (.mark opening :: xs.flatMap tokens ++ [.mark closing])] else []) := by
  have hclosed : IsClosed Text.shown start ∧ IsClosed Text.shown ending :=
    ⟨congrArg Prod.snd hstart, congrArg Prod.snd hending⟩
  obtain ⟨hjoined, hrows⟩ := @Code.tokens_joined Text.shown (xs.map row)
    (List.forall_mem_map.2 fun x hx => (h x hx).isClosed)
  rw [List.flatMap_map, List.flatMap_congr fun x hx => (h x hx).tokens] at hrows
  have htokens : (start ++ (Code.joined "" (xs.map row) ++ ending)).tokens Text.shown =
      [.word own.toList, .mark '=', .mark opening, newline] ++
        (xs.flatMap (fun x => tokens x ++ [newline]) ++ [.mark closing]) := by
    rw [Code.tokens_append (.inl hclosed.1), Code.tokens_append (.inl hjoined), hrows,
      Code.tokens, hstart, Code.tokens, hending]
    simp [Token.Place.last]
  have hinline : ∀ x ∈ xs, IsInline (tokens x) := fun x hx => (h x hx).isInline
  have hopen : [.word own.toList, .mark '=', .mark opening, newline].foldl depthBehind 0 = 1 := by
    cases hbrackets <;> rfl
  refine ⟨⟨?_, ?_⟩, ?_⟩
  · exact (Code.isClosed_append (.inl hclosed.1)
      (Code.isClosed_append (.inl hjoined) hclosed.2)).isPhrase
  · rw [htokens, List.foldl_append, List.foldl_append, hopen,
      Token.foldl_depthBehind_rows hinline]
    cases hbrackets <;> rfl
  · have hline : IsInline (.mark opening :: xs.flatMap tokens ++ [.mark closing]) :=
      .enclosed hbrackets (.flatMap hinline)
    -- The line ends are all in the brackets, so the statement is the one with the rows on its line.
    rw [← Display.assigned_assignment hline, htokens]
    refine Display.assigned_congr ?_
    rw [Token.logical_append, hopen, Token.logical_rows hinline Nat.one_ne_zero,
      (hline.assignment _).logical]
    cases hbrackets <;> rfl

theorem isRow_item (h : IsInlineCode value) (key : String) :
    IsRow (item key value ++ ("\n" : Code)) (entryTokens key (value.tokens Text.shown)) := by
  have hstart : IsClosed Text.shown [.code "    ", .literal key, .code ": "] := rfl
  have hsep : Separates [.code ",", .code "\n"] := ⟨_, _, _, rfl, rfl, by decide⟩
  have hitem : item key value ++ ("\n" : Code) =
      [.code "    ", .literal key, .code ": "] ++ (value ++ [.code ",", .code "\n"]) := by
    simp [item, lit]
  obtain ⟨hclosed, htokens⟩ := Code.tokens_between hstart h.isPhrase hsep rfl
  refine ⟨isInline_entry key h.isInline, hitem ▸ hclosed, ?_⟩
  rw [hitem, htokens]
  change [.literal (Text.shown key).toList, .mark ':'] ++
    (value.tokens Text.shown ++ [.mark ',', newline]) = _
  simp [entryTokens]

theorem isRow_pairItem (h : IsInlineCode value) (key : String) :
    IsRow (pairItem key value ++ ("\n" : Code)) (pairTokens key (value.tokens Text.shown)) := by
  have hstart : IsClosed Text.shown [.code "    (", .literal key, .code ", "] := rfl
  have hsep : Separates [.code "),", .code "\n"] := ⟨_, _, _, rfl, rfl, by decide⟩
  have hitem : pairItem key value ++ ("\n" : Code) =
      [.code "    (", .literal key, .code ", "] ++ (value ++ [.code "),", .code "\n"]) := by
    simp [pairItem, lit]
  obtain ⟨hclosed, htokens⟩ := Code.tokens_between hstart h.isPhrase hsep rfl
  refine ⟨isInline_pair key h.isInline, hitem ▸ hclosed, ?_⟩
  rw [hitem, htokens]
  change [.mark '(', .literal (Text.shown key).toList, .mark ','] ++
    (value.tokens Text.shown ++ [.mark ')', .mark ',', newline]) = _
  simp [pairTokens]

theorem read_opening (hname : own ∈ tableNames) :
    Token.read Text.shown .between [.code own, .code " = \x7b\n"] =
      ([.word own.toList, .mark '=', .mark '\x7b', newline], .between) ∧
    Token.read Text.shown .between [.code own, .code " = [\n"] =
      ([.word own.toList, .mark '=', .mark '[', newline], .between) := by
  have hword : ∀ w, Token.read Text.shown (.word w) [.code " = \x7b\n"] =
        ([.word w.reverse, .mark '=', .mark '\x7b', newline], .between) ∧
      Token.read Text.shown (.word w) [.code " = [\n"] =
        ([.word w.reverse, .mark '=', .mark '[', newline], .between) := fun w => ⟨rfl, rfl⟩
  have hnames : ∀ own ∈ tableNames, Code.IsWordText own.toList ∧ own.toList ≠ [] := by decide
  obtain ⟨h, hne⟩ := hnames own hname
  obtain ⟨hdict, hpairs⟩ := hword own.toList.reverse
  rw [Code.read_word h hne, hdict, Code.read_word h hne, hpairs, List.reverse_reverse]
  exact ⟨rfl, rfl⟩

theorem assigns_dict (hname : own ∈ tableNames) (h : ∀ item ∈ items, IsInlineCode item.2) :
    Assigns name (dict own items) (if name = own then [Display.ofTokens? (.mark '\x7b' ::
      items.flatMap (fun item => entryTokens item.1 (item.2.tokens Text.shown)) ++ [.mark '\x7d'])]
      else []) := by
  have hending : Token.read Text.shown .between ("\x7d" : Code) = ([.mark '\x7d'], .between) := rfl
  have hrows : ∀ i ∈ items, IsRow (item i.1 i.2 ++ ("\n" : Code)) _ := fun i hi =>
    isRow_item (h i hi) i.1
  have htable : Assigns name _ _ :=
    assigns_rows .braces (read_opening hname).1 hending hrows
  simpa [dict] using htable

theorem assigns_pairs (hname : own ∈ tableNames) (h : ∀ item ∈ items, IsInlineCode item.2) :
    Assigns name (pairs own items) (if name = own then [Display.ofTokens? (.mark '[' ::
      items.flatMap (fun item => pairTokens item.1 (item.2.tokens Text.shown)) ++ [.mark ']'])]
      else []) := by
  have hending : Token.read Text.shown .between ("]" : Code) = ([.mark ']'], .between) := rfl
  have hrows : ∀ i ∈ items, IsRow (pairItem i.1 i.2 ++ ("\n" : Code)) _ := fun i hi =>
    isRow_pairItem (h i hi) i.1
  have htable : Assigns name _ _ :=
    assigns_rows .square (read_opening hname).2 hending hrows
  simpa [pairs] using htable

end Tables

section Values

theorem isInlineCode_lit (s : String) : IsInlineCode (lit s) := ⟨rfl, rfl, fun _ => rfl⟩

theorem isInlineCode_literals (fields : List (String × String)) :
    ∀ item ∈ literals fields, IsInlineCode item.2 :=
  List.forall_mem_map.2 fun field _ => isInlineCode_lit field.2

theorem isInlineCode_joined {cs : List Code} (h : ∀ c ∈ cs, IsInlineCode c) :
    IsInlineCode (Code.joined ", " cs) := by
  have hcomma : IsInlineCode (", " : Code) := ⟨rfl, rfl, fun _ => rfl⟩
  induction cs with
  | nil => exact ⟨rfl, rfl, fun _ => rfl⟩
  | cons c cs ih =>
    obtain ⟨hc, hcs⟩ := List.forall_mem_cons.1 h
    cases cs with
    | nil => exact hc
    | cons d cs =>
      have hsep : Separates ((", " : Code) ++ Code.joined ", " (d :: cs)) :=
        ⟨_, _, _, rfl, rfl, by decide⟩
      exact hc.append (.inr hsep) (hcomma.append (.inl rfl) (ih hcs))

theorem isInlineCode_tuple {cs : List Code} (h : ∀ c ∈ cs, IsInlineCode c) :
    IsInlineCode (Code.call "" cs) := by
  have hjoined := isInlineCode_joined h
  have hstart : IsClosed Text.shown [.code "", .code "("] := rfl
  have hsep : Separates (")" : Code) := ⟨_, _, _, rfl, rfl, by decide⟩
  have hcall :
      Code.call "" cs = [.code "", .code "("] ++ (Code.joined ", " cs ++ (")" : Code)) := by
    simp [Code.call]
  obtain ⟨hclosed, htokens⟩ := Code.tokens_between hstart hjoined.isPhrase hsep rfl
  rw [hcall]
  refine ⟨hclosed.isPhrase, ?_⟩
  rw [htokens]
  exact .enclosed .parentheses hjoined.isInline

theorem isInlineCode_part (p : Part) : IsInlineCode (part p) := by
  have hfilename : IsInlineCode (filename p) := by
    unfold filename
    split <;> exact ⟨rfl, rfl, fun _ => rfl⟩
  have hcontent : IsInlineCode (content p) := by
    unfold content
    split
    · rename_i value _
      cases value <;> exact ⟨rfl, rfl, fun _ => rfl⟩
    · exact ⟨rfl, rfl, fun _ => rfl⟩
    · rename_i path _
      cases path <;> exact ⟨rfl, rfl, fun _ => rfl⟩
  have htype : ∀ c ∈ Code.literal? (filled? p.contentType), IsInlineCode c := by
    unfold Code.literal?
    cases filled? p.contentType with
    | none => exact List.forall_mem_nil _
    | some type => exact List.forall_mem_singleton.2 (isInlineCode_lit type)
  refine isInlineCode_tuple (List.forall_mem_append.2 ⟨?_, htype⟩)
  exact List.forall_mem_cons.2 ⟨hfilename, List.forall_mem_singleton.2 hcontent⟩

def tableDisplay (fields : List (String × String)) : Display :=
  if (fields.map (·.1)).Nodup then .mapping fields else .pairs fields

theorem assigns_mapping (hname : own ∈ tableNames) (fields : List (String × String)) :
    Assigns name (dict own (literals fields))
      (if name = own then [some (.mapping fields)] else []) := by
  have hassigns : Assigns name _ _ := assigns_dict hname (isInlineCode_literals fields)
  have hreads : Reads _ (.mapping fields) :=
    Display.reads_dict fun field _ => Display.reads_text field.2
  rw [literals, List.flatMap_map] at hassigns
  exact hreads.ofTokens? ▸ hassigns

theorem assigns_listed (hname : own ∈ tableNames) (fields : List (String × String)) :
    Assigns name (pairs own (literals fields))
      (if name = own then [some (.pairs fields)] else []) := by
  have hassigns : Assigns name _ _ := assigns_pairs hname (isInlineCode_literals fields)
  have hreads : Reads _ (.pairs fields) := Display.reads_list fun field _ =>
    Display.reads_pair (Display.reads_text field.1) (Display.reads_text field.2)
  rw [literals, List.flatMap_map] at hassigns
  exact hreads.ofTokens? ▸ hassigns

theorem assigns_table (hname : own ∈ tableNames) (fields : List (String × String)) :
    Assigns name (table own (literals fields))
      (if name = own then [some (tableDisplay fields)] else []) := by
  have hkeys : (literals fields).map (·.1) = fields.map (·.1) := by simp [literals]
  unfold table tableDisplay
  rw [hkeys]
  split
  · exact assigns_mapping hname fields
  · exact assigns_listed hname fields

end Values

section Blocks

/-- What is assigned for the body: nothing where it is passed on at once, and no display where it is
read from a file. -/
def dataDisplays : Data → List (Option Display)
  | .form fields => [some (tableDisplay fields)]
  | .text text => [some (.text text)]
  | .input | .file _ => [none]
  | .none | .upload _ | .parts _ => []

theorem assigning_dataBlock (hname : name ≠ "files") (d : Data) :
    Assigning name (dataBlock d) (if name = "data" then dataDisplays d else []) := by
  cases d with
  | none | upload =>
    rw [dataDisplays, ite_self]
    exact .nil
  | form fields => exact .singleton (assigns_table (by decide) fields)
  | text text =>
    have htext : Assigns name ("data = " ++ lit text)
        (if name = "data" then [Display.ofTokens? (litTokens text)] else []) :=
      Code.assigns_inline rfl rfl (isInline_literal _)
    rw [(Display.reads_text text).ofTokens?] at htext
    exact .singleton htext
  | input =>
    have hinput : Assigns name "data = sys.stdin.buffer.read()" (if name = "data" then
        [Display.ofTokens? [.word "sys.stdin.buffer.read".toList, .mark '(', .mark ')']] else []) :=
      Code.assigns_inline rfl rfl ⟨rfl, fun _ => rfl⟩
    exact .singleton hinput
  | file path =>
    refine .singleton ⟨⟨rfl, rfl⟩, ?_⟩
    have htokens : Code.tokens Text.shown
        ("with " ++ openFile path ++ " as f:\n    data = f.read()") =
        [.word "with".toList, .word "open".toList, .mark '(', .literal (Text.shown path).toList,
          .mark ',', .literal "'rb'".toList, .mark ')', .word "as".toList, .label "f".toList,
          .mark ':'] ++
        newline :: .word "data".toList :: .mark '=' ::
          [.word "f.read".toList, .mark '(', .mark ')'] := rfl
    rw [htokens, Display.assigned_append rfl, Display.assigned_assignment ⟨rfl, fun _ => rfl⟩]
    rfl
  | parts parts =>
    have hparts : ∀ item ∈ parts.map fun p => (p.name, part p), IsInlineCode item.2 :=
      List.forall_mem_map.2 fun p _ => isInlineCode_part p
    rw [dataDisplays, ite_self]
    have hdict : Assigns name (dict "files" _) _ := assigns_dict (by decide) hparts
    have hpairs : Assigns name (pairs "files" _) _ := assigns_pairs (by decide) hparts
    rw [if_neg hname] at hdict hpairs
    refine .singleton ?_
    unfold table
    split
    · exact hdict
    · exact hpairs

theorem assigns_imports (r : Request) : Assigns name (imports r) [] := by
  have himports (input digest : Bool) : Assigns name (Code.lines (Code.when input "import sys" ++
      Code.when true "import requests" ++
      Code.when digest "from requests.auth import HTTPDigestAuth")) [] := by
    cases input <;> cases digest <;> exact ⟨⟨rfl, rfl⟩, rfl⟩
  exact himports _ _

end Blocks

section Call

def isUnbroken : Fragment → Bool
  | .code s => !s.toList.contains '\n'
  | .literal _ => true

def IsUnbroken (c : Code) : Prop := c.all isUnbroken = true

theorem IsUnbroken.append {d : Code} (hc : IsUnbroken c) (hd : IsUnbroken d) :
    IsUnbroken (c ++ d) := by
  rw [IsUnbroken, List.all_append, hc, hd]
  rfl

theorem IsUnbroken.cons {fragment : Fragment} (h : isUnbroken fragment = true)
    (hc : IsUnbroken c) : IsUnbroken (fragment :: c) := by
  rw [IsUnbroken, List.all_cons, h, hc]
  rfl

theorem isUnbroken_joined {sep : String} {cs : List Code} (hsep : IsUnbroken (sep : Code))
    (h : ∀ c ∈ cs, IsUnbroken c) : IsUnbroken (Code.joined sep cs) := by
  induction cs with
  | nil => rfl
  | cons c cs ih =>
    obtain ⟨hc, hcs⟩ := List.forall_mem_cons.1 h
    cases cs with
    | nil => exact hc
    | cons d cs => exact hc.append (hsep.append (ih hcs))

theorem newline_not_mem_text (h : IsUnbroken c) : '\n' ∉ (c.text Text.shown).toList := by
  rw [Code.toList_text, List.mem_flatMap]
  rintro ⟨fragment, hfragment, hbreak⟩
  have hunbroken := List.all_eq_true.1 h fragment hfragment
  cases fragment with
  | code s => simp_all [isUnbroken, Code.fragmentText]
  | literal s => exact Text.newline_not_mem_shown s hbreak

theorem isUnbroken_when {wanted : Bool} (h : IsUnbroken c) :
    ∀ d ∈ Code.when wanted c, IsUnbroken d := by
  cases wanted with
  | false => exact List.forall_mem_nil _
  | true => exact List.forall_mem_singleton.2 h

theorem isUnbroken_timeoutArgument (r : Request) : ∀ c ∈ timeoutArgument r, IsUnbroken c := by
  have hnumeral (x : Binary64) : isUnbroken (.code x.text) = true := by
    have hfree : '\n' ∉ x.text.toList := fun hmem =>
      absurd (Code.isNumeralChar_text _ hmem) (by decide)
    simpa [isUnbroken] using hfree
  unfold timeoutArgument
  split
  · exact List.forall_mem_singleton.2 (.cons rfl (.cons (hnumeral _) (.cons rfl
      (.cons (hnumeral _) (.cons rfl rfl)))))
  · exact List.forall_mem_singleton.2 (.cons rfl (.cons (hnumeral _) (.cons rfl rfl)))
  · exact List.forall_mem_singleton.2 (.cons rfl (.cons (hnumeral _) rfl))
  · exact List.forall_mem_nil _

theorem isUnbroken_arguments (r : Request) : ∀ c ∈ arguments r, IsUnbroken c := by
  have hdata : ∀ c ∈ dataArgument (data r), IsUnbroken c := by
    cases data r with
    | none => exact List.forall_mem_nil _
    | upload | parts | form | text | input | file => exact List.forall_mem_singleton.2 rfl
  have hauth : ∀ c ∈ authArgument r, IsUnbroken c := by
    unfold authArgument
    cases r.auth with
    | none | bearer => exact List.forall_mem_nil _
    | basic | digest => exact List.forall_mem_singleton.2 rfl
  have hcert : ∀ c ∈ certArgument r, IsUnbroken c := by
    unfold certArgument
    split
    · exact List.forall_mem_singleton.2 rfl
    · exact List.forall_mem_singleton.2 rfl
    · exact List.forall_mem_nil _
  have hverify : ∀ c ∈ verifyArgument r, IsUnbroken c := by
    unfold verifyArgument
    split
    · exact List.forall_mem_singleton.2 rfl
    · split
      · exact List.forall_mem_singleton.2 rfl
      · exact List.forall_mem_nil _
  have hurl : ∀ c ∈ [lit r.url], IsUnbroken c := List.forall_mem_singleton.2 rfl
  simp only [arguments, List.forall_mem_append]
  exact ⟨⟨⟨⟨⟨⟨⟨⟨⟨hurl, isUnbroken_when rfl⟩, isUnbroken_when rfl⟩, hdata⟩, hauth⟩,
    isUnbroken_when rfl⟩, hcert⟩, hverify⟩, isUnbroken_timeoutArgument r⟩, isUnbroken_when rfl⟩

theorem isUnbroken_function (r : Request) : IsUnbroken (function r) := by
  have hlower : ∀ name ∈ shortcuts, isUnbroken (.code (Text.lower name)) = true := by decide +kernel
  unfold function
  split
  · rename_i hname
    exact .cons rfl (.cons (hlower _ (List.contains_iff_mem.1 hname)) (.cons rfl rfl))
  · rfl

theorem assigned_call (hname : name ≠ "response") (r : Request) :
    Display.assigned name ((call r ++ ("\n" : Code)).tokens Text.shown) = [] := by
  have hbreak : Separates ("\n" : Code) := ⟨_, _, _, rfl, rfl, by decide⟩
  have hstart : IsClosed Text.shown ("response = " : Code) := rfl
  have hcomma : IsUnbroken (", " : Code) := rfl
  have hunbroken : IsUnbroken (call r) :=
    ((IsUnbroken.cons rfl (isUnbroken_function r)).append
      (isUnbroken_joined hcomma (isUnbroken_arguments r))).append rfl
  have htokens : (call r).tokens Text.shown = .word "response".toList :: .mark '=' ::
      Code.tokens Text.shown (function r ++ Code.joined ", " (arguments r) ++ (")" : Code)) := by
    have hcall : call r = ("response = " : Code) ++
        (function r ++ Code.joined ", " (arguments r) ++ (")" : Code)) := by simp [call]
    rw [hcall, Code.tokens_append (.inl hstart)]
    rfl
  rw [Code.tokens_append (.inr ⟨(mentions_call r).isPhrase, hbreak⟩)]
  refine Display.assigned_lastLine
    (Token.newline_not_mem_tokens delimits_shown (newline_not_mem_text hunbroken)) ?_
  rw [htokens]
  exact if_neg hname

end Call

theorem assigned_code (hname : name ∉ ["files", "proxies", "response"]) (r : Request) :
    Display.assigned name (Token.ofText ((code r).text Text.shown)) =
      (if r.cookies ≠ [] then if name = "cookies" then [some (.mapping r.cookies)] else []
        else []) ++
      (if headers r ≠ [] then if name = "headers" then [some (.mapping (headers r))] else []
        else []) ++
      (if name = "data" then dataDisplays (data r) else []) := by
  simp only [List.mem_cons, List.not_mem_nil, or_false, not_or] at hname
  obtain ⟨hfiles, hproxies, hresponse⟩ := hname
  have htable (own : String) (hname : own ∈ tableNames) (fields : List (String × String)) :
      Assigns name (dict own (literals fields))
        (if name = own then [some (.mapping fields)] else []) := assigns_mapping hname fields
  have hproxy : Assigning name ((proxyUrl? r).toList.map proxies) [] := by
    cases proxyUrl? r with
    | none => exact .nil
    | some url =>
      have hurl := htable "proxies" (by decide) [("http", url), ("https", url)]
      rw [if_neg hproxies] at hurl
      exact .singleton hurl
  have hall := ((((Assigning.singleton (assigns_imports r)).append
    (.of_wanted (r.cookies ≠ []) (htable "cookies" (by decide) r.cookies))).append
    (.of_wanted (headers r ≠ []) (htable "headers" (by decide) (headers r)))).append
    (assigning_dataBlock hfiles (data r))).append hproxy
  have htext := hall.blocks (call r) ("\n" : Code)
  rw [assigned_call hresponse] at htext
  rw [Token.ofText, Token.scan_text delimits_shown, code]
  simpa [Code.tokens] using htext

end CurlScribe.RequestsScript
