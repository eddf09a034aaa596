import CurlScribe.Proofs.Target.JavaScriptNames
import CurlScribe.Proofs.Text.CharClass

namespace CurlScribe

open Token
open Code (lit IsPhrase IsClosed Separates tokens)
open Json (quoted)

namespace ObjectLiteral

variable {name : String} {field : String × Code} {fields : List (String × Code)}

def startsName (c : Char) : Bool :=
  c = '$' || c = '_' || Text.classOf c = some .letter || Text.classOf c = some .letterNumber

def continuesName (c : Char) : Bool :=
  startsName c || Text.classOf c = some .mark || Text.classOf c = some .digit
    || Text.classOf c = some .connector

/-- Whether a text is a name of the language. -/
def isName : List Char → Bool
  | [] => false
  | c :: rest => startsName c && rest.all continuesName

def isOtherNumber (c : Char) : Bool := Text.classOf c = some .otherNumber

section Names

theorem not_continuesName {c : Char} (h : isOtherNumber c = true) : continuesName c = false := by
  have hclass : Text.classOf c = some .otherNumber := of_decide_eq_true h
  have hdollar : c ≠ '$' := by
    rintro rfl
    revert hclass
    decide +kernel
  have hline : c ≠ '_' := by
    rintro rfl
    revert hclass
    decide +kernel
  simp [continuesName, startsName, hclass, hdollar, hline]

theorem continuesName_iff {c : Char} (h : Text.isWord c = true ∨ c = '$') :
    continuesName c = true ↔ isOtherNumber c = false := by
  constructor
  · intro hname
    by_contra hother
    rw [not_continuesName (Bool.not_eq_false _ ▸ hother)] at hname
    cases hname
  · intro hother
    rcases h with hword | rfl
    · rcases Text.exists_classOf hword with rfl | ⟨k, hclass, hk⟩
      · rfl
      · cases k <;> simp_all [continuesName, startsName, isOtherNumber, Text.CharClass.inWords]
    · rfl

theorem startsName_of_startsIdentifier {c : Char} (h : startsIdentifier c = true) :
    startsName c = true := by
  simp only [startsIdentifier, Bool.or_eq_true, decide_eq_true_eq] at h
  rcases h with (hletter | rfl) | rfl
  · simp [startsName, Text.classOf_of_isAlpha hletter]
  · rfl
  · rfl

theorem isName_iff (h : isIdentifier name = true) :
    isName name.toList = true ↔ ∀ c ∈ name.toList, isOtherNumber c = false := by
  unfold isIdentifier at h
  cases hname : name.toList with
  | nil => simp [hname] at h
  | cons c rest =>
    rw [hname, Bool.and_eq_true, List.all_eq_true] at h
    obtain ⟨hfirst, hrest⟩ := h
    have hstart := startsName_of_startsIdentifier hfirst
    have hother : isOtherNumber c = false := by
      by_contra hother
      have hnone := not_continuesName (Bool.not_eq_false _ ▸ hother)
      simp [continuesName, hstart] at hnone
    rw [isName, hstart, Bool.true_and, List.all_eq_true, List.forall_mem_cons]
    have hword (d : Char) (hd : d ∈ rest) : Text.isWord d = true ∨ d = '$' := by
      simpa using hrest d hd
    constructor
    · exact fun hall => ⟨hother, fun d hd => (continuesName_iff (hword d hd)).1 (hall d hd)⟩
    · exact fun hall d hd => (continuesName_iff (hword d hd)).2 (hall.2 d hd)

end Names

section Reader

/-- Where in an object literal its reader is. -/
inductive Reader
  | start
  | key
  | colon
  | value (depth : Nat)
  | behind
  deriving DecidableEq

def Reader.next? (depth : Nat) (c : Char) : Option Reader :=
  if depth = 0 ∧ c = ',' then some .key
  else if depth = 0 ∧ c = '\x7d' then some .behind
  else if c = '(' ∨ c = '[' ∨ c = '\x7b' then some (.value (depth + 1))
  else if c = ')' ∨ c = ']' ∨ c = '\x7d' then if depth = 0 then none else some (.value (depth - 1))
  else some (.value depth)

def readKey? : Reader × List (List Char) → Token → Option (Reader × List (List Char))
  | state, .mark '\n' => some state
  | (.start, keys), .mark '\x7b' => some (.key, keys)
  | (.key, keys), .label name => if isName name then some (.colon, keys ++ [name]) else none
  | (.key, keys), .literal written =>
    match readQuoted .paired written with
    | some (name, []) => some (.colon, keys ++ [name])
    | _ => none
  | (.key, keys), .mark '\x7d' => some (.behind, keys)
  | (.colon, keys), .mark ':' => some (.value 0, keys)
  | (.value depth, keys), .mark c => (Reader.next? depth c).map (·, keys)
  | (.value depth, keys), _ => some (.value depth, keys)
  | _, _ => none

def keys? (ts : List Token) : Option (List (List Char)) :=
  match ts.foldlM readKey? (.start, []) with
  | some (.behind, keys) => some keys
  | _ => none

def run (c : Code) (state : Reader × List (List Char)) : Option (Reader × List (List Char)) :=
  (c.tokens (quoted true)).foldlM readKey? state

theorem run_append {c d : Code}
    (h : IsClosed (quoted true) c ∨ IsPhrase (quoted true) c ∧ Separates d)
    (state : Reader × List (List Char)) : run (c ++ d) state = run c state >>= run d := by
  rw [run, Code.tokens_append h, List.foldlM_append]
  rfl

structure IsValue (c : Code) : Prop where
  isPhrase : IsPhrase (quoted true) c
  run : ∀ keys, run c (.value 0, keys) = some (.value 0, keys)

def IsRead (name : String) : Prop := isIdentifier name = true → isName name.toList = true

instance : DecidablePred IsRead := fun _ => inferInstanceAs (Decidable (_ → _))

def keyToken (name : String) : Token :=
  if isIdentifier name then .label name.toList else .literal (quoted true name).toList

theorem read_key (level : Nat) (name : String) :
    Token.read (quoted true) .between (indent level ++ key name ++ ": ") =
      ([keyToken name, .mark ':'], .between) := by
  have hindent := read_indent level (key name ++ (": " : Code))
  unfold key keyToken at *
  split_ifs at hindent ⊢ with hname
  · obtain ⟨hword, hne⟩ := isWordText_of_isIdentifier hname
    have hcolon : Token.read (quoted true) (.word name.toList.reverse) (": " : Code) =
        ([.label name.toList.reverse.reverse, .mark ':'], .between) := rfl
    rw [List.reverse_reverse] at hcolon
    exact hindent.trans ((Code.read_word hword hne _).trans hcolon)
  · exact hindent

theorem readKey?_keyToken (name : String) (keys : List (List Char)) :
    readKey? (.key, keys) (keyToken name) =
      if IsRead name then some (.colon, keys ++ [name.toList]) else none := by
  unfold keyToken IsRead
  by_cases hname : isIdentifier name = true
  · simp [hname, readKey?]
  · have hread : readQuoted .paired ((quoted true name).toList ++ []) = some (name.toList, []) :=
      readQuoted_of_ascii (fun _ => rfl) name []
    rw [List.append_nil] at hread
    simp [hname, readKey?, hread]

theorem run_key (level : Nat) (name : String) (keys : List (List Char)) :
    run (indent level ++ key name ++ ": ") (.key, keys) =
      if IsRead name then some (.value 0, keys ++ [name.toList]) else none := by
  rw [run, Code.tokens, read_key]
  change [keyToken name, .mark ':'].foldlM readKey? (.key, keys) = _
  rw [List.foldlM_cons, readKey?_keyToken]
  split_ifs <;> rfl

theorem run_entry (h : IsValue field.2) (level : Nat) :
    IsPhrase (quoted true) (entry level field) ∧
      ∀ keys, run (entry level field) (.key, keys) =
        if IsRead field.1 then some (.value 0, keys ++ [field.1.toList]) else none := by
  have hclosed : IsClosed (quoted true) (indent level ++ key field.1 ++ ": ") :=
    congrArg Prod.snd (read_key level field.1)
  refine ⟨Code.isPhrase_append (.inl hclosed) h.isPhrase, fun keys => ?_⟩
  rw [entry, run_append (.inl hclosed), run_key]
  split_ifs
  · exact h.run _
  · rfl

theorem run_entries (h : ∀ f ∈ fields, IsValue f.2) (hne : fields ≠ []) (level : Nat) :
    IsPhrase (quoted true) (Code.joined ",\n" (fields.map (entry level))) ∧
      ∀ keys, run (Code.joined ",\n" (fields.map (entry level))) (.key, keys) =
        if ∀ f ∈ fields, IsRead f.1 then some (.value 0, keys ++ fields.map (·.1.toList))
        else none := by
  induction fields with
  | nil => exact absurd rfl hne
  | cons field fields ih =>
    obtain ⟨hvalue, hvalues⟩ := List.forall_mem_cons.1 h
    obtain ⟨hphrase, hentry⟩ := run_entry hvalue level
    cases fields with
    | nil =>
      refine ⟨hphrase, fun keys => (hentry keys).trans ?_⟩
      simp
    | cons next fields =>
      obtain ⟨hrest, hentries⟩ := ih hvalues (List.cons_ne_nil _ _)
      let rest := Code.joined ",\n" ((next :: fields).map (entry level))
      have hjoined : Code.joined ",\n" ((field :: next :: fields).map (entry level)) =
          entry level field ++ ((",\n" : Code) ++ rest) := rfl
      have hcomma : IsClosed (quoted true) (",\n" : Code) := rfl
      have hsep : Separates ((",\n" : Code) ++ rest) := ⟨_, _, _, rfl, rfl, by decide⟩
      rw [hjoined]
      refine ⟨Code.isPhrase_append (.inr ⟨hphrase, hsep⟩)
        (Code.isPhrase_append (.inl hcomma) hrest), fun keys => ?_⟩
      have hall : (∀ f ∈ field :: next :: fields, IsRead f.1) ↔
          IsRead field.1 ∧ ∀ f ∈ next :: fields, IsRead f.1 := List.forall_mem_cons
      rw [run_append (.inr ⟨hphrase, hsep⟩), hentry]
      by_cases hread : IsRead field.1
      · have hnext : run (",\n" : Code) (.value 0, keys ++ [field.1.toList]) =
            some (.key, keys ++ [field.1.toList]) := rfl
        rw [if_pos hread, Option.bind_eq_bind, Option.bind_some, run_append (.inl hcomma), hnext,
          Option.bind_eq_bind, Option.bind_some]
        refine (hentries _).trans ?_
        simp only [hall, hread, true_and, List.append_assoc]
        rfl
      · rw [if_neg hread, if_neg fun hreads => hread (hall.1 hreads).1]
        rfl

theorem run_ending (level : Nat) (keys : List (List Char)) :
    run (("\n" : Code) ++ indent level ++ "\x7d") (.value 0, keys) = some (.behind, keys) := by
  have hread : Token.read (quoted true) .between (("\n" : Code) ++ indent level ++ "\x7d") =
      ([newline, .mark '\x7d'], .between) := by
    have hbreak : Token.read (quoted true) .between ("\n" : Code) = ([newline], .between) := rfl
    have hindent := read_indent level ("\x7d" : Code)
    rw [List.append_assoc, read_append, hbreak]
    exact congrArg (fun result => ([newline] ++ result.1, result.2)) hindent
  rw [run, Code.tokens, hread]
  rfl

theorem keys?_object (h : ∀ f ∈ fields, IsValue f.2) (level : Nat) :
    keys? (Token.ofText ((object level fields).text (quoted true))) =
      if ∀ f ∈ fields, IsRead f.1 then some (fields.map (·.1.toList)) else none := by
  have hrun : keys? (Token.ofText ((object level fields).text (quoted true))) =
      match run (object level fields) (.start, []) with
      | some (.behind, keys) => some keys
      | _ => none := by
    rw [Token.ofText, Token.scan_text (delimits_quoted true)]
    rfl
  rw [hrun]
  by_cases hne : fields = []
  · subst hne
    rfl
  obtain ⟨hphrase, hentries⟩ := run_entries h hne level
  have hobject : object level fields = ("\x7b\n" : Code) ++
      (Code.joined ",\n" (fields.map (entry level)) ++
        (("\n" : Code) ++ indent (level - 1) ++ "\x7d")) := by
    simp [object, hne]
  have hopen : IsClosed (quoted true) ("\x7b\n" : Code) := rfl
  have hsep : Separates (("\n" : Code) ++ indent (level - 1) ++ "\x7d") :=
    ⟨_, _, _, rfl, rfl, by decide⟩
  have hstart : run ("\x7b\n" : Code) (.start, []) = some (.key, []) := rfl
  rw [hobject, run_append (.inl hopen), hstart, Option.bind_eq_bind, Option.bind_some,
    run_append (.inr ⟨hphrase, hsep⟩), hentries]
  split_ifs
  · rw [Option.bind_eq_bind, Option.bind_some, run_ending]
    rfl
  · rfl

end Reader

section Values

theorem isValue_lit (s : String) : IsValue (lit s) := ⟨rfl, fun _ => rfl⟩

theorem isValue_literals (fields : List (String × String)) :
    ∀ f ∈ literals fields, IsValue f.2 := by
  rw [literals, List.forall_mem_map]
  exact fun _ _ => isValue_lit _

theorem isValue_basicHeader (platform : FetchCall.Platform) (user password : String) :
    IsValue (FetchCall.basicHeader platform user password) := by
  cases platform <;> exact ⟨rfl, fun _ => rfl⟩

theorem isValue_headers (platform : FetchCall.Platform) (r : Request) :
    ∀ f ∈ FetchCall.headers platform r, IsValue f.2 := by
  refine List.forall_mem_append.2 ⟨isValue_literals _, ?_⟩
  cases r.auth with
  | basic user password =>
    exact List.forall_mem_singleton.2 (isValue_basicHeader platform user password)
  | none | digest | bearer => exact List.forall_mem_nil _

end Values

/-- A key is a literal of its name or the name itself. A name that is written as it is, is one of
the language just if no character in it is a number of the other kind; so the keys of an object, and
of the header objects with it, read back as the names just if this is so for all that are written as
they are. -/
theorem keys_written (s : String) (level : Nat) (hvalues : ∀ f ∈ fields, IsValue f.2)
    (platform : FetchCall.Platform) (r : Request) :
    (isIdentifier s = false ∧ (key s).text (quoted true) = quoted true s ∧
        (∀ rest, readQuoted .paired (((key s).text (quoted true)).toList ++ rest) =
          some (s.toList, rest)) ∨
      isIdentifier s = true ∧ (key s).text (quoted true) = s ∧
        (isName s.toList = true ↔ ∀ c ∈ s.toList, isOtherNumber c = false)) ∧
    (keys? (Token.ofText ((object level fields).text (quoted true))) =
        some (fields.map (·.1.toList)) ↔
      ∀ f ∈ fields, isIdentifier f.1 = true → ∀ c ∈ f.1.toList, isOtherNumber c = false) ∧
    (∀ f ∈ FetchCall.headers platform r, IsValue f.2) ∧
    ∀ f ∈ AxiosCall.headers r, IsValue f.2 := by
  refine ⟨?_, ?_, isValue_headers platform r, isValue_literals _⟩
  · cases h : isIdentifier s with
    | false =>
      have htext : (key s).text (quoted true) = quoted true s := by
        rw [key, h]
        rfl
      rw [htext]
      exact .inl ⟨rfl, rfl, readQuoted_of_ascii (fun _ => rfl) s⟩
    | true =>
      have htext : (key s).text (quoted true) = s := by
        rw [key, h]
        rfl
      exact .inr ⟨rfl, htext, isName_iff h⟩
  · have hread : (∀ f ∈ fields, IsRead f.1) ↔
        ∀ f ∈ fields, isIdentifier f.1 = true → ∀ c ∈ f.1.toList, isOtherNumber c = false :=
      forall₂_congr fun f _ => forall_congr' fun h => isName_iff h
    rw [keys?_object hvalues, ← hread]
    by_cases hall : ∀ f ∈ fields, IsRead f.1
    · rw [if_pos hall]
      exact ⟨fun _ => hall, fun _ => rfl⟩
    · rw [if_neg hall]
      exact ⟨nofun, fun h => absurd h hall⟩

theorem keys_written_mixed : ∃ fields : List (String × Code),
    fields = [("Accept", lit "a"), ("X-Y", lit "b")] ∧
    (∀ f ∈ fields, IsValue f.2) ∧
    keys? (Token.ofText ((object 2 fields).text (quoted true))) =
      some ["Accept".toList, "X-Y".toList] := by
  let fields := [("Accept", lit "a"), ("X-Y", lit "b")]
  let r : Request := { method := .get, url := "http://h/" }
  have hvalues : ∀ f ∈ fields, IsValue f.2 :=
    isValue_literals [("Accept", "a"), ("X-Y", "b")]
  have hplain : ("Accept".toList.all fun c => !isOtherNumber c) = true := by decide +kernel
  have hquoted : isIdentifier "X-Y" = false := by decide +kernel
  obtain ⟨-, hkeys, -⟩ := keys_written "Accept" 2 hvalues .browser r
  refine ⟨fields, rfl, hvalues, hkeys.2 (List.forall_mem_cons.2
    ⟨fun _ => by simpa using hplain, List.forall_mem_singleton.2 fun h => ?_⟩)⟩
  rw [hquoted] at h
  cases h

theorem keys_written_superscript : ∃ a r,
    (Arguments.parse .curl true ["-H", "a²: v", "http://h/"]).result = .ok a ∧
    a.request.result = .ok r ∧
    FetchCall.headers .browser r = [("a²", lit "v")] ∧
    (key "a²").text (quoted true) = "a²" ∧ isName "a²".toList = false ∧
    keys? (Token.ofText ((object 2 (FetchCall.headers .browser r)).text (quoted true))) = none := by
  let a : Arguments := ⟨[⟨"header", true, .word "a²: v"⟩], ["http://h/"]⟩
  let r : Request := { method := .get, url := "http://h/", headers := [("a²", "v")] }
  have hr : a.request.result = .ok r := by decide +kernel
  exact ⟨a, r, by cbv, hr, by decide +kernel, by decide +kernel, by decide +kernel,
    by decide +kernel⟩

end ObjectLiteral

end CurlScribe
