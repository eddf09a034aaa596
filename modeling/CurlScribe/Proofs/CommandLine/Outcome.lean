import CurlScribe.Proofs.CommandLine.Terminator
import CurlScribe.Proofs.Target.Code
import CurlScribe.Proofs.Text.ControlSequence
import CurlScribe.Proofs.Text.Cut

/-!
How the program ends. Each line of its messages has a label, and its output is the usage, the
version or code. Since the output is stripped of control sequences, code with one in it is not whole.
-/

namespace CurlScribe.CommandLine

open Arguments
open Text.ControlSequence (IsSequence remove)

variable {i : Invocation} {a : Arguments} {arguments : List String} {o : Outcome}

def languageOf (i : Invocation) (a : Arguments) : String :=
  ((a.text? "language").filter (· ≠ "")).getD (defaultLanguage i)

theorem convert_of_no_target {f : Failure} (ht : Target.ofKey (languageOf i a) = .error f)
    (warnings : List Warning) :
    convert i warnings a = failed [] warnings (a.isOn "verbose") f := by
  unfold languageOf at ht
  simp only [convert, ht]

theorem convert_of_failure {t : Target} {f : Failure}
    (ht : Target.ofKey (languageOf i a) = .ok t) (hf : (conversion i t a).result = .error f)
    (warnings : List Warning) : convert i warnings a =
      failed (hints a) (warnings ++ (conversion i t a).notes) (a.isOn "verbose") f := by
  unfold languageOf at ht
  simp only [convert, ht, hf]

theorem convert_of_code {t : Target} {code : String}
    (ht : Target.ofKey (languageOf i a) = .ok t) (hcode : (conversion i t a).result = .ok code)
    (warnings : List Warning) : convert i warnings a = .ok ⟨0, code, hints a ++
      if a.isOn "verbose" then warningLines (warnings ++ (conversion i t a).notes) else [],
      none⟩ := by
  unfold languageOf at ht
  simp only [convert, ht, hcode]

theorem outcomeOf_of_fault {notices : List Arguments.Notice}
    {f : Arguments.Fault} (h : parse .program false arguments = ⟨notices, .error f⟩) :
    outcomeOf i arguments =
      failed [] (notices.map .arguments) (isVerbose arguments) (.arguments f) := by
  simp [outcomeOf, Conversion.arguments, h, Noted.mapNotes, Noted.mapError, Except.mapError]

theorem outcomeOf_of_read {notices : List Arguments.Notice}
    (h : parse .program false arguments = ⟨notices, .ok a⟩) (hne : arguments ≠ []) :
    outcomeOf i arguments =
      if a.isOn "help" then .ok ⟨0, usage i, [], none⟩
      else if a.isOn "version" then .ok ⟨0, version ++ "\n", [], none⟩
      else convert i (notices.map .arguments) a := by
  simp [outcomeOf, Conversion.arguments, h, Noted.mapNotes, Noted.mapError, Except.mapError, hne]

def AsksVerbose (arguments : List String) : Prop :=
  isVerbose arguments = true ∨
    ∃ a, (parse .program false arguments).result = .ok a ∧ a.isOn "verbose" = true

/-- The ways in which the program ends. -/
inductive Ends (i : Invocation) (arguments : List String) : Outcome → Prop
  | unused : arguments = [] → Ends i arguments ⟨2, usage i, [], none⟩
  | help {a : Arguments} : (parse .program false arguments).result = .ok a →
      a.isOn "help" = true → Ends i arguments ⟨0, usage i, [], none⟩
  | version {a : Arguments} : (parse .program false arguments).result = .ok a →
      a.isOn "version" = true → Ends i arguments ⟨0, version ++ "\n", [], none⟩
  | failed {before : List String} {warnings : List Warning} {verbose : Bool} {f : Failure}
      {o : Outcome} : before = [] ∨ (∃ a, before = hints a) →
      (verbose = true → AsksVerbose arguments) →
      failed before warnings verbose f = .ok o → arguments ≠ [] → Ends i arguments o
  | code {a : Arguments} {notices : List Arguments.Notice} {t : Target} {notes : List Warning}
      {code : String} : parse .program false arguments = ⟨notices, .ok a⟩ →
      Target.ofKey (languageOf i a) = .ok t → conversion i t a = ⟨notes, .ok code⟩ →
      Ends i arguments ⟨0, code, hints a ++
        if a.isOn "verbose" then warningLines (notices.map .arguments ++ notes) else [], none⟩

theorem ends_of_outcomeOf (h : outcomeOf i arguments = .ok o) : Ends i arguments o := by
  by_cases hne : arguments = []
  · subst hne
    obtain rfl := Except.ok.inj h
    exact .unused rfl
  rcases hread : parse .program false arguments with ⟨notices, f | a⟩
  · rw [outcomeOf_of_fault hread] at h
    exact .failed (.inl rfl) .inl h hne
  · have hresult : (parse .program false arguments).result = .ok a := by rw [hread]
    rw [outcomeOf_of_read hread hne] at h
    split at h
    · rename_i hhelp
      obtain rfl := Except.ok.inj h
      exact .help hresult hhelp
    split at h
    · rename_i hversion
      obtain rfl := Except.ok.inj h
      exact .version hresult hversion
    have hasks (hverbose : a.isOn "verbose" = true) : AsksVerbose arguments :=
      .inr ⟨a, hresult, hverbose⟩
    cases ht : Target.ofKey (languageOf i a) with
    | error f =>
      rw [convert_of_no_target ht] at h
      exact .failed (.inl rfl) hasks h hne
    | ok t =>
      cases hc : (conversion i t a).result with
      | error f =>
        rw [convert_of_failure ht hc] at h
        exact .failed (.inr ⟨a, rfl⟩) hasks h hne
      | ok code =>
        rw [convert_of_code ht hc] at h
        obtain rfl := Except.ok.inj h
        exact .code hread ht (Noted.eq_of_result hc)

section Messages

def IsLabelled (line : String) : Prop :=
  "warning: ".toList <+: line.toList ∨ "error: ".toList <+: line.toList

/-- A message on one line. -/
structure IsMessage (line : String) : Prop where
  labelled : IsLabelled line
  oneLine : '\n' ∉ line.toList

theorem isMessage_of_mem_messageLines {label text line : String}
    (hlabel : label = "warning" ∨ label = "error") (h : line ∈ messageLines label text) :
    IsMessage line := by
  obtain ⟨piece, hpiece, rfl⟩ := List.mem_map.1 h
  obtain ⟨cs, hcs, rfl⟩ := List.mem_map.1 hpiece
  have hline := Text.not_mem_of_mem_splitList hcs
  rcases hlabel with rfl | rfl
  · refine ⟨.inl ⟨cs, by simp⟩, ?_⟩
    simpa using hline
  · refine ⟨.inr ⟨cs, by simp⟩, ?_⟩
    simpa using hline

theorem isMessage_of_mem_warningLines {warnings : List Warning} {line : String}
    (h : line ∈ warningLines warnings) : IsMessage line := by
  obtain ⟨w, -, hline⟩ := List.mem_flatMap.1 h
  exact isMessage_of_mem_messageLines (.inl rfl) hline

theorem hints_cases (a : Arguments) :
    hints a = [] ∨ hints a = wholeCommandLines ["curl "] := by
  have hlines (urls : List String) :
      wholeCommandLines urls = [] ∨ wholeCommandLines urls = wholeCommandLines ["curl "] := by
    unfold wholeCommandLines
    split
    · exact .inr rfl
    · exact .inl rfl
  unfold hints
  split
  · exact .inl rfl
  · exact hlines a.urls

theorem hint_ofList {cs : List Char} (hlabel : "warning: ".toList <+: cs) (hbreak : '\n' ∉ cs)
    (hescape : '\x1b' ∉ cs) :
    IsMessage (.ofList cs) ∧ '\x1b' ∉ (String.ofList cs).toList := by
  have hcs : (String.ofList cs).toList = cs := String.toList_ofList
  exact ⟨⟨.inl (by rwa [hcs]), by rwa [hcs]⟩, by rwa [hcs]⟩

theorem hint_plain {line : String} (h : line ∈ hints a) :
    IsMessage line ∧ '\x1b' ∉ line.toList := by
  rcases hints_cases a with hhints | hhints
  · rw [hhints] at h
    cases h
  · have hcurl : ["curl "].any (Text.startsWith "curl ") = true := by decide
    rw [hhints, wholeCommandLines, if_pos hcurl] at h
    simp only [List.mem_cons, List.not_mem_nil, or_false] at h
    rcases h with rfl | rfl | rfl <;> exact hint_ofList (by decide) (by decide) (by decide)

theorem map_remove_hints (a : Arguments) : (hints a).map remove = hints a :=
  (List.map_congr_left fun _ hline =>
    Text.ControlSequence.remove_eq_self (hint_plain hline).2).trans (List.map_id _)

theorem IsMessage.remove {line : String} (h : IsMessage line) : IsMessage (remove line) := by
  refine ⟨?_, mt Text.ControlSequence.mem_of_mem_remove h.oneLine⟩
  have hlabel {label : String} (hlabel : '\x1b' ∉ label.toList)
      (h : label.toList <+: line.toList) :
      label.toList <+: (Text.ControlSequence.remove line).toList := by
    obtain ⟨rest, hrest⟩ := h
    have hline : line = label ++ .ofList rest := by
      rw [← String.toList_inj, ← hrest, String.toList_append, String.toList_ofList]
    rw [hline, Text.ControlSequence.remove_append hlabel, String.toList_append]
    exact List.prefix_append ..
  exact h.labelled.imp (hlabel (by decide)) (hlabel (by decide))

def Outcome.errorText (o : Outcome) : String := Text.joined "" (o.messages.map (· ++ "\n"))

theorem split_errorText (h : ∀ line ∈ o.messages, '\n' ∉ line.toList) :
    Text.split '\n' o.errorText = o.messages ++ [""] := by
  have hsplit (messages : List String) (h : ∀ line ∈ messages, '\n' ∉ line.toList) :
      Text.splitList '\n' (messages.flatMap fun line => line.toList ++ ['\n']) =
        messages.map String.toList ++ [[]] := by
    induction messages with
    | nil => rfl
    | cons line messages ih =>
      obtain ⟨hline, hmessages⟩ := List.forall_mem_cons.1 h
      rw [List.flatMap_cons, List.append_assoc, List.singleton_append,
        Text.splitList_append hline, ih hmessages, List.map_cons, List.cons_append]
  have htext : o.errorText.toList = o.messages.flatMap fun line => line.toList ++ ['\n'] := by
    rw [Outcome.errorText, Code.toList_joined_empty, List.flatMap_map]
    simp
  rw [Text.split, htext, hsplit o.messages h]
  simp

end Messages

theorem not_mem_ofList {c : Char} {cs : List Char} (h : c ∉ cs) : c ∉ (String.ofList cs).toList := by
  rwa [String.toList_ofList]

theorem not_escape_mem_usage (i : Invocation) : '\x1b' ∉ (usage i).toList := by
  have hchoice (t : Target) : '\x1b' ∉ (choiceLine i t).toList := by
    have hkey : '\x1b' ∉ t.key.toList := by cases t <;> exact not_mem_ofList (by decide)
    unfold choiceLine
    simp only [String.toList_append, List.mem_append, not_or]
    refine ⟨⟨not_mem_ofList (by decide), hkey⟩, ?_⟩
    split <;> exact not_mem_ofList (by decide)
  intro h
  rcases Text.mem_joined h with h | ⟨line, hline, h⟩
  · exact not_mem_ofList (by decide) h
  · rw [List.mem_append, List.mem_append] at hline
    rcases hline with (hline | hline) | hline
    · simp only [List.mem_cons, List.not_mem_nil, or_false] at hline
      rcases hline with rfl | rfl | rfl <;> exact not_mem_ofList (by decide) h
    · obtain ⟨t, -, rfl⟩ := List.mem_map.1 hline
      exact hchoice t h
    · simp only [List.mem_cons, List.not_mem_nil, or_false] at hline
      rcases hline with rfl | rfl | rfl | rfl | rfl | rfl <;> exact not_mem_ofList (by decide) h

theorem sublist_passedOn (arguments : List String) : (passedOn arguments).Sublist arguments := by
  induction arguments with
  | nil => exact List.nil_sublist _
  | cons a rest ih =>
    rw [passedOn]
    split
    · exact (List.Sublist.refl rest).cons a
    · split
      · exact ih.cons_cons a
      · exact List.Sublist.refl _

theorem isVerbose_of_passedOn (h : isVerbose (passedOn arguments) = true) :
    isVerbose arguments = true := by
  have hsub := (sublist_passedOn arguments).subset
  simp only [isVerbose, Bool.or_eq_true, List.contains_iff_mem] at h ⊢
  exact h.imp (@hsub _) (@hsub _)

theorem failed_eq_ok {before : List String} {warnings : List Warning} {verbose : Bool}
    {f : Failure} (h : failed before warnings verbose f = .ok o) :
    o = ⟨2, "",
      before ++ warningLines warnings ++ if verbose then [] else messageLines "error" f.message,
      if verbose then some f else none⟩ := by
  unfold failed at h
  split at h
  · cases h
  · exact (Except.ok.inj h).symm

namespace Ends

variable (h : Ends i arguments o)

include h

theorem isMessage : ∀ line ∈ o.messages, IsMessage line := by
  cases h with
  | unused | help | version => exact nofun
  | failed hbefore _ hfailed =>
    obtain rfl := failed_eq_ok hfailed
    refine List.forall_mem_append.2 ⟨List.forall_mem_append.2 ⟨fun line hline => ?_,
      fun line => isMessage_of_mem_warningLines⟩, fun line hline => ?_⟩
    · rcases hbefore with rfl | ⟨a, rfl⟩
      · cases hline
      · exact (hint_plain hline).1
    · split at hline
      · cases hline
      · exact isMessage_of_mem_messageLines (.inr rfl) hline
  | code =>
    refine List.forall_mem_append.2 ⟨fun line hline => (hint_plain hline).1, fun line hline => ?_⟩
    split at hline
    · exact isMessage_of_mem_warningLines hline
    · cases hline

theorem trace (hquiet : ¬ AsksVerbose arguments) : o.trace = none := by
  cases h with
  | failed _ hverbose hfailed =>
    obtain rfl := failed_eq_ok hfailed
    exact if_neg (mt hverbose hquiet)
  | _ => rfl

theorem status : o.status = 0 ∨ o.status = 2 := by
  cases h with
  | unused => exact .inr rfl
  | failed _ _ hfailed =>
    obtain rfl := failed_eq_ok hfailed
    exact .inr rfl
  | _ => exact .inl rfl

theorem output_of_status (hstatus : o.status = 2) :
    o.output = if arguments = [] then usage i else "" := by
  cases h with
  | unused hempty => exact (if_pos hempty).symm
  | failed _ _ hfailed hne =>
    obtain rfl := failed_eq_ok hfailed
    exact (if_neg hne).symm
  | _ => cases hstatus

end Ends

/-- How a run ends: in success, with the usage, the version or code, or in failure, with no output
but the usage if there are no arguments. Control sequences are taken out of the code, so it is whole
just if there is none in it. What was noted is said to those who ask for verbosity, and without that
all lines of standard error have labels. -/
theorem run_ends (h : run i = .ok o) :
    (o.status = 0 ∨ o.status = 2) ∧
    (o.status = 2 → o.output = if passedOn i.arguments = [] then usage i else "") ∧
    (o.status = 0 → ∃ a notices, parse .program false (passedOn i.arguments) = ⟨notices, .ok a⟩ ∧
      (a.isOn "help" = true ∧ o.output = usage i ∨
        a.isOn "version" = true ∧ o.output = version ++ "\n" ∨
        ∃ t notes code, Target.ofKey (languageOf i a) = .ok t ∧
          conversion i t a = ⟨notes, .ok code⟩ ∧ o.output = remove code ∧
          (o.output = code ↔ ∀ s, IsSequence s → ¬ s <:+: code.toList) ∧
          o.messages = hints a ++
            if a.isOn "verbose" then
              (warningLines (notices.map .arguments ++ notes)).map remove
            else [])) ∧
    ((∀ word ∈ i.arguments, word ≠ "-v" ∧ word ≠ "--verbose") →
      (∀ a, (parse .program false (passedOn i.arguments)).result = .ok a →
        a.isOn "verbose" = false) →
      o.trace = none ∧ Text.split '\n' o.errorText = o.messages ++ [""] ∧
        ∀ line ∈ o.messages, IsLabelled line) := by
  rw [run_eq] at h
  cases hends : outcomeOf i (passedOn i.arguments) with
  | error f =>
    rw [hends] at h
    cases h
  | ok raw =>
    rw [hends] at h
    obtain rfl := Except.ok.inj h
    replace hends := ends_of_outcomeOf hends
    have husage : remove (usage i) = usage i :=
      Text.ControlSequence.remove_eq_self (not_escape_mem_usage i)
    refine ⟨hends.status, fun hstatus => ?_, fun hstatus => ?_, fun hwords hoptions => ?_⟩
    · have houtput := congrArg remove (hends.output_of_status hstatus)
      rw [apply_ite remove, husage] at houtput
      exact houtput
    · cases hends with
      | unused => cases hstatus
      | failed _ _ hfailed =>
        obtain rfl := failed_eq_ok hfailed
        cases hstatus
      | @help a hread hhelp => exact ⟨a, _, Noted.eq_of_result hread, .inl ⟨hhelp, husage⟩⟩
      | @version a hread hversion =>
        exact ⟨a, _, Noted.eq_of_result hread, .inr (.inl ⟨hversion, by decide⟩)⟩
      | @code a notices t notes code hread ht hcode =>
        refine ⟨a, notices, hread, .inr (.inr ⟨t, notes, code, ht, hcode, rfl,
          Text.ControlSequence.remove_eq_self_iff, ?_⟩)⟩
        change List.map remove _ = _
        rw [List.map_append, map_remove_hints, apply_ite (List.map remove)]
        rfl
    · have hquiet : ¬ AsksVerbose (passedOn i.arguments) := by
        rintro (hverbose | ⟨a, hread, hverbose⟩)
        · have hmem := isVerbose_of_passedOn hverbose
          simp only [isVerbose, Bool.or_eq_true, List.contains_iff_mem] at hmem
          rcases hmem with hmem | hmem
          · exact (hwords _ hmem).2 rfl
          · exact (hwords _ hmem).1 rfl
        · rw [hoptions a hread] at hverbose
          cases hverbose
      have hmessage : ∀ line ∈ raw.messages.map remove, IsMessage line :=
        List.forall_mem_map.2 fun line hline => (hends.isMessage line hline).remove
      exact ⟨hends.trace hquiet, split_errorText fun line hline => (hmessage line hline).oneLine,
        fun line hline => (hmessage line hline).labelled⟩

theorem exists_of_map_run {α : Type} {f : Outcome → α} {x : α} (h : (run i).map f = .ok x) :
    ∃ o, run i = .ok o ∧ f o = x := by
  cases hrun : run i with
  | error f => simp [hrun, Except.map] at h
  | ok o => exact ⟨o, rfl, by simpa [hrun, Except.map] using h⟩

theorem run_ends_break : ∃ o, run { arguments := ["-\n", "http://h/"] } = .ok o ∧
    o.status = 2 ∧ o.output = "" ∧ o.trace = none ∧
    o.messages = ["error: option -", "error: : is unknown"] ∧
    ∀ line ∈ o.messages, IsLabelled line := by
  let i : Invocation := { arguments := ["-\n", "http://h/"] }
  have hmap : (run i).map (fun o => (o.status, o.messages)) =
      .ok (2, ["error: option -", "error: : is unknown"]) := by decide +kernel
  have hread : (parse .program false (passedOn i.arguments)).result =
      .error (.unknown "-\n") := by decide +kernel
  obtain ⟨o, hrun, ho⟩ := exists_of_map_run hmap
  obtain ⟨hstatus, hmessages⟩ := Prod.mk.inj ho
  obtain ⟨-, houtput, -, hlabels⟩ := run_ends hrun
  obtain ⟨htrace, -, hlines⟩ := hlabels (by decide) (by rw [hread]; exact nofun)
  exact ⟨o, hrun, hstatus, houtput hstatus, htrace, hmessages, hlines⟩

theorem run_ends_cut : ∃ a code o,
    (parse .program false ["-H", "X: a\x1b[31mb", "http://h/"]).result = .ok a ∧
    (conversion { arguments := ["-H", "X: a\x1b[31mb", "http://h/"], language := some "ruby" }
      .ruby a).result = .ok code ∧
    run { arguments := ["-H", "X: a\x1b[31mb", "http://h/"], language := some "ruby" } = .ok o ∧
    o.status = 0 ∧ o.output ≠ code ∧
    code = "require 'net/http'\n\nuri = URI('http://h/')\nreq = Net::HTTP::Get.new(uri)\n"
      ++ "req['X'] = 'a\x1b[31mb'\n\nreq_options = \x7b\n  use_ssl: uri.scheme == 'https',\n\x7d\n"
      ++ "res = Net::HTTP.start(uri.hostname, uri.port, req_options) do |http|\n"
      ++ "  http.request(req)\nend\n" ∧
    o.output = "require 'net/http'\n\nuri = URI('http://h/')\nreq = Net::HTTP::Get.new(uri)\n"
      ++ "req['X'] = 'ab'\n\nreq_options = \x7b\n  use_ssl: uri.scheme == 'https',\n\x7d\n"
      ++ "res = Net::HTTP.start(uri.hostname, uri.port, req_options) do |http|\n"
      ++ "  http.request(req)\nend\n" := by
  let i : Invocation :=
    { arguments := ["-H", "X: a\x1b[31mb", "http://h/"], language := some "ruby" }
  let a : Arguments := ⟨[⟨"header", true, .word "X: a\x1b[31mb"⟩], ["http://h/"]⟩
  let start := "require 'net/http'\n\nuri = URI('http://h/')\nreq = Net::HTTP::Get.new(uri)\n"
  let value := "b'\n\nreq_options = \x7b\n  use_ssl: uri.scheme == 'https',\n\x7d\n"
  let rest := "res = Net::HTTP.start(uri.hostname, uri.port, req_options) do |http|\n"
    ++ "  http.request(req)\nend\n"
  let cut := ['\x1b', '[', '3', '1', 'm']
  have hread : (parse .program false i.arguments).result = .ok a := by cbv
  have hcode : (conversion i .ruby a).result =
      .ok (start ++ "req['X'] = 'a" ++ (.ofList cut ++ (value ++ rest))) := by decide +kernel
  have hcut : IsSequence cut :=
    @IsSequence.mk ['3', '1'] [] 'm'
      (List.forall_mem_cons.2 ⟨by decide, List.forall_mem_singleton.2 (by decide)⟩)
      (List.forall_mem_nil _) (by decide)
  have hstart : '\x1b' ∉ (start ++ "req['X'] = 'a").toList := by
    rw [String.toList_append, List.mem_append, not_or]
    exact ⟨not_mem_ofList (by decide), not_mem_ofList (by decide)⟩
  have hrest : '\x1b' ∉ (value ++ rest).toList := by
    simp only [rest, String.toList_append, List.mem_append, not_or]
    exact ⟨not_mem_ofList (by decide), not_mem_ofList (by decide), not_mem_ofList (by decide)⟩
  have hremove : remove (start ++ "req['X'] = 'a" ++ (.ofList cut ++ (value ++ rest))) =
      start ++ "req['X'] = 'a" ++ (value ++ rest) := by
    rw [Text.ControlSequence.remove_append hstart,
      Text.ControlSequence.remove_sequence_append hcut,
      Text.ControlSequence.remove_eq_self hrest]
  have hline : "req['X'] = 'a\x1b[31mb'\n\nreq_options = \x7b\n  use_ssl: uri.scheme == 'https',\n\x7d\n" =
      "req['X'] = 'a" ++ (.ofList cut ++ value) := by decide
  have hless : "req['X'] = 'ab'\n\nreq_options = \x7b\n  use_ssl: uri.scheme == 'https',\n\x7d\n" =
      "req['X'] = 'a" ++ value := by decide
  have hlanguage : Target.ofKey (languageOf i a) = .ok .ruby := by decide
  have hpassed : passedOn i.arguments = i.arguments := by decide
  have hrun := run_eq i
  rw [hpassed, outcomeOf_of_read (Noted.eq_of_result hread) (by decide), if_neg (by decide),
    if_neg (by decide), convert_of_code hlanguage hcode] at hrun
  refine ⟨a, _, _, hread, hcode, hrun, rfl, fun heq => ?_, ?_, hremove.trans ?_⟩
  · replace heq := hremove.symm.trans heq
    have hlength := congrArg (fun s => s.toList.length) heq
    simp [cut] at hlength
  · simp only [hline, rest, String.append_assoc, -String.reduceAppend]
    rfl
  · simp only [hless, rest, String.append_assoc, -String.reduceAppend]
    rfl

end CurlScribe.CommandLine
