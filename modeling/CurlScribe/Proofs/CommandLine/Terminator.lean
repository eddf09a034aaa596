import CurlScribe.CommandLine
import CurlScribe.Proofs.Arguments.Operands

namespace CurlScribe.CommandLine

open Arguments

variable {i : Invocation} {before after flags words : List String} {argument : String}

/-- Whether the walk over the arguments ends at this one, because it is no flag. -/
def EndsWalk (argument : String) : Prop := ¬ IsDashed argument ∨ argument = "-"

instance : DecidablePred EndsWalk := fun argument =>
  inferInstanceAs (Decidable (¬ IsDashed argument ∨ argument = "-"))

theorem passedOn_of_endsWalk (h : EndsWalk argument) (rest : List String) :
    passedOn (argument :: rest) = argument :: rest := by
  have hne : argument ≠ "--" := by
    rintro rfl
    revert h
    decide
  rw [passedOn, if_neg hne]
  rcases h with h | rfl
  · simp [Bool.eq_false_iff.2 h]
  · simp

theorem passedOn_of_not_endsWalk (h : ¬ EndsWalk argument) (hne : argument ≠ "--")
    (rest : List String) : passedOn (argument :: rest) = argument :: passedOn rest := by
  obtain ⟨hdash, hstdin⟩ := not_or.1 h
  have hdash : Text.startsWith "-" argument = true := not_not.1 hdash
  simp [passedOn, hne, hdash, hstdin]

theorem passedOn_append_of_endsWalk (hterm : "--" ∉ before) (h : ∃ a ∈ before, EndsWalk a) :
    passedOn (before ++ after) = before ++ after := by
  induction before with
  | nil => simp at h
  | cons a before ih =>
    rw [List.cons_append]
    by_cases hends : EndsWalk a
    · exact passedOn_of_endsWalk hends _
    · have hne : a ≠ "--" := fun heq => hterm (heq ▸ List.mem_cons_self)
      have hrest : ∃ b ∈ before, EndsWalk b := by simpa [hends] using h
      rw [passedOn_of_not_endsWalk hends hne, ih (mt (List.mem_cons_of_mem a) hterm) hrest]

theorem passedOn_append_terminator (hterm : "--" ∉ before) (h : ∀ a ∈ before, ¬ EndsWalk a) :
    passedOn (before ++ "--" :: after) = before ++ after := by
  induction before with
  | nil => rw [List.nil_append, passedOn, if_pos rfl, List.nil_append]
  | cons a before ih =>
    have hne : a ≠ "--" := fun heq => hterm (heq ▸ List.mem_cons_self)
    obtain ⟨hends, hrest⟩ := List.forall_mem_cons.1 h
    rw [List.cons_append, passedOn_of_not_endsWalk hends hne,
      ih (mt (List.mem_cons_of_mem a) hterm) hrest, List.cons_append]

def Outcome.shown (o : Outcome) : Outcome :=
  { o with
    output := Text.ControlSequence.remove o.output
    messages := o.messages.map Text.ControlSequence.remove }

def outcomeOf (i : Invocation) (arguments : List String) : Except Failure Outcome :=
  let parsed := Conversion.arguments .program false arguments
  match parsed.result with
  | .error f => failed [] parsed.notes (isVerbose arguments) f
  | .ok a =>
    if a.isOn "help" then .ok ⟨0, usage i, [], none⟩
    else if a.isOn "version" then .ok ⟨0, version ++ "\n", [], none⟩
    else if arguments = [] then .ok ⟨2, usage i, [], none⟩
    else convert i parsed.notes a

theorem run_eq (i : Invocation) : run i = (outcomeOf i (passedOn i.arguments)).map Outcome.shown :=
  rfl

theorem outcomeOf_of_parse {arguments : List String} {notices : List Arguments.Notice}
    {a : Arguments} (h : parse .program false arguments = ⟨notices, .ok a⟩)
    (hhelp : a.isOn "help" = false) (hversion : a.isOn "version" = false) (hne : arguments ≠ []) :
    outcomeOf i arguments = convert i (notices.map .arguments) a := by
  simp [outcomeOf, Conversion.arguments, h, Noted.mapNotes, Noted.mapError, Except.mapError, hhelp,
    hversion, hne]

theorem find?_stdin : FlagTable.program.find? "stdin" ≠ none := by
  decide

/-- Behind flags that can be read, a `--` makes operands of all words, and the program converts
them so if a word among the flags ends the walk, or if no word behind starts with a dash. Otherwise
the `--` is lost, and the words behind it are read for flags. -/
theorem run_terminated {notices : List Arguments.Notice} {a : Arguments} (hterm : "--" ∉ flags)
    (hread : parse .program false flags = ⟨notices, .ok a⟩)
    (hhelp : a.isOn "help" = false) (hversion : a.isOn "version" = false)
    (hi : i.arguments = flags ++ "--" :: words) :
    parse .program false i.arguments = ⟨notices, .ok ⟨a.occurrences, a.operands ++ words⟩⟩ ∧
    (parse .program false (passedOn i.arguments) = parse .program false i.arguments ↔
      (∃ f ∈ flags, EndsWalk f) ∨ ∀ w ∈ words, ¬ IsDashed w) ∧
    ((∃ f ∈ flags, EndsWalk f) ∨ (∀ w ∈ words, ¬ IsDashed w) ∧ flags ++ words ≠ [] →
      run i = (convert i (notices.map .arguments)
        ⟨a.occurrences, a.operands ++ words⟩).map Outcome.shown) ∧
    ((∀ f ∈ flags, ¬ EndsWalk f) →
      run i = (outcomeOf i (flags ++ words)).map Outcome.shown) := by
  have hopen : endsOptions .program false flags = false := endsOptions_of_not_mem hterm
  have hgiven : parse .program false i.arguments =
      ⟨notices, .ok ⟨a.occurrences, a.operands ++ words⟩⟩ := by
    rw [hi]
    exact parse_append_operands hread hopen (parse_terminated words)
  have hkept (h : ∃ f ∈ flags, EndsWalk f) : passedOn i.arguments = i.arguments := by
    rw [hi]
    exact passedOn_append_of_endsWalk hterm h
  have hlost (h : ∀ f ∈ flags, ¬ EndsWalk f) : passedOn i.arguments = flags ++ words := by
    rw [hi]
    exact passedOn_append_terminator hterm h
  have hconvert {arguments : List String} (hpassed : passedOn i.arguments = arguments)
      (hne : arguments ≠ [])
      (hparse : parse .program false arguments = parse .program false i.arguments) :
      run i = (convert i (notices.map .arguments)
        ⟨a.occurrences, a.operands ++ words⟩).map Outcome.shown := by
    rw [run_eq, hpassed, outcomeOf_of_parse (hparse.trans hgiven) hhelp hversion hne]
  have hreads : parse .program false (flags ++ words) = parse .program false i.arguments ↔
      ∀ w ∈ words, ¬ IsDashed w := by
    rw [hi, parse_append_left_inj hread hopen, parse_eq_parse_terminated find?_stdin]
  refine ⟨hgiven, ?_, ?_, fun h => by rw [run_eq, hlost h]⟩
  · by_cases h : ∃ f ∈ flags, EndsWalk f
    · simp [hkept h, h]
    · have h' : ∀ f ∈ flags, ¬ EndsWalk f := by simpa using h
      rw [hlost h', hreads, or_iff_right h]
  · intro h
    by_cases hends : ∃ f ∈ flags, EndsWalk f
    · exact hconvert (hkept hends) (by simp [hi]) rfl
    · have hends' : ∀ f ∈ flags, ¬ EndsWalk f := by simpa using hends
      obtain ⟨hplain, hne⟩ := h.resolve_left hends
      exact hconvert (hlost hends') hne (hreads.2 hplain)

theorem run_terminated_value : ∃ a,
    parse .program false ["-X", "PUT"] = ⟨[], .ok a⟩ ∧ EndsWalk "PUT" ∧
    run { arguments := ["-X", "PUT", "--", "-k"] } =
      (convert { arguments := ["-X", "PUT", "--", "-k"] } []
        ⟨a.occurrences, ["-k"]⟩).map Outcome.shown := by
  let a : Arguments := ⟨[⟨"request", false, .word "PUT"⟩], []⟩
  let i : Invocation := { arguments := ["-X", "PUT", "--", "-k"] }
  have hi : i.arguments = ["-X", "PUT"] ++ "--" :: ["-k"] := rfl
  have hread : parse .program false ["-X", "PUT"] = ⟨[], .ok a⟩ := by cbv
  have hends : EndsWalk "PUT" := by decide
  have hword : ∃ f ∈ ["-X", "PUT"], EndsWalk f := ⟨"PUT", by simp, hends⟩
  obtain ⟨-, -, hconvert, -⟩ :=
    run_terminated (by decide) hread (by decide) (by decide) hi
  exact ⟨a, hread, hends, hconvert (.inl hword)⟩

theorem run_terminated_lost :
    parse .program false ["-L"] = ⟨[], .ok ⟨[⟨"location", false, .toggle true⟩], []⟩⟩ ∧
    (run { arguments := ["-L", "--", "-k"] }).map (fun o => (o.status, o.messages)) =
      .ok (2, ["error: no URL provided"]) ∧
    (convert { arguments := ["-L", "--", "-k"] } []
      ⟨[⟨"location", false, .toggle true⟩], ["-k"]⟩).map (fun o => (o.status, o.messages)) =
      .ok (0, []) :=
  ⟨by cbv, by decide +kernel, by decide +kernel⟩

end CurlScribe.CommandLine
