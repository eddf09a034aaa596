import CurlScribe.Proofs.Arguments.Append
import CurlScribe.Proofs.CommandLine.Outcome
import CurlScribe.Proofs.Request.Unsupported

namespace CurlScribe.CommandLine

open Arguments

variable {i : Invocation} {a : Arguments} {names others : List String} {name : String}

def Outcome.seen (o : Outcome) : Nat × String := (o.status, o.output)

def ending (conversion : Except Failure String) : Except Failure (Nat × String) :=
  match conversion with
  | .ok code => .ok (0, code)
  | .error f => if f.isUnforeseen then .error f else .ok (2, "")

theorem seen_failed (before : List String) (warnings : List Warning) (verbose : Bool)
    (f : Failure) : (failed before warnings verbose f).map Outcome.seen = ending (.error f) := by
  simp only [failed, ending]
  split <;> rfl

theorem seen_convert (i : Invocation) (warnings : List Warning) (a : Arguments) :
    (convert i warnings a).map Outcome.seen =
      ending (Target.ofKey (languageOf i a) >>= fun t => (conversion i t a).result) := by
  cases ht : Target.ofKey (languageOf i a) with
  | error f =>
    rw [convert_of_no_target ht]
    exact seen_failed ..
  | ok t =>
    change _ = ending (conversion i t a).result
    cases hresult : (conversion i t a).result with
    | error f =>
      rw [convert_of_failure ht hresult]
      exact seen_failed ..
    | ok code =>
      rw [convert_of_code ht hresult]
      rfl

def verboseOn : Arguments := ⟨[⟨"verbose", false, .toggle true⟩], []⟩

section Quiet

theorem sameOn_verboseOn (h : "verbose" ∉ names) : SameOn names (verboseOn ++ a) a := by
  rw [SameOn, occurrences_append, List.filter_append]
  simp [verboseOn, h]

theorem isOn_verboseOn (h : name ≠ "verbose") : (verboseOn ++ a).isOn name = a.isOn name :=
  (sameOn_verboseOn (by simpa using h.symm)).isOn (List.mem_singleton_self name)

theorem without_verboseOn (h : "verbose" ∉ others) :
    (verboseOn ++ a).without others = verboseOn ++ a.without others := by
  have hfilter : verboseOn.occurrences.filter (!others.contains ·.name) =
      verboseOn.occurrences := by
    simp [verboseOn, h]
  unfold without
  rw [occurrences_append, List.filter_append, hfilter]
  rfl

theorem request_verboseOn : (verboseOn ++ a).request.result = a.request.result := by
  have hlocation : SameOn locationFlags (verboseOn ++ a) a := sameOn_verboseOn (by decide)
  exact (sameOn_verboseOn (by decide)).result_request (hlocation.location rfl)

theorem checkStdinAlone_verboseOn :
    (verboseOn ++ a).checkStdinAlone = a.checkStdinAlone := by
  have hnames : (verboseOn ++ a).names.filter (!stdinCompanions.contains ·) =
      a.names.filter (!stdinCompanions.contains ·) := by
    unfold Arguments.names
    rw [← firsts_filter, ← firsts_filter, order_append, List.filter_append]
    rfl
  have hoperands : (verboseOn ++ a).operands = a.operands := rfl
  rw [checkStdinAlone, hnames, hoperands, isOn_verboseOn (by decide), checkStdinAlone]

theorem conversion_verboseOn (t : Target) :
    (conversion i t (verboseOn ++ a)).result = (conversion i t a).result := by
  unfold conversion
  rw [isOn_verboseOn (by decide), checkStdinAlone_verboseOn]
  split
  · rfl
  · have hrequest : (Conversion.request ((verboseOn ++ a).without ownFlags)).result =
        (Conversion.request (a.without ownFlags)).result := by
      rw [without_verboseOn (by decide)]
      exact congrArg (Except.mapError Failure.request) request_verboseOn
    unfold Conversion.ofArguments
    rw [Noted.result_bind, Noted.result_bind, hrequest]

theorem seen_convert_verboseOn (warnings more : List Warning) :
    (convert i warnings (verboseOn ++ a)).map Outcome.seen =
      (convert i more a).map Outcome.seen := by
  have hlanguage : (verboseOn ++ a).text? "language" = a.text? "language" :=
    (sameOn_verboseOn (by decide)).text? (List.mem_singleton_self "language")
  rw [seen_convert, seen_convert, languageOf, hlanguage, languageOf]
  simp only [conversion_verboseOn]

end Quiet

theorem passedOn_eq_nil {arguments : List String} (h : passedOn arguments = []) :
    arguments = [] ∨ arguments = ["--"] := by
  cases arguments with
  | nil => exact .inl rfl
  | cons a rest =>
    rw [passedOn] at h
    split at h
    · rename_i hterm
      exact .inr (by rw [hterm, h])
    · split at h <;> cases h

theorem parse_verbose (arguments : List String) :
    parse .program false ("-v" :: arguments) =
      ⟨(parse .program false arguments).notes,
        (parse .program false arguments).result.map (verboseOn ++ ·)⟩ := by
  have hflag : parse .program false ["-v"] = ⟨[], .ok verboseOn⟩ := by cbv
  have hopen : endsOptions .program false ["-v"] = false := endsOptions_of_not_mem (by decide)
  exact parse_append_eq hflag hopen arguments

theorem seen_outcomeOf_verbose {arguments : List String} (hne : arguments ≠ []) :
    (outcomeOf i ("-v" :: arguments)).map Outcome.seen =
      (outcomeOf i arguments).map Outcome.seen := by
  rcases hread : parse .program false arguments with ⟨notices, f | a⟩
  · have hverbose := parse_verbose arguments
    rw [hread] at hverbose
    rw [outcomeOf_of_fault hverbose, outcomeOf_of_fault hread, seen_failed, seen_failed]
  · have hverbose := parse_verbose arguments
    rw [hread] at hverbose
    rw [outcomeOf_of_read hverbose (List.cons_ne_nil _ _), outcomeOf_of_read hread hne,
      isOn_verboseOn (by decide), isOn_verboseOn (by decide)]
    split
    · rfl
    · split
      · rfl
      · exact seen_convert_verboseOn ..

/-- A `-v` before all other arguments changes neither the status nor the output, nor a failure that
the program has no words for. -/
theorem run_verbose (hne : i.arguments ≠ []) (hterm : i.arguments ≠ ["--"]) :
    (run { i with arguments := "-v" :: i.arguments }).map Outcome.seen =
      (run i).map Outcome.seen := by
  have hpassed : passedOn ("-v" :: i.arguments) = "-v" :: passedOn i.arguments :=
    passedOn_of_not_endsWalk (by decide) (by decide) _
  have hleft : passedOn i.arguments ≠ [] := fun h => (passedOn_eq_nil h).elim hne hterm
  have hshown (x : Except Failure Outcome) : (x.map Outcome.shown).map Outcome.seen =
      (x.map Outcome.seen).map fun (status, output) =>
        (status, Text.ControlSequence.remove output) := by
    cases x <;> rfl
  rw [run_eq, run_eq, hpassed, hshown, hshown]
  exact congrArg _ (seen_outcomeOf_verbose (i := i) hleft)

example : (run { arguments := ["-v", "-d"] }).map Outcome.seen =
    (run { arguments := ["-d"] }).map Outcome.seen := by
  decide +kernel

theorem run_verbose_off :
    ["--no-verbose", "-d", "a=1"] ≠ [] ∧ ["--no-verbose", "-d", "a=1"] ≠ ["--"] ∧
    (run { arguments := ["-v", "--no-verbose", "-d", "a=1"] }).map Outcome.seen = .ok (2, "") ∧
    (run { arguments := ["--no-verbose", "-d", "a=1"] }).map Outcome.seen = .ok (2, "") := by
  have hsame := run_verbose (i := { arguments := ["--no-verbose", "-d", "a=1"] }) nofun nofun
  have hquiet : (run { arguments := ["--no-verbose", "-d", "a=1"] }).map Outcome.seen =
      .ok (2, "") := by decide +kernel
  exact ⟨nofun, nofun, hsame.trans hquiet, hquiet⟩

end CurlScribe.CommandLine
