import CurlScribe.Conversion
import CurlScribe.Proofs.Arguments.Failure
import CurlScribe.Proofs.Request.WellFormed

namespace CurlScribe.Conversion

open Arguments Request

variable {α : Type} {t : Target} {lenient : Bool} {tokens : List String} {a : Arguments}
  {r : Request} {code : String} {f : Failure} {warnings : List Warning}
  {read : List Arguments.Notice} {built : List Request.Notice} {written : List Target.Notice}

/-- What a caller gets: the code or a failure, and the warnings that come with it. Only the failures
that the program has words for carry any. -/
def outcome (c : Noted Warning Failure α) : Except Failure α × List Warning :=
  match c.result with
  | .ok a => (.ok a, c.notes)
  | .error f => (.error f, if f.isUnforeseen then [] else c.notes)

@[simp] theorem outcome_ok {a : α} : outcome ⟨warnings, .ok a⟩ = (.ok a, warnings) := rfl

theorem outcome_foreseen (h : f.isUnforeseen = false) :
    outcome (⟨warnings, .error f⟩ : Noted Warning Failure α) = (.error f, warnings) := by
  simp [outcome, h]

theorem outcome_unforeseen (h : f.isUnforeseen = true) :
    outcome (⟨warnings, .error f⟩ : Noted Warning Failure α) = (.error f, []) := by
  simp [outcome, h]

section Stages

theorem ofTokens_of_unread {f : Arguments.Fault}
    (h : parse .curl lenient tokens = ⟨read, .error f⟩) :
    ofTokens t lenient tokens = ⟨read.map .arguments, .error (.arguments f)⟩ := by
  simp [ofTokens, arguments, h, Noted.mapNotes, Noted.mapError, Except.mapError]

theorem ofTokens_of_read {result : Except Failure String}
    (hread : parse .curl lenient tokens = ⟨read, .ok a⟩) (h : ofArguments t a = ⟨warnings, result⟩) :
    ofTokens t lenient tokens = ⟨read.map .arguments ++ warnings, result⟩ := by
  simp [ofTokens, arguments, hread, h, Noted.mapNotes, Noted.mapError, Except.mapError]

theorem ofArguments_of_unbuilt {f : Request.Fault} (h : a.request = ⟨built, .error f⟩) :
    ofArguments t a = ⟨built.map .request, .error (.request f)⟩ := by
  simp [ofArguments, request, h, Noted.mapNotes, Noted.mapError, Except.mapError]

theorem ofArguments_of_unwritten {f : Target.Fault} (hbuilt : a.request = ⟨built, .ok r⟩)
    (h : t.write r = ⟨written, .error f⟩) :
    ofArguments t a = ⟨built.map .request ++ written.map .target, .error (.target t f)⟩ := by
  simp [ofArguments, request, Conversion.code, hbuilt, h, Noted.mapNotes, Noted.mapError,
    Except.mapError]

theorem ofArguments_of_written (hbuilt : a.request = ⟨built, .ok r⟩)
    (h : t.write r = ⟨written, .ok code⟩) :
    ofArguments t a = ⟨built.map .request ++ written.map .target, .ok code⟩ := by
  simp [ofArguments, request, Conversion.code, hbuilt, h, Noted.mapNotes, Noted.mapError,
    Except.mapError]

end Stages

theorem isUnforeseen_of_parse {flags : FlagTable} {f : Arguments.Fault} (hflags : flags.Regular)
    (h : parse flags lenient tokens = ⟨read, .error f⟩) :
    (Failure.arguments f).isUnforeseen = false := by
  obtain ⟨before, token, rest, -, -, more, -, -, -, hstep, -⟩ :=
    exists_step_of_parse_error hflags h
  have hf : f.IsOfToken := step_failsOnly token rest f (by rw [hstep])
  cases f with
  | notAText name => exact absurd rfl (hf name)
  | _ => rfl

/-- Whichever stage is the last, the warnings are those of the stages until then, in their order,
and the last gives those until it fails. Only if the number of redirects is too large for the
program, or the target's failure is one without words, are all of them lost. -/
theorem outcome_ofTokens (t : Target) (lenient : Bool) (tokens : List String) :
    (∀ read f, parse .curl lenient tokens = ⟨read, .error f⟩ →
      outcome (ofTokens t lenient tokens) = (.error (.arguments f), read.map .arguments) ∧
      ∃ before token rest earlier a more, tokens = before ++ token :: rest ∧
        parse .curl lenient before = ⟨earlier, .ok a⟩ ∧
        step .curl lenient token rest = ⟨more, .error f⟩ ∧
        read = earlier ++ more.filterMap Event.notice?) ∧
    ∀ read a, parse .curl lenient tokens = ⟨read, .ok a⟩ →
      (∀ built f, a.request = ⟨built, .error f⟩ →
        outcome (ofTokens t lenient tokens) = (.error (.request f),
          if f matches .tooLarge _ then [] else read.map .arguments ++ built.map .request)) ∧
      ∀ built r, a.request = ⟨built, .ok r⟩ →
        (∀ written f, t.write r = ⟨written, .error f⟩ →
          outcome (ofTokens t lenient tokens) = (.error (.target t f),
            if (Failure.target t f).isUnforeseen then []
            else read.map .arguments ++ built.map .request ++ written.map .target)) ∧
        ∀ written code, t.write r = ⟨written, .ok code⟩ →
          outcome (ofTokens t lenient tokens) =
            (.ok code, read.map .arguments ++ built.map .request ++ written.map .target) := by
  refine ⟨fun read f hread => ⟨?_, ?_⟩, fun read a hread => ⟨fun built f hbuilt => ?_,
    fun built r hbuilt => ⟨fun written f hwritten => ?_, fun written code hwritten => ?_⟩⟩⟩
  · have hforeseen := isUnforeseen_of_parse FlagTable.regular_curl hread
    rw [ofTokens_of_unread hread, outcome_foreseen hforeseen]
  · obtain ⟨before, token, rest, earlier, a, more, htokens, hbefore, -, hstep, hread⟩ :=
      exists_step_of_parse_error FlagTable.regular_curl hread
    exact ⟨before, token, rest, earlier, a, more, htokens, hbefore, hstep, hread⟩
  · rw [ofTokens_of_read hread (ofArguments_of_unbuilt hbuilt)]
    cases f <;> rfl
  · rw [ofTokens_of_read hread (ofArguments_of_unwritten hbuilt hwritten), List.append_assoc]
    rfl
  · rw [ofTokens_of_read hread (ofArguments_of_written hbuilt hwritten), outcome_ok,
      List.append_assoc]

example : outcome (ofTokens .go true ["-!", "--data"]) =
    (.error (.arguments (.missingValue "--data")), [.arguments (.unknown "-!")]) := by
  decide +kernel

theorem outcome_ofTokens_strest :
    outcome (ofTokens .strest true ["-!", "-xp", "-d@f", "http://a/", "http://b/"]) =
      (.error (.target .strest .bodyFromFile),
        [.arguments (.unknown "-!"), .request (.severalUrls 2 "http://a/"),
         .target (.unsupported .strest .proxy)]) := by
  let a : Arguments := ⟨[⟨"proxy", false, .word "p"⟩, ⟨"data", true, .word "@f"⟩],
    ["http://a/", "http://b/"]⟩
  let r : Request :=
    { method := .post, url := "http://a/", body := .raw "" (some "f"), proxy := some "p" }
  have hread : parse .curl true ["-!", "-xp", "-d@f", "http://a/", "http://b/"] =
      ⟨[.unknown "-!"], .ok a⟩ := by cbv
  have hbuilt : a.request = ⟨[.severalUrls 2 "http://a/"], .ok r⟩ :=
    congrArg₂ Noted.mk (by decide) (by decide)
  have hwritten : Target.strest.write r = ⟨[.unsupported .strest .proxy], .error .bodyFromFile⟩ :=
    congrArg₂ Noted.mk (by decide) (by decide)
  exact (((outcome_ofTokens ..).2 _ _ hread).2 _ _ hbuilt).1 _ _ hwritten

theorem outcome_of_tooLarge {number : String} {n : Int}
    (hnumber : Numeral.integer? number = some n) (hlarge : isTooLarge n = true) : ∃ a built f,
    parse .curl true ["-!", "--max-redirs", number, "http://h/"] = ⟨[.unknown "-!"], .ok a⟩ ∧
    a.request = ⟨built, .error f⟩ ∧
    outcome (ofTokens .python true ["-!", "--max-redirs", number, "http://h/"]) =
      (.error (.request f), []) := by
  let a : Arguments := ⟨[⟨"max-redirs", false, .word number⟩], ["http://h/"]⟩
  have hread : parse .curl true ["-!", "--max-redirs", number, "http://h/"] =
      ⟨[.unknown "-!"], .ok a⟩ := by cbv
  have hlocate : locate "http://h/" = .ok ⟨"http://h/", none⟩ :=
    locate_eq_ok.2 ⟨by decide, by decide, ⟨"http".toList, ['h'], ['/'], [], []⟩, none,
      by cbv, rfl, by decide, by decide, by cbv⟩
  have hredirects : a.maxRedirects = .error (.tooLarge n) := by
    have htext : a.text? "max-redirs" = some number := by cbv
    simp [Arguments.maxRedirects, number?, htext, hnumber, hlarge]
  have hresult : a.request.result = .error (.tooLarge n) :=
    request_eq_error.2 (.inr ⟨_, location_eq_ok.2 ⟨_, [], by cbv, hlocate⟩, hredirects⟩)
  have hbuilt := Noted.eq_of_result hresult
  refine ⟨a, _, _, hread, hbuilt, ?_⟩
  rw [ofTokens_of_read hread (ofArguments_of_unbuilt hbuilt), outcome_unforeseen rfl]

theorem outcome_ofTokens_redirects : ∃ a built f,
    parse .curl true ["-!", "--max-redirs", .ofList ('1' :: List.replicate 400 '0'), "http://h/"] =
      ⟨[.unknown "-!"], .ok a⟩ ∧
    a.request = ⟨built, .error f⟩ ∧
    outcome (ofTokens .python true
        ["-!", "--max-redirs", .ofList ('1' :: List.replicate 400 '0'), "http://h/"]) =
      (.error (.request f), []) := by
  have hnumber : Numeral.integer? (.ofList ('1' :: List.replicate 400 '0')) = some (10 ^ 400) := by
    simp only [Numeral.integer?, Numeral.plain?, String.toList_ofList]
    decide +kernel
  have hlarge : isTooLarge (10 ^ 400) = true := by decide +kernel
  exact outcome_of_tooLarge hnumber hlarge

end CurlScribe.Conversion
