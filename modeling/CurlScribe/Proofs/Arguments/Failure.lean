import CurlScribe.Proofs.Arguments.Setting

namespace CurlScribe.Arguments

open Noted

variable {t : FlagTable} {lenient : Bool} {token : String} {tokens rest behind : List String}
  {events : List Event} {f : Fault}

theorem exists_step_of_append {more : List String}
    (h : step t lenient token rest = ⟨events, .ok (behind ++ more)⟩) :
    ∃ taken, rest = taken ++ more ∧ step t lenient token taken = ⟨events, .ok behind⟩ := by
  rcases step_eq_ok.1 h with ⟨hd, rfl⟩ | ⟨s, value, taken, stored, hd, rfl, hs, rfl⟩
  · exact ⟨behind, rfl, step_eq_ok.2 (.inl ⟨hd, rfl⟩)⟩
  · exact ⟨value :: behind, rfl, step_eq_ok.2 (.inr ⟨s, value, taken, stored, hd, rfl, hs, rfl⟩)⟩

theorem scan_eq_error (h : scan t lenient tokens = ⟨events, .error f⟩) :
    ∃ before token rest first more, tokens = before ++ token :: rest ∧
      scan t lenient before = ⟨first, .ok ()⟩ ∧ endsOptions t lenient before = false ∧
      step t lenient token rest = ⟨more, .error f⟩ ∧ events = first ++ more := by
  induction tokens using step_induction t lenient generalizing events with
  | nil => simp [scan] at h
  | terminator rest => simp [scan_terminator] at h
  | step token rest hne ih =>
    rw [scan_cons hne, Noted.bind_eq_error] at h
    rcases h with hstep | ⟨notes, behind, later, hstep, hscan, rfl⟩
    · exact ⟨[], token, rest, [], events, rfl, rfl, rfl, hstep, rfl⟩
    · obtain ⟨before, failing, after, first, more, rfl, hbefore, hopen, hfail, rfl⟩ :=
        ih notes behind hstep hscan
      obtain ⟨taken, rfl, htaken⟩ := exists_step_of_append hstep
      refine ⟨token :: taken, failing, after, notes ++ first, more, rfl, ?_, ?_, hfail, by simp⟩
      · rw [scan_cons hne, htaken, Noted.bind_ok, hbefore]
      · rw [endsOptions_cons hne htaken, hopen]

def Fault.IsOfToken (f : Fault) : Prop := ∀ name, f ≠ .notAText name

theorem setting_error {flag : Flag} {spelling : String} {given : Setting}
    (h : setting flag spelling given = .error f) : f = .notAChoice spelling given flag.choices := by
  unfold setting at h
  split at h
  · split at h
    · cases h
    · split at h
      · cases h
      · cases h
        rfl
  · cases h

theorem store_failsOnly (flag : Flag) (spelling : String) (given : Setting) :
    FailsOnly Fault.IsOfToken (store flag spelling given) := by
  refine .bind .done fun _ => .bind ?_ fun _ => .done
  intro f h
  rw [setting_error h]
  exact nofun

theorem unknown_failsOnly (spelling : String) :
    FailsOnly Fault.IsOfToken (unknown lenient spelling) := by
  unfold unknown
  split
  · exact .done
  · exact .failed nofun

theorem resolve_error {word : String} (h : resolve t word = .error f) :
    ∃ candidates, f = .ambiguous word candidates := by
  unfold resolve at h
  split at h
  · cases h
  · simp only at h
    split at h
    · cases h
    · split at h
      · cases h
      · cases h
      · cases h
        exact ⟨_, rfl⟩

theorem long_failsOnly (word : String) (value : Option String) :
    FailsOnly Fault.IsOfToken (long t lenient word value) := by
  refine .bind ?_ fun hit => ?_
  · intro f h
    obtain ⟨candidates, rfl⟩ := resolve_error h
    exact nofun
  · rcases hit with _ | ⟨⟨flag, spelling⟩, negated⟩
    · exact .bind (unknown_failsOnly _) fun _ => .done
    · dsimp only
      split
      · cases value with
        | none => exact .done
        | some text => exact .bind (store_failsOnly _ _ _) fun _ => .done
      · split
        · exact .failed nofun
        · exact .bind (store_failsOnly _ _ _) fun _ => .done

theorem cluster_failsOnly (letters : List Char) :
    FailsOnly Fault.IsOfToken (cluster t lenient letters) := by
  induction letters with
  | nil => exact .done
  | cons c rest ih =>
    rw [cluster]
    split
    · exact .bind (unknown_failsOnly _) fun _ => ih
    · split
      · split
        · exact .done
        · exact .bind (store_failsOnly _ _ _) fun _ => .done
      · exact .bind (store_failsOnly _ _ _) fun _ => ih

theorem digest_failsOnly (token : String) :
    FailsOnly Fault.IsOfToken (digest t lenient token) := by
  unfold digest
  split
  · exact long_failsOnly _ _
  · exact cluster_failsOnly _
  · split
    · exact .bind (store_failsOnly _ _ _) fun _ => .done
    · exact .bind .done fun _ => .done
  · exact .bind .done fun _ => .done

theorem step_failsOnly (token : String) (rest : List String) :
    FailsOnly Fault.IsOfToken (step t lenient token rest) := by
  refine .bind (digest_failsOnly token) fun waiting => ?_
  rcases waiting with _ | s
  · exact .done
  · cases rest with
    | nil => exact .failed nofun
    | cons value rest => exact .bind (store_failsOnly _ _ _) fun _ => .done

theorem textless?_eq_none (ht : t.Regular) (h : scan t lenient tokens = ⟨events, .ok ()⟩) :
    (ofEvents events).textless? = none := by
  refine List.find?_eq_none.2 fun o ho => ?_
  obtain ⟨e, he, ho⟩ := List.mem_filterMap.1 ho
  obtain ⟨g, hg, -, hc, spelling, given, hu, hv⟩ :=
    (@scan_arises t lenient tokens).1 e (by rwa [h]) o ho
  have hholds := holds_of_use (ht.flags g hg) (ht.stdin g hg) hu hv
  rw [hc]
  generalize o.setting = s at hholds
  cases hholds <;> simp_all [Setting.text?]

theorem parse_of_scan (ht : t.Regular) (h : scan t lenient tokens = ⟨events, .ok ()⟩) :
    parse t lenient tokens = ⟨events.filterMap Event.notice?, .ok (ofEvents events)⟩ :=
  parse_eq_ok.2 ⟨events, h, rfl, rfl, textless?_eq_none ht h⟩

theorem parse_eq_error {notices : List Notice} (ht : t.Regular) :
    parse t lenient tokens = ⟨notices, .error f⟩ ↔
      ∃ events, scan t lenient tokens = ⟨events, .error f⟩ ∧
        notices = events.filterMap Event.notice? := by
  rcases hs : scan t lenient tokens with ⟨events, e | _⟩
  · simp [parse, hs, bind, Except.bind]
    grind
  · simp [parse_of_scan ht hs]

theorem exists_step_of_parse_error {notices : List Notice} (ht : t.Regular)
    (h : parse t lenient tokens = ⟨notices, .error f⟩) :
    ∃ before token rest earlier a more, tokens = before ++ token :: rest ∧
      parse t lenient before = ⟨earlier, .ok a⟩ ∧ endsOptions t lenient before = false ∧
      step t lenient token rest = ⟨more, .error f⟩ ∧
      notices = earlier ++ more.filterMap Event.notice? := by
  obtain ⟨events, hscan, rfl⟩ := (parse_eq_error ht).1 h
  obtain ⟨before, token, rest, first, more, rfl, hbefore, hopen, hstep, rfl⟩ := scan_eq_error hscan
  exact ⟨before, token, rest, _, _, more, rfl, parse_of_scan ht hbefore, hopen, hstep,
    List.filterMap_append⟩

end CurlScribe.Arguments
