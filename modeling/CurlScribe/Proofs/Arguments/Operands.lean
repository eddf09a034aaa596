import CurlScribe.Proofs.Arguments.Append

namespace CurlScribe.Arguments

open Noted

variable {t : FlagTable} {lenient : Bool} {token : String} {tokens words : List String}
  {events : List Event} {notices : List Notice} {a : Arguments}

def IsDashed (token : String) : Prop := Text.startsWith "-" token = true

instance : DecidablePred IsDashed := fun token => decEq (Text.startsWith "-" token) true

theorem isDashed_iff : IsDashed token ↔ ∃ rest, token.toList = '-' :: rest := by
  have hdash : "-".toList = ['-'] := rfl
  rw [IsDashed, Text.startsWith, hdash]
  cases token.toList with
  | nil => simp
  | cons c rest =>
    simp only [List.isPrefixOf, Bool.and_true, beq_iff_eq, List.cons.injEq, exists_and_left,
      exists_eq', and_true]
    exact eq_comm

theorem digest_operand (h : ¬ IsDashed token) :
    digest t lenient token = .note [.operand token] >>= fun _ => return none := by
  rw [isDashed_iff] at h
  unfold digest
  split
  · exact absurd ⟨_, ‹_›⟩ h
  · exact absurd ⟨_, ‹_›⟩ h
  · exact absurd ⟨_, ‹_›⟩ h
  · rfl

theorem ne_terminator (h : ¬ IsDashed token) : token ≠ "--" := by
  rintro rfl
  exact h rfl

theorem scan_operands (h : ∀ w ∈ words, ¬ IsDashed w) :
    scan t lenient words = .note (words.map .operand) := by
  induction words with
  | nil => rfl
  | cons w words ih =>
    obtain ⟨hw, hwords⟩ := List.forall_mem_cons.1 h
    rw [scan_of_done (ne_terminator hw) (digest_operand hw), ih hwords]
    rfl

def Event.IsOfFlag (e : Event) : Prop := e.operand? = none

theorem note_isOfFlag (h : ∀ e ∈ events, e.IsOfFlag) :
    (Noted.note events : Noted Event Fault Unit).Ensures Event.IsOfFlag fun _ => True :=
  .note h trivial

theorem store_isOfFlag (f : Flag) (spelling : String) (given : Setting) :
    (store f spelling given).Ensures Event.IsOfFlag fun _ => True := by
  refine .bind (note_isOfFlag (by simp [Event.IsOfFlag, Event.operand?])) fun _ _ => ?_
  refine .bind (.ofExcept (R := fun _ => True) fun _ _ => trivial) fun _ _ => ?_
  exact note_isOfFlag (by simp [Event.IsOfFlag, Event.operand?])

theorem unknown_isOfFlag (spelling : String) :
    (unknown lenient spelling).Ensures Event.IsOfFlag fun _ => True := by
  unfold unknown
  split
  · exact note_isOfFlag (by simp [Event.IsOfFlag, Event.operand?])
  · exact .fail _

theorem long_isOfFlag (word : String) (value : Option String) :
    (long t lenient word value).Ensures Event.IsOfFlag fun _ => True := by
  refine .bind (.ofExcept (R := fun _ => True) fun _ _ => trivial) fun hit _ => ?_
  rcases hit with _ | ⟨⟨f, spelling⟩, negated⟩
  · exact .bind (unknown_isOfFlag _) fun _ _ => .pure trivial
  · simp only
    split
    · cases value with
      | none => exact .pure trivial
      | some text => exact .bind (store_isOfFlag ..) fun _ _ => .pure trivial
    · split
      · exact .fail _
      · exact .bind (store_isOfFlag ..) fun _ _ => .pure trivial

theorem cluster_isOfFlag (letters : List Char) :
    (cluster t lenient letters).Ensures Event.IsOfFlag fun _ => True := by
  induction letters with
  | nil => exact .pure trivial
  | cons c rest ih =>
    rw [cluster]
    split
    · exact .bind (unknown_isOfFlag _) fun _ _ => ih
    · split
      · split
        · exact .pure trivial
        · exact .bind (store_isOfFlag ..) fun _ _ => .pure trivial
      · exact .bind (store_isOfFlag ..) fun _ _ => ih

theorem digest_isOfFlag (hstdin : t.find? "stdin" ≠ none) (h : IsDashed token) :
    (digest t lenient token).Ensures Event.IsOfFlag fun _ => True := by
  obtain ⟨rest, htoken⟩ := isDashed_iff.1 h
  unfold digest
  split
  · exact long_isOfFlag _ _
  · exact cluster_isOfFlag _
  · split
    · exact .bind (store_isOfFlag ..) fun _ _ => .pure trivial
    · exact absurd ‹_› hstdin
  · -- What is left are texts that do not start with a dash.
    rename_i hlong hcluster hdash
    cases rest with
    | nil => exact absurd htoken hdash
    | cons c rest => exact absurd htoken (hcluster c rest)

theorem step_isOfFlag (hstdin : t.find? "stdin" ≠ none) (h : IsDashed token)
    (rest : List String) : (step t lenient token rest).Ensures Event.IsOfFlag fun _ => True := by
  refine .bind (digest_isOfFlag hstdin h) fun waiting _ => ?_
  rcases waiting with _ | s
  · exact .pure trivial
  · cases rest with
    | nil => exact .fail _
    | cons value rest => exact .bind (store_isOfFlag ..) fun _ _ => .pure trivial

theorem length_behind_le {rest behind : List String}
    (h : step t lenient token rest = ⟨events, .ok behind⟩) : behind.length ≤ rest.length := by
  rcases step_eq_ok.1 h with ⟨-, rfl⟩ | ⟨s, value, taken, stored, -, rfl, -⟩
  · exact Nat.le_refl _
  · exact Nat.le_succ _

theorem length_operands_scan (hstdin : t.find? "stdin" ≠ none)
    (h : scan t lenient tokens = ⟨events, .ok ()⟩) :
    (events.filterMap Event.operand?).length ≤ tokens.length ∧
      ((events.filterMap Event.operand?).length = tokens.length →
        ∀ token ∈ tokens, ¬ IsDashed token) := by
  induction tokens using step_induction t lenient generalizing events with
  | nil =>
    cases h
    simp
  | terminator rest =>
    rw [scan_terminator] at h
    cases h
    simp [List.filterMap_map, Function.comp_def, Event.operand?]
  | step token rest hne ih =>
    rw [scan_cons hne, Noted.bind_eq_ok] at h
    obtain ⟨first, behind, more, hstep, hmore, rfl⟩ := h
    obtain ⟨hle, hplain⟩ := ih first behind hstep hmore
    have hbehind := length_behind_le hstep
    rw [List.filterMap_append, List.length_append, List.length_cons]
    by_cases hdash : IsDashed token
    · have hfirst : first.filterMap Event.operand? = [] := by
        have hflags : (step t lenient token rest).Ensures Event.IsOfFlag fun _ => True :=
          step_isOfFlag hstdin hdash rest
        rw [hstep] at hflags
        exact List.filterMap_eq_nil_iff.2 hflags.1
      rw [hfirst, List.length_nil]
      exact ⟨by omega, fun heq => by omega⟩
    · obtain ⟨rfl, rfl⟩ : first = [.operand token] ∧ rest = behind := by
        simpa [step, digest_operand hdash, eq_comm] using hstep
      simp only [List.filterMap_cons, Event.operand?, List.filterMap_nil, List.length_singleton]
      refine ⟨by omega, fun heq => ?_⟩
      rw [List.forall_mem_cons]
      exact ⟨hdash, hplain (by omega)⟩

theorem parse_of_operands (h : scan t lenient tokens = .note (words.map .operand)) :
    parse t lenient tokens = ⟨[], .ok ⟨[], words⟩⟩ := by
  have hoccurrences : (words.map Event.operand).filterMap Event.occurrence? = [] := by
    simp [List.filterMap_map, Function.comp_def, Event.occurrence?]
  have hoperands : (words.map Event.operand).filterMap Event.operand? = words := by
    simp [List.filterMap_map, Function.comp_def, Event.operand?]
  refine parse_eq_ok.2 ⟨_, h, ?_, ?_, ?_⟩
  · simp [List.filterMap_map, Function.comp_def, Event.notice?]
  · rw [ofEvents, hoccurrences, hoperands]
  · simp [textless?]

theorem parse_terminated (words : List String) :
    parse t lenient ("--" :: words) = ⟨[], .ok ⟨[], words⟩⟩ :=
  parse_of_operands (scan_terminator words)

theorem parse_operands (h : ∀ w ∈ words, ¬ IsDashed w) :
    parse t lenient words = ⟨[], .ok ⟨[], words⟩⟩ :=
  parse_of_operands (scan_operands h)

theorem parse_eq_parse_terminated (hstdin : t.find? "stdin" ≠ none) :
    parse t lenient words = parse t lenient ("--" :: words) ↔ ∀ w ∈ words, ¬ IsDashed w := by
  constructor
  · intro h
    obtain ⟨events, hscan, -, ha, -⟩ := parse_eq_ok.1 (h.trans (parse_terminated words))
    have hoperands : words = events.filterMap Event.operand? := congrArg Arguments.operands ha
    exact (length_operands_scan hstdin hscan).2 (congrArg List.length hoperands.symm)
  · intro h
    rw [parse_operands h, parse_terminated]

theorem endsOptions_of_not_mem (h : "--" ∉ tokens) : endsOptions t lenient tokens = false := by
  fun_induction endsOptions t lenient tokens with
  | case1 => rfl
  | case2 token rest ih =>
    have hne : token ≠ "--" := fun heq => h (heq ▸ List.mem_cons_self)
    have hrest : "--" ∉ rest := mt (List.mem_cons_of_mem token) h
    rw [decide_eq_false hne, Bool.false_or]
    split at ih
    · exact ih hrest
    · exact ih (mt (List.mem_cons_of_mem _) hrest)
    · rfl

theorem append_injective (a : Arguments) : Function.Injective (a ++ ·) := by
  intro b c h
  have hoccurrences := congrArg Arguments.occurrences h
  have hoperands := congrArg Arguments.operands h
  simp only [occurrences_append, operands_append, List.append_cancel_left_eq] at *
  cases b
  cases c
  simp_all

theorem map_injective {f : Arguments → Arguments} (hf : Function.Injective f) :
    Function.Injective (Except.map f : Except Fault Arguments → Except Fault Arguments) := by
  rintro (e | b) (e' | c) h
  · cases h
    rfl
  · cases h
  · cases h
  · rw [hf (Except.ok.inj h)]

theorem parse_append_left_inj (ha : parse t lenient tokens = ⟨notices, .ok a⟩)
    (hopen : endsOptions t lenient tokens = false) (more : List String) :
    parse t lenient (tokens ++ words) = parse t lenient (tokens ++ more) ↔
      parse t lenient words = parse t lenient more := by
  rw [parse_append_eq ha hopen, parse_append_eq ha hopen]
  rcases parse t lenient words with ⟨notes, result⟩
  rcases parse t lenient more with ⟨notes', result'⟩
  simp [(map_injective (append_injective a)).eq_iff]

theorem parse_append_operands (ha : parse t lenient tokens = ⟨notices, .ok a⟩)
    (hopen : endsOptions t lenient tokens = false) {more : List String}
    (hmore : parse t lenient more = ⟨[], .ok ⟨[], words⟩⟩) :
    parse t lenient (tokens ++ more) =
      ⟨notices, .ok ⟨a.occurrences, a.operands ++ words⟩⟩ := by
  have hnone : a ++ ⟨[], words⟩ = ⟨a.occurrences, a.operands ++ words⟩ := by
    change Arguments.mk (a.occurrences ++ []) _ = _
    rw [List.append_nil]
  rw [parse_append_eq ha hopen, hmore]
  simp [Except.map, hnone]

end CurlScribe.Arguments
