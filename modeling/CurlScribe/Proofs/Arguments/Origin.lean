import CurlScribe.Proofs.Arguments.Step
import CurlScribe.Proofs.Flag.Lookup
import CurlScribe.Proofs.Noted

namespace CurlScribe.Arguments

inductive Use (f : Flag) : String → Setting → Prop
  | value {spelling text} :
      spelling ∈ f.spellings → f.takesValue spelling = true → Use f spelling (.word text)
  | switch {spelling} :
      spelling ∈ f.spellings → f.takesValue spelling = false → Use f spelling (.toggle true)
  | negation {spelling} :
      spelling ∈ f.spellings → f.kind = .toggle → f.negatable = true →
        Use f spelling (.toggle false)
  | dash : f.name = "stdin" → Use f "-" (.toggle true)

/-- An occurrence that a use of a flag of the table leads to. -/
def Arises (t : FlagTable) (o : Occurrence) : Prop :=
  ∃ f ∈ t.flags, o.name = f.name ∧ o.collects = decide (f.kind = .list) ∧
    ∃ spelling given, Use f spelling given ∧ setting f spelling given = .ok o.setting

def Event.Arises (t : FlagTable) (e : Event) : Prop :=
  ∀ o, e.occurrence? = some o → Arguments.Arises t o

def Spelled.Waits (t : FlagTable) (s : Spelled) : Prop :=
  s.flag ∈ t.flags ∧ s.spelling ∈ s.flag.spellings ∧ s.flag.takesValue s.spelling = true

variable {t : FlagTable} {lenient : Bool} {f : Flag} {spelling : String} {given : Setting}

theorem note_arises {events : List Event} (h : ∀ e ∈ events, e.occurrence? = none) :
    (Noted.note events : Noted Event Fault Unit).Ensures (Event.Arises t) fun _ => True := by
  refine .note ?_ trivial
  intro e he o ho
  rw [h e he] at ho
  cases ho

theorem store_arises (hf : f ∈ t.flags) (hu : Use f spelling given) :
    (store f spelling given).Ensures (Event.Arises t) fun _ => True := by
  unfold store
  refine .bind (note_arises (by simp [Event.occurrence?])) fun _ _ => ?_
  refine .bind (.ofExcept (R := fun v => setting f spelling given = .ok v) fun v h => h) fun v hv => ?_
  refine .note ?_ trivial
  intro e he o ho
  obtain rfl := List.mem_singleton.1 he
  cases ho
  exact ⟨f, hf, rfl, rfl, spelling, given, hu, hv⟩

theorem unknown_arises :
    (unknown lenient spelling).Ensures (Event.Arises t) fun _ => True := by
  unfold unknown
  split
  · exact note_arises (by simp [Event.occurrence?])
  · exact .fail _

theorem mem_spellings_long {word : String} (h : word ∈ f.long) :
    Flag.longSpelling word ∈ f.spellings :=
  List.mem_append_left _ (List.mem_map_of_mem h)

theorem mem_spellings_short {letter : String} (h : letter ∈ f.short) :
    Flag.shortSpelling letter ∈ f.spellings :=
  List.mem_append_right _ (List.mem_map_of_mem h)

theorem resolve_exact {word : String} (h : t.long? word = some f) :
    resolve t word = .ok (some (⟨f, Flag.longSpelling word⟩, false)) := by
  rw [resolve, h]

theorem resolve_eq_some {word : String} {negated : Bool}
    (h : resolve t word = .ok (some (⟨f, spelling⟩, negated))) :
    (t.long? word = some f ∧ spelling = Flag.longSpelling word ∧ negated = false) ∨
      (∃ rest, Text.afterStart? "no-" word = some rest ∧ t.long? rest = some f ∧
        f.kind = .toggle ∧ f.negatable = true ∧ spelling = Flag.longSpelling rest ∧
        negated = true) ∨
      ∃ long, t.complete word = .unique long f ∧ spelling = Flag.longSpelling long ∧
        negated = false := by
  unfold resolve at h
  split at h
  · rename_i g hg
    cases h
    exact .inl ⟨hg, rfl, rfl⟩
  · dsimp only at h
    split at h
    · rename_i hit hn
      cases h
      obtain ⟨rest, hr, hn⟩ := Option.bind_eq_some_iff.1 hn
      obtain ⟨g, hg, hn⟩ := Option.bind_eq_some_iff.1 hn
      split at hn
      · rename_i hk
        cases hn
        exact .inr (.inl ⟨rest, hr, hg, hk.1, hk.2, rfl, rfl⟩)
      · cases hn
    · split at h
      · cases h
      · rename_i long g hc
        cases h
        exact .inr (.inr ⟨long, hc, rfl, rfl⟩)
      · cases h

theorem spelling_of_resolve {word : String} {negated : Bool}
    (h : resolve t word = .ok (some (⟨f, spelling⟩, negated))) :
    f ∈ t.flags ∧ spelling ∈ f.spellings ∧
      (negated = true → f.kind = .toggle ∧ f.negatable = true) := by
  rcases resolve_eq_some h with ⟨hl, rfl, rfl⟩ | ⟨rest, -, hl, hk, hn, rfl, rfl⟩ |
    ⟨long, hc, rfl, rfl⟩
  · obtain ⟨hf, hw⟩ := FlagTable.long?_eq_some.1 hl
    exact ⟨hf, mem_spellings_long hw, by simp⟩
  · obtain ⟨hf, hw⟩ := FlagTable.long?_eq_some.1 hl
    exact ⟨hf, mem_spellings_long hw, fun _ => ⟨hk, hn⟩⟩
  · obtain ⟨-, hf, hw, -⟩ := FlagTable.mem_of_complete hc
    exact ⟨hf, mem_spellings_long hw, by simp⟩

theorem long_arises (word : String) (value : Option String) :
    (long t lenient word value).Ensures (Event.Arises t) fun s => ∀ x, s = some x → x.Waits t := by
  unfold long
  refine .bind (.ofExcept fun r h => h) fun r hr => ?_
  rcases r with _ | ⟨⟨f, spelling⟩, negated⟩
  · exact .bind unknown_arises fun _ _ => .pure (by simp)
  · obtain ⟨hf, hs, hn⟩ := spelling_of_resolve hr
    simp only
    split
    · rename_i hv
      cases value with
      | none =>
        refine .pure ?_
        rintro x ⟨⟩
        exact ⟨hf, hs, hv⟩
      | some text => exact .bind (store_arises hf (.value hs hv)) fun _ _ => .pure (by simp)
    · rename_i hv
      split
      · exact .fail _
      · refine .bind (store_arises hf ?_) fun _ _ => .pure (by simp)
        cases negated with
        | false => exact .switch hs (by simpa using hv)
        | true => exact .negation hs (hn rfl).1 (hn rfl).2

theorem cluster_arises (letters : List Char) :
    (cluster t lenient letters).Ensures (Event.Arises t) fun s => ∀ x, s = some x → x.Waits t := by
  induction letters with
  | nil => exact .pure (by simp)
  | cons c rest ih =>
    rw [cluster]
    cases hc : t.short? (.singleton c) with
    | none => exact .bind unknown_arises fun _ _ => ih
    | some f =>
      obtain ⟨hf, hl⟩ := FlagTable.short?_eq_some.1 hc
      have hs := mem_spellings_short hl
      simp only
      split
      · rename_i hv
        split
        · refine .pure ?_
          rintro x ⟨⟩
          exact ⟨hf, hs, hv⟩
        · exact .bind (store_arises hf (.value hs hv)) fun _ _ => .pure (by simp)
      · rename_i hv
        exact .bind (store_arises hf (.switch hs (by simpa using hv))) fun _ _ => ih

theorem digest_arises (token : String) :
    (digest t lenient token).Ensures (Event.Arises t) fun s => ∀ x, s = some x → x.Waits t := by
  have operand : (Noted.note [Event.operand token] : Noted Event Fault Unit).Ensures
      (Event.Arises t) fun _ => True := note_arises (by simp [Event.occurrence?])
  unfold digest
  split
  · exact long_arises _ _
  · exact cluster_arises _
  · split
    · rename_i f hf
      obtain ⟨hf, hn⟩ := FlagTable.find?_eq_some.1 hf
      exact .bind (store_arises hf (.dash hn)) fun _ _ => .pure (by simp)
    · exact .bind operand fun _ _ => .pure (by simp)
  · exact .bind operand fun _ _ => .pure (by simp)

theorem step_arises (token : String) (rest : List String) :
    (step t lenient token rest).Ensures (Event.Arises t) fun _ => True := by
  refine .bind (digest_arises token) fun waiting hw => ?_
  rcases waiting with _ | ⟨f, spelling⟩
  · exact .pure trivial
  · cases rest with
    | nil => exact .fail _
    | cons value rest =>
      obtain ⟨hf, hs, hv⟩ := hw _ rfl
      exact .bind (store_arises hf (.value hs hv)) fun _ _ => .pure trivial

theorem scan_arises (tokens : List String) :
    (scan t lenient tokens).Ensures (Event.Arises t) fun _ => True := by
  induction tokens using step_induction t lenient with
  | nil => exact .pure trivial
  | terminator rest =>
    rw [scan_terminator]
    exact note_arises (by simp [Event.occurrence?])
  | step token rest hne ih =>
    rw [scan_cons hne]
    exact (step_arises token rest).outcome.bind fun behind ⟨notes, h⟩ => ih notes behind h

theorem parse_eq_ok {tokens : List String} {notices : List Notice} {a : Arguments} :
    parse t lenient tokens = ⟨notices, .ok a⟩ ↔
      ∃ events, scan t lenient tokens = ⟨events, .ok ()⟩ ∧
        notices = events.filterMap Event.notice? ∧ a = ofEvents events ∧ a.textless? = none := by
  rcases hs : scan t lenient tokens with ⟨events, e | _⟩
  · simp [parse, hs, bind, Except.bind]
  · cases ht : (ofEvents events).textless? with
    | none => simp [parse, hs, ht, bind, Except.bind, pure, Except.pure]; grind
    | some o => simp [parse, hs, ht, bind, Except.bind]; grind

/-- What holds of all arguments that are read against a table: they consist of uses of its flags,
and a flag that collects texts has one each time. -/
structure Fits (t : FlagTable) (a : Arguments) : Prop where
  arises : ∀ o ∈ a.occurrences, Arises t o
  texts : ∀ o ∈ a.occurrences, o.collects = true → o.setting.text?.isSome = true

theorem Fits.of_subset {a b : Arguments} (h : Fits t a) (hsub : b.occurrences ⊆ a.occurrences) :
    Fits t b where
  arises o ho := h.arises o (hsub ho)
  texts o ho := h.texts o (hsub ho)

theorem fits_of_parse {tokens : List String} {notices : List Notice} {a : Arguments}
    (h : parse t lenient tokens = ⟨notices, .ok a⟩) : Fits t a := by
  obtain ⟨events, hs, -, rfl, ht⟩ := parse_eq_ok.1 h
  constructor
  · intro o ho
    obtain ⟨e, he, ho⟩ := List.mem_filterMap.1 ho
    exact (@scan_arises t lenient tokens).1 e (by rwa [hs]) o ho
  · intro o ho hc
    have := List.find?_eq_none.1 ht o ho
    simpa [hc, Option.isSome_iff_ne_none] using this

theorem Fits.collects {a : Arguments} (h : Fits t a) (hf : f ∈ t.flags) {o : Occurrence}
    (ho : o ∈ a.named f.name) : o.collects = decide (f.kind = .list) := by
  obtain ⟨ho, hn⟩ := List.mem_filter.1 ho
  obtain ⟨g, hg, hgn, hc, -⟩ := h.arises o ho
  obtain rfl := FlagTable.eq_of_name hg hf (by simp_all)
  exact hc

theorem Fits.isSome_of_list {a : Arguments} (h : Fits t a) (hf : f ∈ t.flags) (hk : f.kind = .list)
    {o : Occurrence} (ho : o ∈ a.occurrences) (hn : o.name = f.name) :
    o.setting.text?.isSome = true := by
  have hcollects := h.collects hf (List.mem_filter.2 ⟨ho, by simpa using hn⟩)
  exact h.texts o ho (by simp [hcollects, hk])

end CurlScribe.Arguments
