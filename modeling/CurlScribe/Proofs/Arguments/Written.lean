import CurlScribe.Proofs.Arguments.Setting
import CurlScribe.Proofs.Arguments.Spelling

namespace CurlScribe

open Arguments

inductive Flag.Spells (f : Flag) : Setting → String → Prop
  | value {long text} :
      f.kind ≠ .toggle → (f.kind = .choice → f.switches = []) → f.long.head? = some long →
        Spells f (.word text) (inlined long (some text))
  | switch {spelling choice} :
      f.kind = .choice → (spelling, choice) ∈ f.switches → Spells f (.word choice) spelling
  | on {long} :
      f.kind = .toggle → f.long.head? = some long → Spells f (.toggle true) (inlined long none)
  | off {long} :
      f.kind = .toggle → f.long.head? = some long →
        Spells f (.toggle false) (inlined ("no-" ++ long) none)

theorem Flag.Regular.exists_spells {f : Flag} {value : Setting} (hf : f.Regular)
    (h : f.Holds value) : ∃ token, f.Spells value token := by
  obtain ⟨long, more, hlong⟩ := List.exists_cons_of_ne_nil hf.named
  have hl : f.long.head? = some long := by rw [hlong]; rfl
  cases h with
  | on hk => exact ⟨_, .on hk hl⟩
  | off hk hn => exact ⟨_, .off hk hl⟩
  | text hk => exact ⟨_, .value (by rintro e; simp [e] at hk) (by rintro e; simp [e] at hk) hl⟩
  | choice hk hs hc => exact ⟨_, .value (by simp [hk]) (fun _ => hs) hl⟩
  | switch hk hm => exact ⟨_, .switch hk hm⟩

namespace Arguments

variable {t : FlagTable} {lenient : Bool} {f : Flag} {token : String} {value : Setting}

theorem afterStart?_append (p s : String) : Text.afterStart? p (p ++ s) = some s := by
  simp [Text.afterStart?]

theorem resolve_negation (ht : t.Regular) (hf : f ∈ t.flags) (hk : f.kind = .toggle)
    (hn : f.negatable = true) {long : String} (hl : long ∈ f.long) :
    resolve t ("no-" ++ long) = .ok (some (⟨f, Flag.longSpelling long⟩, true)) := by
  have hlong := FlagTable.long?_eq_some.2 ⟨hf, hl⟩
  have hnone : t.long? ("no-" ++ long) = none := by
    by_contra hg
    obtain ⟨g, hg⟩ := Option.ne_none_iff_exists'.1 hg
    obtain ⟨hg, hw⟩ := FlagTable.long?_eq_some.1 hg
    have := ht.negations g hg _ hw
    simp [afterStart?_append, hlong] at this
  simp [resolve, hnone, afterStart?_append, hlong, hk, hn]

theorem digest_switch (ht : t.Regular) (hf : f ∈ t.flags) {spelling choice : String}
    (hm : (spelling, choice) ∈ f.switches) :
    spelling ≠ "--" ∧ digest t lenient spelling =
      store f spelling (.toggle true) >>= fun _ => return none := by
  have hr := ht.flags f hf
  obtain ⟨hs, hlookup⟩ := hr.switches _ hm
  have hv : f.takesValue spelling = false := Flag.takesValue_eq_false.2 (.inr ⟨choice, hlookup⟩)
  rcases List.mem_append.1 hs with hs | hs
  · obtain ⟨long, hl, rfl⟩ := List.mem_map.1 hs
    obtain ⟨hne, heq⟩ := hr.words long hl
    have hresolve := resolve_exact (FlagTable.long?_eq_some.2 ⟨hf, hl⟩)
    have hstore : Arguments.long t lenient long none = _ := long_of_toggle hresolve hv
    rw [← inlined_none]
    refine ⟨inlined_ne hne none, (digest_inlined heq none).trans ?_⟩
    rw [inlined_none]
    exact hstore
  · obtain ⟨letter, hl, rfl⟩ := List.mem_map.1 hs
    have hshort := FlagTable.short?_eq_some.2 ⟨hf, hl⟩
    obtain ⟨c, rfl⟩ := FlagTable.exists_letter hf hl
    have hc := letter_ne_dash ht hshort
    have alone : (String.singleton c).toList = [c] := by simp
    refine ⟨letters_ne alone hc, (digest_letters alone hc).trans ?_⟩
    exact cluster_of_toggle hshort hv []

theorem digest_spells (lenient : Bool) (ht : t.Regular) (hf : f ∈ t.flags) (hv : f.Holds value)
    (hs : f.Spells value token) :
    token ≠ "--" ∧ ∃ spelling given, setting f spelling given = .ok value ∧
      digest t lenient token = store f spelling given >>= fun _ => return none := by
  have hr := ht.flags f hf
  cases hs with
  | @value long text hk hc hl =>
    have hl := List.mem_of_head? hl
    obtain ⟨hne, heq⟩ := hr.words long hl
    have hresolve := resolve_exact (FlagTable.long?_eq_some.2 ⟨hf, hl⟩)
    have hnil : f.switches = [] := by
      by_contra h
      exact h (hc (hr.choice h))
    have hlookup : f.switches.lookup (Flag.longSpelling long) = none := by rw [hnil]; rfl
    have hwait := Flag.takesValue_eq_true.2 ⟨hk, hlookup⟩
    refine ⟨inlined_ne hne _, Flag.longSpelling long, .word text, ?_,
      (digest_inlined heq _).trans (long_of_value hresolve hwait text)⟩
    cases hv with
    | text hk => exact setting_of_not_choice (by rintro e; simp [e] at hk)
    | choice hk _ hm =>
      exact (setting_of_choice hk hlookup).2 ⟨List.mem_map_of_mem hm, rfl⟩
    | switch _ hm => simp [hnil] at hm
  | switch hk hm =>
    obtain ⟨hne, hdigest⟩ := digest_switch ht hf hm
    exact ⟨hne, token, .toggle true, setting_of_switch hk (hr.switches _ hm).2, hdigest⟩
  | @on long hk hl =>
    have hl := List.mem_of_head? hl
    obtain ⟨hne, heq⟩ := hr.words long hl
    have hresolve := resolve_exact (FlagTable.long?_eq_some.2 ⟨hf, hl⟩)
    have hstore : Arguments.long t lenient long none = _ :=
      long_of_toggle hresolve (Flag.takesValue_eq_false.2 (.inl hk))
    exact ⟨inlined_ne hne _, Flag.longSpelling long, .toggle true,
      setting_of_not_choice (by simp [hk]), (digest_inlined heq _).trans hstore⟩
  | @off long hk hl =>
    have hl := List.mem_of_head? hl
    obtain ⟨hne, heq⟩ := hr.words long hl
    cases hv with
    | off _ hn =>
      have hresolve := resolve_negation ht hf hk hn hl
      have hstore : Arguments.long t lenient ("no-" ++ long) none = _ :=
        long_of_toggle hresolve (Flag.takesValue_eq_false.2 (.inl hk))
      exact ⟨inlined_ne (by simp) _, Flag.longSpelling long, .toggle false,
        setting_of_not_choice (by simp [hk]), (digest_inlined (by simp [heq]) _).trans hstore⟩

/-- What the occurrence of a name behind `k` others of it sets its flag to, as far as the value in the
end tells: one of the texts of a list, and else the value. -/
def settingAt (a : Arguments) (name : String) (k : Nat) : Option Setting :=
  match a.value? name with
  | none => none
  | some (.toggle on) => some (.toggle on)
  | some (.word text) => some (.word text)
  | some (.list texts) => texts[k]?.map .word

/-- Tokens that spell out some names of an order, with those ahead of them given last first. -/
inductive Written (t : FlagTable) (a : Arguments) : List String → List String → List String → Prop
  | nil {ahead} : Written t a ahead [] []
  | cons {ahead name names f value token tokens} :
      t.find? name = some f → a.settingAt name (ahead.count name) = some value →
      f.Spells value token → Written t a (name :: ahead) names tokens →
        Written t a ahead (name :: names) (token :: tokens)

def settled (a : Arguments) (o : Occurrence) : Occurrence :=
  if o.collects then o else { o with setting := (a.last? o.name).getD o.setting }

@[simp] theorem settled_name (a : Arguments) (o : Occurrence) : (a.settled o).name = o.name := by
  unfold settled
  split <;> rfl

@[simp] theorem settled_collects (a : Arguments) (o : Occurrence) :
    (a.settled o).collects = o.collects := by
  unfold settled
  split <;> rfl

section Settled

variable {a : Arguments} (h : Fits t a)
include h

theorem settled_of_list (hf : f ∈ t.flags) (hk : f.kind = .list) {o : Occurrence}
    (ho : o ∈ a.named f.name) : a.settled o = o := by
  simp [settled, h.collects hf ho, hk]

theorem settled_of_not_list (hf : f ∈ t.flags) (hk : f.kind ≠ .list) {o : Occurrence}
    (ho : o ∈ a.named f.name) : a.last? f.name = some (a.settled o).setting := by
  have hn : o.name = f.name := by simpa using (List.mem_filter.1 ho).2
  cases hl : (a.named f.name).getLast? with
  | none => simp [List.getLast?_eq_none_iff.1 hl] at ho
  | some last => simp [settled, h.collects hf ho, hk, last?, hn, hl]

theorem texts_split (hf : f ∈ t.flags) (hk : f.kind = .list) {ahead behind : List Occurrence}
    {o : Occurrence} (hn : o.name = f.name) (hs : a.occurrences = ahead ++ o :: behind) :
    ∃ before text after, a.texts f.name = before ++ text :: after ∧ o.setting = .word text ∧
      before.length = (ahead.map (·.name)).count f.name := by
  have textful {x : Occurrence} (hx : x ∈ a.occurrences) (hxn : x.name = f.name) :
      x.setting.text?.isSome = true := h.isSome_of_list hf hk hx hxn
  obtain ⟨text, ht⟩ := Option.isSome_iff_exists.1 (textful (x := o) (by simp [hs]) hn)
  refine ⟨(ahead.filter (·.name = f.name)).filterMap (·.setting.text?), text,
    (behind.filter (·.name = f.name)).filterMap (·.setting.text?), ?_, ?_, ?_⟩
  · simp [texts, named, hs, hn, ht]
  · cases hset : o.setting <;> simp_all [Setting.text?]
  · rw [List.length_filterMap_eq_countP, List.countP_eq_length.2, List.count, List.countP_map,
      List.countP_eq_length_filter]
    · congr 1
    · intro x hx
      obtain ⟨hx, hxn⟩ := List.mem_filter.1 hx
      exact textful (by simp [hs, hx]) (by simpa using hxn)

theorem settingAt_eq {ahead behind : List Occurrence} {o : Occurrence}
    (hs : a.occurrences = ahead ++ o :: behind) :
    a.settingAt o.name ((ahead.map (·.name)).count o.name) = some (a.settled o).setting := by
  have ho : o ∈ a.occurrences := by simp [hs]
  obtain ⟨f, hf, hn, -⟩ := h.arises o ho
  have hnamed : o ∈ a.named f.name := List.mem_filter.2 ⟨ho, by simp [hn]⟩
  rw [hn]
  by_cases hk : f.kind = .list
  · obtain ⟨before, text, after, htexts, hset, hlen⟩ := texts_split h hf hk hn hs
    have hvalue : a.value? f.name = some (.list (before ++ text :: after)) := by
      rw [h.value?_of_list hf hk, htexts]
      cases before <;> rfl
    simp [settingAt, hvalue, ← hlen, settled_of_list h hf hk hnamed, hset]
  · have hlast := settled_of_not_list h hf hk hnamed
    have hvalue := h.value?_of_not_list hf hk
    rw [hlast] at hvalue
    cases hset : (a.settled o).setting <;> simp [settingAt, hvalue, hset, Value.ofSetting]

theorem holds_settled (ht : t.Regular) {o : Occurrence} (ho : o ∈ a.occurrences) (hf : f ∈ t.flags)
    (hn : f.name = o.name) : f.Holds (a.settled o).setting := by
  have own {x : Occurrence} (hx : x ∈ a.named f.name) : f.Holds x.setting := by
    obtain ⟨hx, hxn⟩ := List.mem_filter.1 hx
    obtain ⟨g, hg, hgn, -, hv⟩ := h.holds ht hx
    obtain rfl := FlagTable.eq_of_name hg hf (by simp_all)
    exact hv
  have hnamed : o ∈ a.named f.name := List.mem_filter.2 ⟨ho, by simp [hn]⟩
  by_cases hk : f.kind = .list
  · rw [settled_of_list h hf hk hnamed]
    exact own hnamed
  · obtain ⟨x, hx, hset⟩ := Option.map_eq_some_iff.1 (settled_of_not_list h hf hk hnamed)
    rw [← hset]
    exact own (List.mem_of_getLast? hx)

end Settled

def settle (a : Arguments) : Arguments := ⟨a.occurrences.map a.settled, a.operands⟩

/-- Arguments that agree in their operands, in the order of the flags, and in what these are set to. -/
structure Agree (a b : Arguments) : Prop where
  operands : a.operands = b.operands
  order : a.order = b.order
  value? : ∀ name, a.value? name = b.value? name

theorem named_settle (a : Arguments) (name : String) :
    a.settle.named name = (a.named name).map a.settled := by
  simp [named, settle, List.filter_map, Function.comp_def]

section Settle

variable {a : Arguments} (h : Fits t a)
include h

theorem value?_settle_of_list (hf : f ∈ t.flags) (hk : f.kind = .list) :
    a.settle.value? f.name = a.value? f.name := by
  have same : a.settle.named f.name = a.named f.name := by
    rw [named_settle]
    conv_rhs => rw [← List.map_id' (a.named f.name)]
    exact List.map_congr_left fun x hx => settled_of_list h hf hk hx
  simp only [value?, texts, same]

theorem value?_settle_of_not_list (hf : f ∈ t.flags) (hk : f.kind ≠ .list) :
    a.settle.value? f.name = a.value? f.name := by
  rw [h.value?_of_not_list hf hk, value?_of_not_collects]
  · congr 1
    cases hl : (a.named f.name).getLast? with
    | none => simp [last?, named_settle, hl]
    | some x =>
      rw [settled_of_not_list h hf hk (List.mem_of_getLast? hl)]
      simp [last?, named_settle, hl]
  · intro x hx
    rw [named_settle] at hx
    obtain ⟨y, hy, rfl⟩ := List.mem_map.1 hx
    simp [h.collects hf hy, hk]

theorem agree_settle : a.settle.Agree a where
  operands := rfl
  order := by simp [order, settle]
  value? name := by
    by_cases hnil : a.named name = []
    · simp [value?, named_settle, hnil]
    · obtain ⟨o, ho⟩ := List.exists_mem_of_ne_nil _ hnil
      obtain ⟨ho, hon⟩ := List.mem_filter.1 ho
      obtain ⟨f, hf, hn, -⟩ := h.arises o ho
      obtain rfl : f.name = name := by simp_all
      by_cases hk : f.kind = .list
      · exact value?_settle_of_list h hf hk
      · exact value?_settle_of_not_list h hf hk

theorem textless?_settle : a.settle.textless? = none := by
  refine List.find?_eq_none.2 fun o ho => ?_
  obtain ⟨x, hx, rfl⟩ := List.mem_map.1 ho
  cases hc : x.collects with
  | false => simp [hc]
  | true =>
    obtain ⟨text, htext⟩ := Option.isSome_iff_exists.1 (h.texts x hx hc)
    simp [settled, hc, htext]

end Settle

theorem store_of_setting {spelling : String} {given : Setting}
    (h : setting f spelling given = .ok value) :
    store f spelling given =
      ⟨(f.deprecated.lookup spelling).toList.map (.notice <| .deprecated ·) ++
        [.option ⟨f.name, f.kind = .list, value⟩], .ok ()⟩ := by
  simp [store, h]

theorem exists_written (ht : t.Regular) {a : Arguments} (h : Fits t a)
    {ahead behind : List Occurrence} (hs : a.occurrences = ahead ++ behind) :
    ∃ tokens, Written t a (ahead.map (·.name)).reverse (behind.map (·.name)) tokens := by
  induction behind generalizing ahead with
  | nil => exact ⟨[], .nil⟩
  | cons o behind ih =>
    have ho : o ∈ a.occurrences := by simp [hs]
    obtain ⟨f, hf, hn, -⟩ := h.arises o ho
    obtain ⟨token, hspell⟩ := (ht.flags f hf).exists_spells (holds_settled h ht ho hf hn.symm)
    have hs' : a.occurrences = ahead ++ [o] ++ behind := by simp [hs]
    obtain ⟨tokens, hw⟩ := ih hs'
    refine ⟨token :: tokens, .cons (FlagTable.find?_eq_some.2 ⟨hf, hn.symm⟩) ?_ hspell ?_⟩
    · rw [List.count_reverse]
      exact settingAt_eq h hs
    · simpa using hw

theorem scan_written (ht : t.Regular) {a : Arguments} (h : Fits t a)
    {ahead behind : List Occurrence} (hs : a.occurrences = ahead ++ behind) {tokens : List String}
    (hw : Written t a (ahead.map (·.name)).reverse (behind.map (·.name)) tokens)
    (operands : List String) :
    ∃ events, scan t lenient (tokens ++ "--" :: operands) = ⟨events, .ok ()⟩ ∧
      ofEvents events = ⟨behind.map a.settled, operands⟩ := by
  -- On the occurrences still to be written. Those ahead only count how often a name has been.
  induction behind generalizing ahead tokens with
  | nil =>
    cases hw
    refine ⟨operands.map .operand, scan_terminator operands, ?_⟩
    simp [ofEvents, List.filterMap_map, Function.comp_def, Event.occurrence?, Event.operand?]
  | cons o behind ih =>
    cases hw with
    | @cons _ _ _ f value token tokens hfind hat hspell hrest =>
      have ho : o ∈ a.occurrences := by simp [hs]
      obtain ⟨hf, hn⟩ := FlagTable.find?_eq_some.1 hfind
      change f.name = o.name at hn
      rw [List.count_reverse, settingAt_eq h hs] at hat
      obtain rfl := Option.some.inj hat
      obtain ⟨hne, spelling, given, hset, hdigest⟩ :=
        digest_spells lenient ht hf (holds_settled h ht ho hf hn) hspell
      have hs' : a.occurrences = ahead ++ [o] ++ behind := by simp [hs]
      obtain ⟨events, hscan, hevents⟩ := ih hs' (by simpa using hrest)
      rw [List.cons_append, scan_of_done hne hdigest, store_of_setting hset, hscan]
      refine ⟨_, rfl, ?_⟩
      have hc := h.collects hf (List.mem_filter.2 ⟨ho, by simp [hn]⟩)
      have same : Occurrence.mk f.name (f.kind = .list) (a.settled o).setting = a.settled o := by
        rw [← hc, hn, ← settled_name a o, ← settled_collects a o]
      rw [ofEvents_append, hevents, same]
      cases f.deprecated.lookup spelling <;> rfl

/-- Arguments can be written out from what is seen of them, and what is written reads as the same
arguments, even if an unknown flag would not be passed over. -/
theorem parse_written (ht : t = .curl ∨ t = .program) {tokens : List String}
    {notices : List Notice} {a : Arguments} (h : parse t lenient tokens = ⟨notices, .ok a⟩) :
    (∃ written, Written t a [] a.order written) ∧
      ∀ written, Written t a [] a.order written →
        ∃ notices' b, parse t false (written ++ "--" :: a.operands) = ⟨notices', .ok b⟩ ∧
          b.Agree a := by
  have ht := FlagTable.regular_of_eq ht
  have h := fits_of_parse h
  have hs : a.occurrences = [] ++ a.occurrences := rfl
  refine ⟨exists_written ht h hs, fun written hw => ?_⟩
  obtain ⟨events, hscan, hevents⟩ := scan_written ht h hs hw a.operands
  have hparse := parse_eq_ok.2 ⟨events, hscan, rfl, hevents.symm, textless?_settle h⟩
  exact ⟨_, a.settle, hparse, agree_settle h⟩

theorem parse_written_curl : ∃ a written notices b,
    parse .curl true ["-d", "a", "-k", "--data=-b=c", "--no-location", "-0", "-X", "--", "u"] =
      ⟨[], .ok a⟩ ∧
    Written .curl a [] a.order written ∧
    parse .curl false (written ++ "--" :: a.operands) = ⟨notices, .ok b⟩ ∧ b.Agree a := by
  let a : Arguments := ⟨[⟨"data", true, .word "a"⟩, ⟨"insecure", false, .toggle true⟩,
    ⟨"data", true, .word "-b=c"⟩, ⟨"location", false, .toggle false⟩,
    ⟨"http-version", false, .word "1.0"⟩, ⟨"request", false, .word "--"⟩], ["u"]⟩
  have ha : parse .curl true
      ["-d", "a", "-k", "--data=-b=c", "--no-location", "-0", "-X", "--", "u"] =
        ⟨[], .ok a⟩ := by cbv
  obtain ⟨⟨written, hw⟩, hread⟩ := parse_written (.inl rfl) ha
  obtain ⟨notices, b, hb, hagree⟩ := hread written hw
  exact ⟨a, written, notices, b, ha, hw, hb, hagree⟩

end Arguments

end CurlScribe
