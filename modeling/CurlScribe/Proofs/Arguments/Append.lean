import CurlScribe.Flag.Curl
import CurlScribe.Proofs.Arguments.Origin
import Mathlib

namespace CurlScribe.Arguments

variable {t : FlagTable} {lenient : Bool} {a b : Arguments} {name : String}

instance : Append Arguments where
  append a b := ⟨a.occurrences ++ b.occurrences, a.operands ++ b.operands⟩

@[simp] theorem occurrences_append : (a ++ b).occurrences = a.occurrences ++ b.occurrences := rfl

@[simp] theorem operands_append : (a ++ b).operands = a.operands ++ b.operands := rfl

@[simp] theorem order_append : (a ++ b).order = a.order ++ b.order := List.map_append

@[simp] theorem named_append : (a ++ b).named name = a.named name ++ b.named name :=
  List.filter_append ..

@[simp] theorem texts_append : (a ++ b).texts name = a.texts name ++ b.texts name := by
  rw [texts, named_append, List.filterMap_append]
  rfl

theorem ofEvents_append (events more : List Event) :
    ofEvents (events ++ more) = ofEvents events ++ ofEvents more := by
  simp only [ofEvents, List.filterMap_append]
  rfl

theorem textless?_append (h : a.textless? = none) : (a ++ b).textless? = b.textless? := by
  unfold textless? at *
  rw [occurrences_append, List.find?_append, h, Option.none_or]

def Value.ofTexts : List String → Option Value
  | [] => none
  | texts => some (.list texts)

def Value.ofSetting : Setting → Value
  | .toggle on => .toggle on
  | .word text => .word text

theorem value?_of_collects
    (h : ∀ o ∈ a.named name, o.collects = true ∧ o.setting.text?.isSome = true) :
    a.value? name = Value.ofTexts (a.texts name) := by
  unfold value?
  cases hl : (a.named name).getLast? with
  | none =>
    rw [List.getLast?_eq_none_iff] at hl
    simp [texts, hl, Value.ofTexts]
  | some o =>
    have ho := List.mem_of_getLast? hl
    obtain ⟨hc, hs⟩ := h o ho
    obtain ⟨text, ht⟩ := Option.isSome_iff_exists.1 hs
    have : text ∈ a.texts name := List.mem_filterMap.2 ⟨o, ho, ht⟩
    cases hx : a.texts name with
    | nil => simp [hx] at this
    | cons x xs => simp [hc, Value.ofTexts]

theorem value?_of_not_collects (h : ∀ o ∈ a.named name, o.collects = false) :
    a.value? name = (a.last? name).map Value.ofSetting := by
  unfold value? last?
  cases hl : (a.named name).getLast? with
  | none => rfl
  | some o =>
    have hc := h o (List.mem_of_getLast? hl)
    cases hs : o.setting <;> simp [hc, hs, Value.ofSetting]

theorem last?_append : (a ++ b).last? name = (b.last? name).or (a.last? name) := by
  unfold last?
  rw [named_append, List.getLast?_append]
  cases (b.named name).getLast? <;> rfl

theorem Fits.value?_of_list (h : Fits t a) {f : Flag} (hf : f ∈ t.flags) (hk : f.kind = .list) :
    a.value? f.name = Value.ofTexts (a.texts f.name) := by
  apply value?_of_collects
  intro o ho
  have hc : o.collects = true := by simp [h.collects hf ho, hk]
  exact ⟨hc, h.texts o (List.mem_of_mem_filter ho) hc⟩

theorem Fits.value?_of_not_list (h : Fits t a) {f : Flag} (hf : f ∈ t.flags)
    (hk : f.kind ≠ .list) : a.value? f.name = (a.last? f.name).map Value.ofSetting := by
  apply value?_of_not_collects
  intro o ho
  simp [h.collects hf ho, hk]

theorem parse_append_eq {tokens : List String} {notices : List Notice}
    (ha : parse t lenient tokens = ⟨notices, .ok a⟩) (hopen : endsOptions t lenient tokens = false)
    (more : List String) :
    parse t lenient (tokens ++ more) =
      ⟨notices ++ (parse t lenient more).notes, (parse t lenient more).result.map (a ++ ·)⟩ := by
  obtain ⟨events, hs, rfl, rfl, ht⟩ := parse_eq_ok.1 ha
  have happ := scan_append (by rw [hs]) hopen more
  rw [hs, Noted.bind_ok] at happ
  rcases hm : scan t lenient more with ⟨events', e | _⟩
  · simp [parse, happ, hm, bind, Except.bind, Except.map]
  · -- No list of the first lacks a text, so only the second can be refused for that.
    have htext := textless?_append (b := ofEvents events') ht
    cases hx : (ofEvents events').textless? with
    | none =>
      simp [parse, happ, hm, ofEvents_append, htext, hx, bind, pure, Except.bind, Except.pure,
        Except.map]
    | some o => simp [parse, happ, hm, ofEvents_append, htext, hx, bind, Except.bind, Except.map]

/-- Two commands one after the other mean what the first means and then what the second does, unless
the first ends its options by a `--`; a fault of the second is one of both. -/
theorem parse_append {tokens more : List String} {notices : List Notice}
    (ha : parse t lenient tokens = ⟨notices, .ok a⟩)
    (hopen : endsOptions t lenient tokens = false) :
    (∀ notices' b, parse t lenient more = ⟨notices', .ok b⟩ →
      ∃ c, parse t lenient (tokens ++ more) = ⟨notices ++ notices', .ok c⟩ ∧
        c.operands = a.operands ++ b.operands ∧ c.order = a.order ++ b.order ∧
        (∀ f ∈ t.flags, f.kind = .list → ∃ first second,
          a.value? f.name = Value.ofTexts first ∧ b.value? f.name = Value.ofTexts second ∧
            c.value? f.name = Value.ofTexts (first ++ second)) ∧
        ∀ f ∈ t.flags, f.kind ≠ .list →
          c.value? f.name = (b.value? f.name).or (a.value? f.name)) ∧
    ∀ notices' fault, parse t lenient more = ⟨notices', .error fault⟩ →
      parse t lenient (tokens ++ more) = ⟨notices ++ notices', .error fault⟩ := by
  have happ := parse_append_eq ha hopen more
  constructor
  · intro notices' b hb
    rw [hb] at happ
    have hc : Fits t (a ++ b) := fits_of_parse happ
    have ha := fits_of_parse ha
    have hb := fits_of_parse hb
    refine ⟨a ++ b, happ, operands_append, order_append, ?_, ?_⟩
    · intro f hf hk
      refine ⟨a.texts f.name, b.texts f.name, ha.value?_of_list hf hk, hb.value?_of_list hf hk, ?_⟩
      rw [hc.value?_of_list hf hk, texts_append]
    · intro f hf hk
      rw [hc.value?_of_not_list hf hk, ha.value?_of_not_list hf hk, hb.value?_of_not_list hf hk,
        last?_append, Option.map_or]
  · intro notices' fault hb
    rw [happ, hb]
    rfl

theorem parse_append_curl : ∃ a b c,
    parse .curl true ["-H", "--", "-L"] = ⟨[], .ok a⟩ ∧
    parse .curl true ["-H", "b: c", "--no-location"] = ⟨[], .ok b⟩ ∧
    parse .curl true ["-H", "--", "-L", "-H", "b: c", "--no-location"] = ⟨[], .ok c⟩ ∧
    c.order = a.order ++ b.order := by
  let a : Arguments := ⟨[⟨"header", true, .word "--"⟩, ⟨"location", false, .toggle true⟩], []⟩
  let b : Arguments := ⟨[⟨"header", true, .word "b: c"⟩, ⟨"location", false, .toggle false⟩], []⟩
  have ha : parse .curl true ["-H", "--", "-L"] = ⟨[], .ok a⟩ := by cbv
  have hb : parse .curl true ["-H", "b: c", "--no-location"] = ⟨[], .ok b⟩ := by cbv
  have hopen : endsOptions .curl true ["-H", "--", "-L"] = false := by cbv
  obtain ⟨c, hc, -, horder, -⟩ := (parse_append ha hopen).1 _ _ hb
  exact ⟨a, b, c, ha, hb, hc, horder⟩

end CurlScribe.Arguments
