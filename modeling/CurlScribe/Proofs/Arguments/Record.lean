import CurlScribe.Proofs.Arguments.Written
import CurlScribe.Proofs.Target.Fields

/-!
Arguments as two records that are kept apart: what each flag is set to so far, and the names of the
flags in the order they were given. Each occurrence updates both, and leaving flags out cuts down
each by itself. They agree all the same, so counting in the one finds the text in the other.
-/

namespace CurlScribe

open Arguments

inductive Flag.Admits (f : Flag) (times : Nat) : Value → Prop
  | toggle {on} : f.kind = .toggle → Admits f times (.toggle on)
  | text {text} : f.kind = .text → Admits f times (.word text)
  | choice {text} : f.kind = .choice → text ∈ f.choices → Admits f times (.word text)
  | list {texts} :
      f.kind = .list → texts ≠ [] → texts.length = times → Admits f times (.list texts)

theorem FlagTable.mem_choices_of_switch {t : FlagTable} (ht : t = curl ∨ t = program) {f : Flag}
    (hf : f ∈ t.flags) {p : String × String} (hp : p ∈ f.switches) : p.2 ∈ f.choices := by
  have hall : (program.flags.all fun f => f.switches.all fun p => f.choices.contains p.2) = true :=
    rfl
  simp only [List.all_eq_true, List.contains_iff_mem] at hall
  rcases ht with rfl | rfl
  · exact hall f (List.mem_append_left _ hf) p hp
  · exact hall f hf p hp

namespace Arguments

/-- What an occurrence sets a flag to that was set to something before. One that collects needs a
list to add to, and a text. -/
def Value.set (o : Occurrence) (before : Option Value) : Option Value :=
  if o.collects then
    match before, o.setting with
    | none, .word text => some (.list [text])
    | some (.list texts), .word text => some (.list (texts ++ [text]))
    | _, _ => none
  else some (.ofSetting o.setting)

def Value.at? : Value → Nat → Option String
  | .toggle _, _ => none
  | .word text, k => text.toList[k]?.map .singleton
  | .list texts, k => texts[k]?

section Value

variable {t : FlagTable} {a : Arguments}

theorem value?_append_of_ne {o : Occurrence} {name : String} (hne : o.name ≠ name) :
    (a ++ ⟨[o], []⟩ : Arguments).value? name = a.value? name := by
  have hnamed : (⟨[o], []⟩ : Arguments).named name = [] := by simp [named, hne]
  simp [value?, texts, hnamed]

theorem set_value? {o : Occurrence} (h : Fits t (a ++ ⟨[o], []⟩)) :
    ∃ value, Value.set o (a.value? o.name) = some value ∧
      (a ++ ⟨[o], []⟩ : Arguments).value? o.name = some value := by
  have hnamed : (⟨[o], []⟩ : Arguments).named o.name = [o] := by simp [named]
  obtain ⟨f, hf, hn, hc, -⟩ := h.arises o (by simp)
  by_cases hk : f.kind = .list
  · have hcollects : o.collects = true := by simp [hc, hk]
    obtain ⟨text, htext⟩ := Option.isSome_iff_exists.1 (h.texts o (by simp) hcollects)
    have hword : o.setting = .word text := by
      cases hs : o.setting <;> simp_all [Setting.text?]
    have hbefore : a.value? o.name = Value.ofTexts (a.texts o.name) :=
      hn ▸ (h.of_subset (by simp)).value?_of_list hf hk
    refine ⟨.list (a.texts o.name ++ [text]), ?_, ?_⟩
    · unfold Value.set
      rw [if_pos hcollects, hword, hbefore]
      cases a.texts o.name <;> rfl
    · simp [value?, texts, hnamed, hcollects, htext]
  · have hcollects : o.collects = false := by simp [hc, hk]
    refine ⟨.ofSetting o.setting, by simp [Value.set, hcollects], ?_⟩
    cases hs : o.setting <;> simp [value?, hnamed, hcollects, hs, Value.ofSetting]

theorem value?_without (a : Arguments) (others : List String) (name : String) :
    (a.without others).value? name = if !others.contains name then a.value? name else none := by
  have hnamed : (a.without others).named name =
      if !others.contains name then a.named name else [] := by
    rw [named, without, List.filter_filter]
    split
    · rename_i hkept
      apply List.filter_congr
      intro o _
      by_cases hn : o.name = name <;> simp_all
    · rename_i hgone
      rw [List.filter_eq_nil_iff]
      intro o _
      by_cases hn : o.name = name <;> simp_all
  unfold value? texts
  rw [hnamed]
  split <;> rfl

theorem values_textsOf {names : List String} {name : String} (hname : name ∈ names) :
    Fields.values name (a.textsOf names) = a.texts name := by
  unfold Fields.values textsOf texts named
  induction a.occurrences with
  | nil => rfl
  | cons o rest ih =>
    by_cases hn : o.name = name
    · cases ho : o.setting.text? <;> simp_all
    · by_cases hin : o.name ∈ names
      · cases ho : o.setting.text? <;> simp_all
      · simp_all

theorem map_fst_textsOf {names : List String}
    (h : ∀ o ∈ a.occurrences, o.name ∈ names → o.setting.text?.isSome = true) :
    (a.textsOf names).map (·.1) = a.order.filter (names.contains ·) := by
  unfold textsOf order
  revert h
  induction a.occurrences with
  | nil => intro _; rfl
  | cons o rest ih =>
    intro h
    have hrest := ih fun x hx => h x (List.mem_cons_of_mem _ hx)
    by_cases hin : o.name ∈ names
    · obtain ⟨text, htext⟩ := Option.isSome_iff_exists.1 (h o List.mem_cons_self hin)
      simp_all
    · simp_all

theorem length_texts {name : String}
    (h : ∀ o ∈ a.occurrences, o.name = name → o.setting.text?.isSome = true) :
    (a.texts name).length = a.order.count name := by
  unfold texts named order
  revert h
  induction a.occurrences with
  | nil => intro _; rfl
  | cons o rest ih =>
    intro h
    have hrest := ih fun x hx => h x (List.mem_cons_of_mem _ hx)
    by_cases hn : o.name = name
    · obtain ⟨text, htext⟩ := Option.isSome_iff_exists.1 (h o List.mem_cons_self hn)
      simp_all
    · simp_all

end Value

structure Record where
  values : List (String × Value) := []
  operands : List String := []
  order : List String := []

namespace Record

def keys (r : Record) : List String := r.values.map (·.1)

def value? (r : Record) (name : String) : Option Value := r.values.lookup name

def store (r : Record) (o : Occurrence) : Option Record :=
  (Value.set o (r.value? o.name)).map fun value =>
    { r with values := Fields.put o.name value r.values, order := r.order ++ [o.name] }

def take (r : Record) : Event → Option Record
  | .option o => r.store o
  | .operand text => some { r with operands := r.operands ++ [text] }
  | .notice _ => some r

def without (r : Record) (names : List String) : Record :=
  { r with
    values := r.values.filter (!names.contains ·.1)
    order := r.order.filter (!names.contains ·) }

/-- The texts of flags by the names in order, of which some have been seen. The next one of a flag
is where as many of its name have been seen. -/
def occurrencesFrom (r : Record) (names seen : List String) :
    List String → Option (List (String × String))
  | [] => some []
  | name :: rest =>
    if names.contains name then do
      let value ← r.value? name
      let text ← value.at? (seen.count name)
      let more ← r.occurrencesFrom names (name :: seen) rest
      return (name, text) :: more
    else r.occurrencesFrom names seen rest

def occurrences (r : Record) (names : List String) : Option (List (String × String)) :=
  r.occurrencesFrom names [] r.order

/-- A record from which the same is read off as from arguments. -/
structure Shows (r : Record) (a : Arguments) : Prop where
  operands : r.operands = a.operands
  order : r.order = a.order
  keys : r.keys = a.names
  value? : ∀ name, r.value? name = a.value? name

structure Agrees (t : FlagTable) (r : Record) : Prop where
  names : ∀ name, name ∈ r.order ↔ name ∈ r.keys
  keys : r.keys = firsts r.order
  known : ∀ name ∈ r.keys, ∃ f ∈ t.flags, f.name = name
  values : ∀ f ∈ t.flags, ∀ value, r.value? f.name = some value →
    f.Admits (r.order.count f.name) value
  occurrences : ∀ names, (∀ name ∈ names, ∃ f ∈ t.flags, f.name = name ∧ f.kind = .list) →
    ∃ found, r.occurrences names = some found ∧
      found.map (·.1) = r.order.filter (names.contains ·) ∧
      ∀ name ∈ names, ∀ value, r.value? name = some value →
        value = .list (Fields.values name found)

variable {t : FlagTable} {a : Arguments} {r : Record} {events : List Event}

theorem Shows.store {o : Occurrence} (h : r.Shows a) (hfits : Fits t (a ++ ⟨[o], []⟩)) :
    ∃ r', r.store o = some r' ∧ r'.Shows (a ++ ⟨[o], []⟩) := by
  obtain ⟨value, hset, hvalue⟩ := set_value? hfits
  refine ⟨_, by rw [Record.store, h.value?, hset]; rfl, ?_⟩
  constructor
  · simp [h.operands]
  · simp [h.order, Arguments.order]
  · have hkeys : r.values.map (·.1) = firsts a.order := h.keys
    change (Fields.put o.name value r.values).map (·.1) = firsts (a ++ ⟨[o], []⟩ : Arguments).order
    rw [order_append]
    change _ = firsts (a.order ++ [o.name])
    rw [Fields.map_fst_put, hkeys, firsts_append_singleton]
    simp only [mem_firsts]
  · intro name
    rw [Record.value?, Fields.lookup_put]
    split
    · rename_i heq
      rw [heq, hvalue]
    · rename_i hne
      rw [value?_append_of_ne (Ne.symm hne)]
      exact h.value? name

theorem Shows.take {e : Event} (h : r.Shows (ofEvents events))
    (hfits : Fits t (ofEvents (events ++ [e]))) :
    ∃ r', r.take e = some r' ∧ r'.Shows (ofEvents (events ++ [e])) := by
  rw [ofEvents_append] at hfits ⊢
  cases e with
  | option o => exact h.store hfits
  | operand text =>
    have heq : ofEvents events ++ ofEvents [.operand text] =
        ⟨(ofEvents events).occurrences, (ofEvents events).operands ++ [text]⟩ :=
      congrArg (Arguments.mk · _) (List.append_nil _)
    rw [heq]
    exact ⟨_, rfl, congrArg (· ++ [text]) h.operands, h.order, h.keys, h.value?⟩
  | notice n =>
    have heq : ofEvents events ++ ofEvents [.notice n] = ofEvents events :=
      congrArg₂ Arguments.mk (List.append_nil _) (List.append_nil _)
    rw [heq]
    exact ⟨r, rfl, h⟩

theorem exists_run (h : Fits t (ofEvents events)) :
    ∃ r, events.foldlM take {} = some r ∧ r.Shows (ofEvents events) := by
  induction events using List.reverseRecOn with
  | nil => exact ⟨{}, rfl, rfl, rfl, rfl, fun _ => rfl⟩
  | append_singleton events e ih =>
    have hbefore : Fits t (ofEvents events) := h.of_subset (by simp [ofEvents_append])
    obtain ⟨r, hr, hshows⟩ := ih hbefore
    obtain ⟨r', hr', hshows'⟩ := hshows.take h
    refine ⟨r', ?_, hshows'⟩
    rw [List.foldlM_append, hr]
    simpa using hr'

theorem Shows.without (h : r.Shows a) (others : List String) :
    (r.without others).Shows (a.without others) where
  operands := h.operands
  order := by
    have horder : r.order = a.order := h.order
    simp [Record.without, horder, Arguments.order, Arguments.without, List.filter_map,
      Function.comp_def]
  keys := by
    have hkeys : r.values.map (·.1) = a.names := h.keys
    rw [names_without, ← hkeys, List.filter_map]
    rfl
  value? name := by
    rw [value?_without, ← h.value? name]
    exact Fields.lookup_filter (!others.contains ·) r.values name

theorem Shows.occurrencesFrom (h : r.Shows a) (hfits : Fits t a) {names : List String}
    (hnames : ∀ name ∈ names, ∃ f ∈ t.flags, f.name = name ∧ f.kind = .list) (seen : List String)
    {ahead behind : List Occurrence} (hs : a.occurrences = ahead ++ behind)
    (hseen : ∀ name ∈ names, seen.count name = (ahead.map (·.name)).count name) :
    r.occurrencesFrom names seen (behind.map (·.name)) =
      some ((⟨behind, []⟩ : Arguments).textsOf names) := by
  -- On the occurrences still to come. Of those ahead only the names asked for have been counted.
  induction behind generalizing ahead seen with
  | nil => rfl
  | cons o behind ih =>
    have hs' : a.occurrences = (ahead ++ [o]) ++ behind := by simp [hs]
    by_cases hin : o.name ∈ names
    · obtain ⟨f, hf, hn, hk⟩ := hnames o.name hin
      obtain ⟨before, text, after, htexts, hset, hlen⟩ := texts_split hfits hf hk hn.symm hs
      have hvalue : r.value? o.name = some (.list (before ++ text :: after)) := by
        rw [h.value?, ← hn, hfits.value?_of_list hf hk, htexts]
        cases before <;> rfl
      have hcount : seen.count o.name = before.length := by rw [hseen o.name hin, hlen, hn]
      have hrest := ih (o.name :: seen) hs' fun name hname => by
        simp [List.count_cons, hseen name hname]
      simp [Record.occurrencesFrom, hin, hvalue, Value.at?, hcount, hrest, textsOf, hset,
        Setting.text?]
    · have hrest := ih seen hs' fun name hname => by
        have hne : o.name ≠ name := fun heq => hin (heq ▸ hname)
        simp [hne, hseen name hname]
      simp [Record.occurrencesFrom, hin, hrest, textsOf]

theorem Shows.occurrences (h : r.Shows a) (hfits : Fits t a) {names : List String}
    (hnames : ∀ name ∈ names, ∃ f ∈ t.flags, f.name = name ∧ f.kind = .list) :
    r.occurrences names = some (a.textsOf names) := by
  have horder : r.order = a.occurrences.map (·.name) := h.order
  rw [Record.occurrences, horder]
  exact h.occurrencesFrom hfits hnames [] (List.nil_append _).symm fun _ _ => rfl

theorem admits_of_value? (ht : t = .curl ∨ t = .program) (hfits : Fits t a) {f : Flag}
    (hf : f ∈ t.flags) {value : Value} (hvalue : a.value? f.name = some value) :
    f.Admits (a.order.count f.name) value := by
  by_cases hk : f.kind = .list
  · rw [hfits.value?_of_list hf hk] at hvalue
    have hlen := length_texts fun o ho hn => hfits.isSome_of_list hf hk ho hn
    cases htexts : a.texts f.name with
    | nil => simp [htexts, Value.ofTexts] at hvalue
    | cons text more =>
      rw [htexts] at hvalue hlen
      cases hvalue
      exact .list hk (List.cons_ne_nil _ _) hlen
  · rw [hfits.value?_of_not_list hf hk] at hvalue
    obtain ⟨setting, hlast, rfl⟩ := Option.map_eq_some_iff.1 hvalue
    obtain ⟨o, ho, rfl⟩ := Option.map_eq_some_iff.1 hlast
    obtain ⟨ho, hn⟩ := List.mem_filter.1 (List.mem_of_getLast? ho)
    obtain ⟨g, hg, hgn, -, hholds⟩ := hfits.holds (FlagTable.regular_of_eq ht) ho
    obtain rfl : g = f := FlagTable.eq_of_name hg hf (hgn.trans (of_decide_eq_true hn))
    cases hset : o.setting with
    | toggle on =>
      rw [hset] at hholds
      cases hholds with
      | on hk => exact .toggle hk
      | off hk => exact .toggle hk
    | word text =>
      rw [hset] at hholds
      cases hholds with
      | text hkind => exact .text (hkind.resolve_right hk)
      | choice hk _ hm => exact .choice hk hm
      | switch hk hm => exact .choice hk (FlagTable.mem_choices_of_switch ht hf hm)

theorem Shows.agrees (ht : t = .curl ∨ t = .program) (h : r.Shows a) (hfits : Fits t a) :
    r.Agrees t := by
  have horder : r.order = a.order := h.order
  have hkeys : r.keys = firsts r.order := by rw [h.keys, h.order, names]
  constructor
  · intro name
    rw [hkeys, mem_firsts]
  · exact hkeys
  · intro name hname
    rw [hkeys, mem_firsts, horder] at hname
    obtain ⟨o, ho, rfl⟩ := List.mem_map.1 hname
    obtain ⟨f, hf, hn, -⟩ := hfits.arises o ho
    exact ⟨f, hf, hn.symm⟩
  · intro f hf value hvalue
    rw [h.value?] at hvalue
    rw [horder]
    exact admits_of_value? ht hfits hf hvalue
  · intro names hnames
    refine ⟨a.textsOf names, h.occurrences hfits hnames, ?_, fun name hname value hvalue => ?_⟩
    · rw [horder]
      refine map_fst_textsOf fun o ho hin => ?_
      obtain ⟨f, hf, hn, hk⟩ := hnames _ hin
      exact hfits.isSome_of_list hf hk ho hn.symm
    · obtain ⟨f, hf, rfl, hk⟩ := hnames name hname
      rw [h.value?, hfits.value?_of_list hf hk] at hvalue
      rw [values_textsOf hname]
      cases htexts : a.texts f.name with
      | nil => simp [htexts, Value.ofTexts] at hvalue
      | cons text more =>
        rw [htexts] at hvalue
        exact (Option.some.inj hvalue).symm

end Record

/-- A record that takes the events of a scan shows the arguments that are read, and its parts agree,
however often flags are left out of both. The texts of flags that collect are found by counting. -/
theorem record_agrees {t : FlagTable} (ht : t = .curl ∨ t = .program) {lenient : Bool}
    {tokens : List String} {notices : List Notice} {a : Arguments}
    (h : parse t lenient tokens = ⟨notices, .ok a⟩) :
    ∃ r, (scan t lenient tokens).notes.foldlM Record.take {} = some r ∧
      ∀ removals : List (List String),
        (removals.foldl Record.without r).Shows (removals.foldl without a) ∧
          (removals.foldl Record.without r).Agrees t ∧
          ∀ names, (∀ name ∈ names, ∃ f ∈ t.flags, f.name = name ∧ f.kind = .list) →
            (removals.foldl Record.without r).occurrences names =
              some ((removals.foldl without a).textsOf names) := by
  have hfits := fits_of_parse h
  obtain ⟨events, hscan, -, rfl, -⟩ := parse_eq_ok.1 h
  obtain ⟨r, hr, hshows⟩ := Record.exists_run hfits
  refine ⟨r, by rw [hscan, hr], fun removals => ?_⟩
  clear hr hscan h
  generalize ofEvents events = a at hfits hshows
  suffices hlast : (removals.foldl Record.without r).Shows (removals.foldl without a) ∧
      Fits t (removals.foldl without a) from
    ⟨hlast.1, hlast.1.agrees ht hlast.2, fun names => hlast.1.occurrences hlast.2⟩
  induction removals generalizing r a with
  | nil => exact ⟨hshows, hfits⟩
  | cons others removals ih =>
    exact ih _ _ (hfits.of_subset List.filter_sublist.subset) (hshows.without others)

theorem record_agrees_curl : ∃ r,
    (scan .curl false ["-H", "a: b", "-d", "x", "--tlsv1.2", "-H", "--", "--no-location"]).notes.foldlM
      Record.take {} = some r ∧
    (r.without ["tls-version"]).Agrees .curl ∧
    (r.without ["tls-version"]).occurrences ["data", "header"] =
      some [("header", "a: b"), ("data", "x"), ("header", "--")] := by
  let a : Arguments := ⟨[⟨"header", true, .word "a: b"⟩, ⟨"data", true, .word "x"⟩,
    ⟨"tls-version", false, .word "1.2"⟩, ⟨"header", true, .word "--"⟩,
    ⟨"location", false, .toggle false⟩], []⟩
  have ha : parse .curl false ["-H", "a: b", "-d", "x", "--tlsv1.2", "-H", "--", "--no-location"] =
      ⟨[], .ok a⟩ := by cbv
  have hdata : FlagTable.curl.find? "data" = some (.list "data" ["d"]) := rfl
  have hheader : FlagTable.curl.find? "header" = some (.list "header" ["H"]) := rfl
  have hlists : ∀ name ∈ ["data", "header"],
      ∃ f ∈ FlagTable.curl.flags, f.name = name ∧ f.kind = .list :=
    List.forall_mem_cons.2 ⟨⟨_, (FlagTable.find?_eq_some.1 hdata).1, rfl, rfl⟩,
      List.forall_mem_singleton.2 ⟨_, (FlagTable.find?_eq_some.1 hheader).1, rfl, rfl⟩⟩
  obtain ⟨r, hr, hall⟩ := record_agrees (.inl rfl) ha
  obtain ⟨-, hagrees, hfound⟩ := hall [["tls-version"]]
  exact ⟨r, hr, hagrees, hfound _ hlists⟩

end Arguments

end CurlScribe
