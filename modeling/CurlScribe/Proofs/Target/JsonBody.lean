import CurlScribe.Proofs.Target.Grouped
import CurlScribe.Proofs.Target.JsonDocument

namespace CurlScribe

variable {r r' : Request} {parts parts' : List Part} {p : Part}

namespace Part

def Source.held? : Source → Option String
  | .text value => value
  | .contents path => path.map ("<" ++ ·)
  | .upload _ => none

/-- A value that is given looks like the path of a file with its mark. -/
inductive Source.Marked : Source → Source → Prop
  | mk (path : String) : Marked (.text (some ("<" ++ path))) (.contents (some path))

theorem Source.eq_or_marked {s s' : Source} (hsome : s.held? ≠ none) (h : s.held? = s'.held?) :
    s = s' ∨ s.Marked s' ∨ s'.Marked s := by
  cases s with
  | upload path => exact absurd rfl hsome
  | text value =>
    cases s' with
    | upload path => exact absurd h hsome
    | text value' => exact .inl (congrArg _ h)
    | contents path =>
      cases path with
      | none => exact absurd h hsome
      | some path =>
        obtain rfl : value = some ("<" ++ path) := h
        exact .inr (.inl (.mk path))
  | contents path =>
    cases path with
    | none => exact absurd rfl hsome
    | some path =>
      cases s' with
      | upload path => cases h
      | text value =>
        obtain rfl : some ("<" ++ path) = value := h
        exact .inr (.inr (.mk path))
      | contents path' =>
        cases path' with
        | none => cases h
        | some path' =>
          have hpath : "<" ++ path = "<" ++ path' := Option.some.inj h
          exact .inl (by rw [(String.append_right_inj _).1 hpath])

theorem Source.eq_or_exists_marked {l l' : List Source} (hsome : ∀ s ∈ l, s.held? ≠ none)
    (h : l.map held? = l'.map held?) :
    l = l' ∨ ∃ s ∈ l, ∃ s' ∈ l', s.Marked s' ∨ s'.Marked s := by
  induction l generalizing l' with
  | nil => exact .inl (List.map_eq_nil_iff.1 h.symm).symm
  | cons s l ih =>
    cases l' with
    | nil => cases h
    | cons s' l' =>
      obtain ⟨hhead, htail⟩ := List.cons.inj h
      rcases eq_or_marked (hsome s List.mem_cons_self) hhead with rfl | hmarked
      · rcases ih (fun s hs => hsome s (List.mem_cons_of_mem _ hs)) htail with
          rfl | ⟨t, ht, t', ht', hmarked⟩
        · exact .inl rfl
        · exact .inr ⟨t, List.mem_cons_of_mem _ ht, t', List.mem_cons_of_mem _ ht', hmarked⟩
      · exact .inr ⟨s, List.mem_cons_self, s', List.mem_cons_self, hmarked⟩

end Part

namespace JsonDocument

def sources (parts : List Part) : List (String × Part.Source) :=
  (parts.filter (!·.isUpload)).map fun p => (p.name, p.source)

def heldValues (parts : List Part) : List (String × Option String) :=
  (sources parts).map fun s => (s.1, s.2.held?)

inductive Data
  | text (data : String)
  | fields (values : List (String × List (Option String)))

/-- What a document holds of a body. -/
structure Held where
  files : List (String × List String) := []
  data : Option Data := none

def objectOf {α : Type} (f : α → Json) (groups : List (String × List α)) : Json :=
  .object (groups.map fun group => (group.1, values (group.2.map f)))

def Data.json : Data → Json
  | text data => .string data
  | fields groups => objectOf .ofOption groups

def Held.entries (h : Held) : List (String × Option Json) :=
  [("files", given (h.files ≠ []) (objectOf .string h.files)), ("data", h.data.map Data.json)]

def Held.fields (h : Held) : List (String × Json) := present h.entries

section Json

variable {α : Type} {f : α → Json}

theorem group_map (f : α → Json) (items : List (String × α)) :
    group (items.map fun item => (item.1, f item.2)) = objectOf f (Fields.grouped items) := by
  have hgroup : group (items.map fun item => (item.1, f item.2)) = .object
      ((Fields.grouped (items.map fun item => (item.1, f item.2))).map
        fun group => (group.1, values group.2)) := by
    rw [group, Fields.grouped, List.map_map]
    rfl
  rw [hgroup, Fields.grouped_map, List.map_map]
  rfl

theorem values_of_length_ne_one {items : List Json} (h : items.length ≠ 1) :
    values items = .array items := by
  unfold values
  split
  · exact absurd rfl h
  · rfl

theorem eq_of_values_map_eq (hf : Function.Injective f) (harray : ∀ a items, f a ≠ .array items)
    {l l' : List α} (h : values (l.map f) = values (l'.map f)) : l = l' := by
  have hone (a : α) : values ([a].map f) = f a := rfl
  have hmany {l : List α} (h : l.length ≠ 1) : values (l.map f) = .array (l.map f) :=
    values_of_length_ne_one (by rwa [List.length_map])
  by_cases hl : l.length = 1
  · obtain ⟨a, rfl⟩ := List.length_eq_one_iff.1 hl
    by_cases hl' : l'.length = 1
    · obtain ⟨a', rfl⟩ := List.length_eq_one_iff.1 hl'
      rw [hone, hone] at h
      rw [hf h]
    · rw [hone, hmany hl'] at h
      exact absurd h (harray a _)
  · by_cases hl' : l'.length = 1
    · obtain ⟨a', rfl⟩ := List.length_eq_one_iff.1 hl'
      rw [hone, hmany hl] at h
      exact absurd h.symm (harray a' _)
    · rw [hmany hl, hmany hl'] at h
      exact List.map_injective_iff.2 hf (Json.array.inj h)

theorem objectOf_injective (hf : Function.Injective f) (harray : ∀ a items, f a ≠ .array items) :
    Function.Injective (objectOf f) := by
  refine fun groups groups' h => List.map_injective_iff.2 ?_ (Json.object.inj h)
  rintro ⟨key, all⟩ ⟨key', all'⟩ heq
  obtain ⟨hkey, hall⟩ := Prod.mk.inj heq
  exact Prod.ext hkey (eq_of_values_map_eq hf harray hall)

theorem ofOption_injective : Function.Injective Json.ofOption := by
  intro s s' h
  cases s <;> cases s' <;> first | rfl | cases h
  rfl

theorem ofOption_ne_array (s : Option String) (items : List Json) :
    Json.ofOption s ≠ .array items := by
  cases s <;> exact nofun

theorem Data.json_injective : Function.Injective Data.json := by
  intro d d' h
  cases d with
  | text data =>
    cases d' with
    | text data' => exact congrArg _ (Json.string.inj h)
    | fields groups' => cases h
  | fields groups =>
    cases d' with
    | text data' => cases h
    | fields groups' => exact congrArg _ (objectOf_injective ofOption_injective ofOption_ne_array h)

theorem Held.fields_injective : Function.Injective Held.fields := by
  intro x y h
  have hnodup : ["files", "data"].Nodup := by decide
  have hentries : x.entries = y.entries := eq_of_present_eq rfl hnodup h
  simp only [Held.entries, List.cons.injEq, Prod.mk.injEq, true_and, and_true] at hentries
  obtain ⟨hfiles, hdata⟩ := hentries
  obtain ⟨files, data⟩ := x
  obtain ⟨files', data'⟩ := y
  have hnil : files = [] ↔ files' = [] := by simpa using given_injective hfiles
  rw [Held.mk.injEq]
  refine ⟨?_, Option.map_injective Data.json_injective hdata⟩
  by_cases hempty : files = []
  · rw [hempty, hnil.1 hempty]
  · have hempty' : files' ≠ [] := mt hnil.2 hempty
    rw [given, given, if_pos (decide_eq_true hempty), if_pos (decide_eq_true hempty')] at hfiles
    exact objectOf_injective (fun _ _ => Json.string.inj) nofun (Option.some.inj hfiles)

end Json

end JsonDocument

namespace Body

open JsonDocument

def held : Body → Held
  | .none => {}
  | .raw data .none => { data := some (.text data) }
  | .raw _ (some path) => { data := some (.fields [("file", [some path])]) }
  | .urlencoded _ fields =>
    { data := some (.fields (Fields.grouped (fields.map fun field => (field.1, some field.2)))) }
  | .multipart parts =>
    { files := Fields.grouped (uploads parts)
      data :=
        if heldValues parts = [] then .none
        else some (.fields (Fields.grouped (heldValues parts))) }

inductive SameContent : Body → Body → Prop
  | none : SameContent .none .none
  | raw {data : String} {file : Option String} : SameContent (.raw data file) (.raw data file)
  | urlencoded {text text' : String} {fields fields' : List (String × String)} :
      (∀ name, Fields.values name fields = Fields.values name fields') →
      SameContent (.urlencoded text fields) (.urlencoded text' fields')
  | multipart {parts parts' : List Part} :
      (∀ name, Fields.values name (uploads parts) = Fields.values name (uploads parts')) →
      (∀ name, Fields.values name (sources parts) = Fields.values name (sources parts')) →
      SameContent (.multipart parts) (.multipart parts')

/-- Different bodies of which a document may hold the same. -/
inductive Collides : Body → Body → Prop
  | empty : Collides .none (.multipart [])
  | file {data path text : String} :
      Collides (.raw data (some path)) (.urlencoded text [("file", path)])
  | filePart {data path : String} {p : Part} : p.name = "file" → p.source.held? = some path →
      Collides (.raw data (some path)) (.multipart [p])
  | form {text : String} {fields : List (String × String)} {parts : List Part} :
      uploads parts = [] → Fields.grouped (fields.map fun field => (field.1, some field.2)) =
        Fields.grouped (heldValues parts) →
      Collides (.urlencoded text fields) (.multipart parts)
  | marked {parts parts' : List Part} {p p' : Part} : p ∈ parts → p' ∈ parts' →
      p.name = p'.name → p.source.Marked p'.source → Collides (.multipart parts) (.multipart parts')

end Body

namespace JsonDocument

theorem partValue_eq (hwell : p.WellFormed) : p.isUpload = false →
    partValue p = .ofOption p.source.held? := by
  obtain ⟨name, value, file, filename, contentType, fromFile⟩ := p
  obtain ⟨-, hfile⟩ := hwell
  intro h
  cases file with
  | some path =>
    cases fromFile with
    | true => rfl
    | false => cases h
  | none =>
    cases fromFile with
    | true => cases hfile rfl
    | false => rfl

theorem texts_eq (items : List (String × String)) :
    texts items = objectOf .string (Fields.grouped items) :=
  group_map .string items

theorem texts_eq_ofOption (items : List (String × String)) : texts items =
    objectOf .ofOption (Fields.grouped (items.map fun item => (item.1, some item.2))) := by
  rw [← group_map, List.map_map]
  rfl

theorem partFields_eq (hwell : ∀ p ∈ parts, p.WellFormed) :
    partFields parts = (Body.multipart parts).held.fields := by
  have hvalues : (parts.filter (!·.isUpload)).map (fun p => (p.name, partValue p)) =
      (heldValues parts).map fun s => (s.1, Json.ofOption s.2) := by
    rw [heldValues, sources, List.map_map, List.map_map]
    refine List.map_congr_left fun p hp => ?_
    obtain ⟨hmem, hvalue⟩ := List.mem_filter.1 hp
    rw [partValue_eq (hwell p hmem) (by simpa using hvalue)]
    rfl
  rw [partFields, hvalues, group_map, texts_eq, field_eq_present, field_eq_present,
    ← present_append, Held.fields, Held.entries, Body.held]
  by_cases hnil : heldValues parts = [] <;> simp [hnil, given, Fields.grouped_eq_nil, Data.json]

theorem bodyFields_eq_held (hwell : r.WellFormed) : bodyFields r = r.body.held.fields := by
  unfold bodyFields
  cases hbody : r.body with
  | none => rfl
  | raw data file => cases file <;> rfl
  | urlencoded text fields =>
    change [("data", texts fields)] = _
    rw [texts_eq_ofOption]
    rfl
  | multipart parts => exact partFields_eq (hwell.parts parts hbody)

section Apart

theorem isUpload_of_uploads (h : uploads parts = []) : ∀ p ∈ parts, p.isUpload = false := by
  intro p hp
  have hnone := List.filterMap_eq_nil_iff.1 h p hp
  unfold Part.isUpload
  cases hsource : p.source with
  | upload path =>
    rw [hsource] at hnone
    cases hnone
  | _ => rfl

theorem heldValues_of_uploads (h : uploads parts = []) :
    heldValues parts = parts.map fun p => (p.name, p.source.held?) := by
  have hall : parts.filter (!·.isUpload) = parts :=
    List.filter_eq_self.2 fun p hp => by rw [isUpload_of_uploads h p hp]; rfl
  rw [heldValues, sources, hall, List.map_map]
  rfl

theorem mem_values_sources {name : String} {s : Part.Source} :
    s ∈ Fields.values name (sources parts) ↔
      ∃ p ∈ parts, p.isUpload = false ∧ p.name = name ∧ p.source = s := by
  simp [Fields.values, sources, and_assoc]

theorem held?_source_ne_none (hwell : p.WellFormed) (h : p.isUpload = false) :
    p.source.held? ≠ none := by
  obtain ⟨name, value, file, filename, contentType, fromFile⟩ := p
  obtain ⟨hone, hfile⟩ := hwell
  cases file with
  | some path =>
    cases fromFile with
    | true => exact nofun
    | false => cases h
  | none =>
    cases fromFile with
    | true => cases hfile rfl
    | false => exact Option.isSome_iff_ne_none.1 hone

theorem uploads_of_files (h : (Body.multipart parts).held.files = []) : uploads parts = [] :=
  Fields.grouped_eq_nil.1 h

theorem data_multipart {d : Data} (h : (Body.multipart parts).held.data = some d) :
    d = .fields (Fields.grouped (heldValues parts)) := by
  rw [Body.held] at h
  split at h
  · cases h
  · exact (Option.some.inj h).symm

theorem data_multipart_none (h : (Body.multipart parts).held.data = .none) :
    heldValues parts = [] := by
  rw [Body.held] at h
  split at h
  · assumption
  · cases h

open Body

theorem collides_empty (h : {} = (Body.multipart parts).held) :
    Collides .none (.multipart parts) := by
  have huploads := uploads_of_files (congrArg Held.files h).symm
  have hvalues := data_multipart_none (congrArg Held.data h).symm
  rw [heldValues_of_uploads huploads] at hvalues
  rw [List.map_eq_nil_iff.1 hvalues]
  exact .empty

theorem collides_file {data path text : String} {fields : List (String × String)}
    (h : (Body.raw data (some path)).held = (Body.urlencoded text fields).held) :
    Collides (.raw data (some path)) (.urlencoded text fields) := by
  have hgroups := Data.fields.inj (Option.some.inj (congrArg Held.data h))
  have hfields := Fields.eq_of_grouped_eq_singleton hgroups.symm
  obtain ⟨field, rfl, hfield⟩ := List.map_eq_singleton_iff.1 hfields
  obtain ⟨hname, hpath⟩ := Prod.mk.inj hfield
  obtain rfl : field = ("file", path) := Prod.ext hname (Option.some.inj hpath)
  exact .file

theorem collides_filePart {data path : String}
    (h : (Body.raw data (some path)).held = (Body.multipart parts).held) :
    Collides (.raw data (some path)) (.multipart parts) := by
  have huploads := uploads_of_files (congrArg Held.files h).symm
  have hgroups := Data.fields.inj (data_multipart (congrArg Held.data h).symm)
  have hvalues := Fields.eq_of_grouped_eq_singleton hgroups.symm
  rw [heldValues_of_uploads huploads] at hvalues
  obtain ⟨p, rfl, hp⟩ := List.map_eq_singleton_iff.1 hvalues
  exact .filePart (congrArg Prod.fst hp) (congrArg Prod.snd hp)

theorem collides_form {text : String} {fields : List (String × String)}
    (h : (Body.urlencoded text fields).held = (Body.multipart parts).held) :
    Collides (.urlencoded text fields) (.multipart parts) :=
  .form (uploads_of_files (congrArg Held.files h).symm)
    (Data.fields.inj (data_multipart (congrArg Held.data h).symm))

theorem grouped_heldValues (h : (Body.multipart parts).held = (Body.multipart parts').held) :
    Fields.grouped (heldValues parts) = Fields.grouped (heldValues parts') := by
  cases hdata : (Body.multipart parts).held.data with
  | none => rw [data_multipart_none hdata, data_multipart_none (h ▸ hdata)]
  | some d =>
    exact Data.fields.inj ((data_multipart hdata).symm.trans (data_multipart (h ▸ hdata)))

theorem sameContent_multipart (hwell : ∀ p ∈ parts, p.WellFormed)
    (h : (Body.multipart parts).held = (Body.multipart parts').held) :
    SameContent (.multipart parts) (.multipart parts') ∨
      Collides (.multipart parts) (.multipart parts') ∨
      Collides (.multipart parts') (.multipart parts) := by
  by_cases hall : ∀ name, Fields.values name (sources parts) = Fields.values name (sources parts')
  · exact .inl (.multipart (Fields.values_eq_of_grouped_eq (congrArg Held.files h)) hall)
  · obtain ⟨name, hne⟩ := not_forall.1 hall
    have hvalues := Fields.values_eq_of_grouped_eq (grouped_heldValues h) name
    rw [heldValues, heldValues, Fields.values_map, Fields.values_map] at hvalues
    have hsome : ∀ s ∈ Fields.values name (sources parts), s.held? ≠ .none := by
      intro s hs
      obtain ⟨p, hp, hvalue, -, rfl⟩ := mem_values_sources.1 hs
      exact held?_source_ne_none (hwell p hp) hvalue
    obtain ⟨s, hs, s', hs', hmarked⟩ :=
      (Part.Source.eq_or_exists_marked hsome hvalues).resolve_left hne
    obtain ⟨p, hp, -, hname, rfl⟩ := mem_values_sources.1 hs
    obtain ⟨p', hp', -, hname', rfl⟩ := mem_values_sources.1 hs'
    rcases hmarked with hmarked | hmarked
    · exact .inr (.inl (.marked hp hp' (hname.trans hname'.symm) hmarked))
    · exact .inr (.inr (.marked hp' hp (hname'.trans hname.symm) hmarked))

theorem sameContent_urlencoded {text text' : String} {fields fields' : List (String × String)}
    (h : (Body.urlencoded text fields).held = (Body.urlencoded text' fields').held) :
    SameContent (.urlencoded text fields) (.urlencoded text' fields') := by
  have hgroups := Data.fields.inj (Option.some.inj (congrArg Held.data h))
  refine .urlencoded fun name => ?_
  have hvalues := Fields.values_eq_of_grouped_eq hgroups name
  rw [Fields.values_map, Fields.values_map] at hvalues
  exact List.map_injective_iff.2 (Option.some_injective _) hvalues

theorem text_ne_multipart {data : String} :
    (Body.raw data .none).held ≠ (Body.multipart parts).held := fun h =>
  nomatch data_multipart (congrArg Held.data h).symm

theorem sameContent_or_collides {body body' : Body}
    (hparts : ∀ parts, body = .multipart parts → ∀ p ∈ parts, p.WellFormed)
    (hfile : ∀ data path, body = .raw data (some path) → data = "")
    (hfile' : ∀ data path, body' = .raw data (some path) → data = "") (h : body.held = body'.held) :
    body.SameContent body' ∨ body.Collides body' ∨ body'.Collides body := by
  cases body with
  | none =>
    cases body' with
    | none => exact .inl .none
    | raw data' file' => cases file' <;> cases h
    | urlencoded => cases h
    | multipart => exact .inr (.inl (collides_empty h))
  | raw data file =>
    cases file with
    | none =>
      cases body' with
      | raw data' file' =>
        cases file' with
        | none =>
          cases h
          exact .inl .raw
        | some => cases h
      | multipart => exact absurd h text_ne_multipart
      | none | urlencoded => cases h
    | some path =>
      cases body' with
      | none => cases h
      | raw data' file' =>
        cases file' with
        | none => cases h
        | some path' =>
          obtain rfl := hfile data path rfl
          obtain rfl := hfile' data' path' rfl
          cases h
          exact .inl .raw
      | urlencoded => exact .inr (.inl (collides_file h))
      | multipart => exact .inr (.inl (collides_filePart h))
  | urlencoded text fields =>
    cases body' with
    | none => cases h
    | raw data' file' =>
      cases file' with
      | none => cases h
      | some => exact .inr (.inr (collides_file h.symm))
    | urlencoded => exact .inl (sameContent_urlencoded h)
    | multipart => exact .inr (.inl (collides_form h))
  | multipart parts =>
    cases body' with
    | none => exact .inr (.inr (collides_empty h.symm))
    | raw data' file' =>
      cases file' with
      | none => exact absurd h.symm text_ne_multipart
      | some => exact .inr (.inr (collides_filePart h.symm))
    | urlencoded => exact .inr (.inr (collides_form h.symm))
    | multipart => exact sameContent_multipart (hparts parts rfl) h

end Apart

section Written

variable {query query' : String} {body : Body}

theorem bodyFields_eq_of_document_eq (h : document r query = document r' query') :
    bodyFields r = bodyFields r' := by
  have hentries := entries_eq_of_document_eq h
  simp only [entries, List.cons.injEq, Prod.mk.injEq, true_and] at hentries
  obtain ⟨-, -, -, -, -, -, hfiles, hdata, -⟩ := hentries
  rw [bodyFields_eq_present, hfiles, hdata, ← bodyFields_eq_present]

theorem document_withBody_eq (h : bodyFields r = bodyFields { r with body }) :
    document r query = document { r with body } query := by
  rw [document, document, ← h]
  rfl

theorem featureNotices_eq_nil : Target.json.featureNotices r = [] := by
  have hall (f : Feature) : Target.json.supported.contains f = true := by cases f <;> rfl
  have hnone :
      Feature.all.filter (fun f => !Target.json.supported.contains f && f.isUsedBy r) = [] :=
    List.filter_eq_nil_iff.2 fun f _ => by rw [hall f]; exact nofun
  rw [Target.featureNotices, hnone, List.map_nil]

theorem notes_write : (write r).notes = [] := by
  rw [write, featureNotices_eq_nil]
  cases Url.ofString r.url <;> rfl

theorem exists_write : (∃ code, (write r).result = .ok code) ↔ ∃ u, Url.ofString r.url = .ok u := by
  constructor
  · rintro ⟨code, h⟩
    obtain ⟨u, hu, -⟩ := write_eq_ok.1 h
    exact ⟨u, hu⟩
  · rintro ⟨u, hu⟩
    exact ⟨_, write_eq_ok.2 ⟨u, hu, rfl⟩⟩

end Written

end JsonDocument

namespace Arguments

open JsonDocument

variable {a b : Arguments} {body : Body}

theorem written_eq_iff {code code' : String} (hr : a.request.result = .ok r)
    (hr' : b.request.result = .ok { r with body }) (h : (write r).result = .ok code)
    (h' : (write { r with body }).result = .ok code') :
    code = code' ↔ r.body.held = body.held := by
  have hfields : bodyFields r = r.body.held.fields := bodyFields_eq_held (wellFormed_of_request hr)
  have hfields' : bodyFields { r with body } = body.held.fields :=
    bodyFields_eq_held (wellFormed_of_request hr')
  constructor
  · rintro rfl
    obtain ⟨query, hread⟩ := ofString_write hr h
    obtain ⟨query', hread'⟩ := ofString_write hr' h'
    have hsame := bodyFields_eq_of_document_eq (Except.ok.inj (hread.symm.trans hread'))
    rw [hfields, hfields'] at hsame
    exact Held.fields_injective hsame
  · intro hheld
    obtain ⟨u, hu, rfl⟩ := write_eq_ok.1 h
    obtain ⟨u', hu', rfl⟩ := write_eq_ok.1 h'
    obtain rfl := Except.ok.inj (hu.symm.trans hu')
    have hsame : bodyFields r = bodyFields { r with body } := by rw [hfields, hfields', hheld]
    rw [document_withBody_eq hsame]

/-- Two requests that differ in the body alone have the same document if it holds the same of their
bodies. These then have the same content, unless they are among those that collide; the document
has no note of that. -/
theorem body_told (hr : a.request.result = .ok r)
    (hr' : b.request.result = .ok { r with body }) :
    ((write r).notes = [] ∧ (write { r with body }).notes = []) ∧
    ((∃ code, (write r).result = .ok code) ↔ ∃ code, (write { r with body }).result = .ok code) ∧
    ∀ code code', (write r).result = .ok code → (write { r with body }).result = .ok code' →
      (code = code' ↔ r.body.held = body.held) ∧
      (code = code' → r.body.SameContent body ∨ r.body.Collides body ∨ body.Collides r.body) := by
  have hwell := wellFormed_of_request hr
  have hwell' := wellFormed_of_request hr'
  have hwritten : (∃ code, (write r).result = .ok code) ↔
      ∃ code, (write { r with body }).result = .ok code :=
    (exists_write (r := r)).trans (exists_write (r := { r with body })).symm
  refine ⟨⟨notes_write, notes_write⟩, hwritten, fun code code' hcode hcode' => ?_⟩
  have hheld := written_eq_iff hr hr' hcode hcode'
  exact ⟨hheld, fun h =>
    sameContent_or_collides hwell.parts hwell.file hwell'.file (hheld.1 h)⟩

theorem body_told_order : ∃ a b r body code,
    (parse .curl true ["-d", "a=1&a=2&b=", "http://h/"]).result = .ok a ∧
    (parse .curl true ["-d", "a=1&b=&a=2", "http://h/"]).result = .ok b ∧
    a.request.result = .ok r ∧ b.request.result = .ok { r with body } ∧ r.body ≠ body ∧
    (write r).result = .ok code ∧ (write { r with body }).result = .ok code ∧
    r.body.held = body.held ∧
    (r.body.SameContent body ∨ r.body.Collides body ∨ body.Collides r.body) := by
  let a : Arguments := ⟨[⟨"data", true, .word "a=1&a=2&b="⟩], ["http://h/"]⟩
  let b : Arguments := ⟨[⟨"data", true, .word "a=1&b=&a=2"⟩], ["http://h/"]⟩
  let r : Request :=
    { method := .post, url := "http://h/"
      body := .urlencoded "a=1&a=2&b=" [("a", "1"), ("a", "2"), ("b", "")] }
  let body : Body := .urlencoded "a=1&b=&a=2" [("a", "1"), ("b", ""), ("a", "2")]
  have hr : a.request.result = .ok r := by decide
  have hr' : b.request.result = .ok { r with body } := by decide
  obtain ⟨-, -, htold⟩ := body_told hr hr'
  have hcode : (write r).result = .ok ("\x7b\n    \"url\": \"http://h/\",\n"
      ++ "    \"raw_url\": \"http://h/\",\n    \"method\": \"post\",\n    \"data\": \x7b\n"
      ++ "        \"a\": [\n            \"1\",\n            \"2\"\n        ],\n"
      ++ "        \"b\": \"\"\n    \x7d\n\x7d\n") := by decide +kernel
  have hcode' : (write { r with body }).result = (write r).result := by decide +kernel
  obtain ⟨hheld, hcontent⟩ := htold _ _ hcode (hcode'.trans hcode)
  exact ⟨a, b, r, body, _, by cbv, by cbv, hr, hr', by decide, hcode, hcode'.trans hcode,
    hheld.1 rfl, hcontent rfl⟩

theorem body_told_mark : ∃ a b c r body body' code,
    (parse .curl true ["-F", "a=<f", "http://h/"]).result = .ok a ∧
    (parse .curl true ["--form-string", "a=<f", "http://h/"]).result = .ok b ∧
    (parse .curl true ["-d", "a=%3Cf", "http://h/"]).result = .ok c ∧
    a.request.result = .ok r ∧ b.request.result = .ok { r with body } ∧
    c.request.result = .ok { r with body := body' } ∧
    r.body = .multipart [{ name := "a", file := some "f", fromFile := true }] ∧
    body = .multipart [{ name := "a", value := some "<f" }] ∧
    body' = .urlencoded "a=%3Cf" [("a", "<f")] ∧
    (write r).notes = [] ∧ (write r).result = .ok code ∧
    (write { r with body }).notes = [] ∧ (write { r with body }).result = .ok code ∧
    (write { r with body := body' }).notes = [] ∧
    (write { r with body := body' }).result = .ok code ∧
    ¬ r.body.SameContent body ∧ ¬ r.body.SameContent body' := by
  let a : Arguments := ⟨[⟨"form", true, .word "a=<f"⟩], ["http://h/"]⟩
  let b : Arguments := ⟨[⟨"form-string", true, .word "a=<f"⟩], ["http://h/"]⟩
  let c : Arguments := ⟨[⟨"data", true, .word "a=%3Cf"⟩], ["http://h/"]⟩
  let body : Body := .multipart [{ name := "a", value := some "<f" }]
  let body' : Body := .urlencoded "a=%3Cf" [("a", "<f")]
  let r : Request :=
    { method := .post, url := "http://h/"
      body := .multipart [{ name := "a", file := some "f", fromFile := true }] }
  have hcode : (write r).result = .ok ("\x7b\n    \"url\": \"http://h/\",\n"
      ++ "    \"raw_url\": \"http://h/\",\n    \"method\": \"post\",\n    \"data\": \x7b\n"
      ++ "        \"a\": \"<f\"\n    \x7d\n\x7d\n") := by decide +kernel
  refine ⟨a, b, c, r, body, body', _, by cbv, by cbv, by cbv, by decide, by decide, by decide,
    rfl, rfl, rfl, notes_write, hcode, notes_write, ?_, notes_write, ?_, ?_, ?_⟩
  · decide +kernel
  · decide +kernel
  · change ¬ Body.SameContent (.multipart [_]) (.multipart [_])
    intro h
    cases h with
    | multipart _ hvalues => exact absurd (hvalues "a") (by decide)
  · change ¬ Body.SameContent (.multipart _) (.urlencoded _ _)
    intro h
    cases h

end Arguments

end CurlScribe
