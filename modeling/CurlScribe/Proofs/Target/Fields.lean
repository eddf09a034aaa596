import CurlScribe.Proofs.Text.Around
import CurlScribe.Target.Fields
import Mathlib.Data.List.Induction
import Mathlib.Data.List.Nodup

namespace CurlScribe

namespace Fields

variable {α : Type} {fields items : List (String × α)} {key : String} {value : α}

theorem put_of_not_mem (h : key ∉ fields.map (·.1)) :
    put key value fields = fields ++ [(key, value)] := by
  induction fields with
  | nil => rfl
  | cons field fields ih =>
    rw [List.map_cons, List.mem_cons, not_or] at h
    rw [put, if_neg (Ne.symm h.1), ih h.2, List.cons_append]

theorem map_fst_put_of_mem (h : key ∈ fields.map (·.1)) :
    (put key value fields).map (·.1) = fields.map (·.1) := by
  induction fields with
  | nil => cases h
  | cons field fields ih =>
    rw [put]
    split
    · rfl
    · rename_i hne
      rw [List.map_cons, List.mem_cons] at h
      rw [List.map_cons, List.map_cons, ih (h.resolve_left (Ne.symm hne))]

theorem map_fst_put (key : String) (value : α) (fields : List (String × α)) :
    (put key value fields).map (·.1) =
      if key ∈ fields.map (·.1) then fields.map (·.1) else fields.map (·.1) ++ [key] := by
  split
  · rename_i h
    exact map_fst_put_of_mem h
  · rename_i h
    rw [put_of_not_mem h, List.map_append, List.map_singleton]

theorem nodup_put (h : (fields.map (·.1)).Nodup) :
    ((put key value fields).map (·.1)).Nodup := by
  by_cases hmem : key ∈ fields.map (·.1)
  · rwa [map_fst_put_of_mem hmem]
  · rw [put_of_not_mem hmem, List.map_append, List.nodup_append]
    refine ⟨h, List.nodup_singleton _, fun other hother added hadded heq => hmem ?_⟩
    obtain rfl := List.mem_singleton.1 hadded
    exact heq ▸ hother

theorem lookup_cons (field : String × α) (fields : List (String × α)) (key : String) :
    (field :: fields).lookup key = if key = field.1 then some field.2 else fields.lookup key := by
  rw [List.lookup_cons]
  split <;> simp_all

theorem lookup_put (key other : String) (value : α) (fields : List (String × α)) :
    (put key value fields).lookup other =
      if other = key then some value else fields.lookup other := by
  induction fields with
  | nil => rw [put, lookup_cons]
  | cons field fields ih =>
    rw [put]
    split
    · rename_i hkey
      rw [lookup_cons, lookup_cons, hkey]
      split <;> rfl
    · rename_i hkey
      rw [lookup_cons, ih, lookup_cons]
      by_cases hfield : other = field.1 <;> simp [hfield, hkey]

theorem eq_map_keys {f : String → α} (hnodup : (fields.map (·.1)).Nodup)
    (h : ∀ key ∈ fields.map (·.1), fields.lookup key = some (f key)) :
    fields = (fields.map (·.1)).map fun key => (key, f key) := by
  induction fields with
  | nil => rfl
  | cons field fields ih =>
    rw [List.map_cons, List.nodup_cons] at hnodup
    have hfirst : some field.2 = some (f field.1) := by
      rw [← h field.1 List.mem_cons_self, lookup_cons, if_pos rfl]
    have hrest : ∀ key ∈ fields.map (·.1), fields.lookup key = some (f key) := by
      intro key hkey
      have hne : key ≠ field.1 := fun heq => hnodup.1 (heq ▸ hkey)
      rw [← h key (List.mem_cons_of_mem _ hkey), lookup_cons, if_neg hne]
    rw [List.map_cons, List.map_cons, ← ih hnodup.2 hrest, ← Option.some.inj hfirst]

theorem lookup_filter (p : String → Bool) (fields : List (String × α)) (key : String) :
    (fields.filter (p ·.1)).lookup key = if p key then fields.lookup key else none := by
  induction fields with
  | nil => simp
  | cons field fields ih =>
    rw [List.filter_cons, lookup_cons]
    split
    · rename_i hp
      rw [lookup_cons, ih]
      by_cases hfield : key = field.1 <;> simp [hfield, hp]
    · rename_i hp
      rw [ih]
      by_cases hfield : key = field.1 <;> simp [hfield, hp]

theorem mem_put (hnodup : (fields.map (·.1)).Nodup) {item : String × α} :
    item ∈ put key value fields ↔ item = (key, value) ∨ item.1 ≠ key ∧ item ∈ fields := by
  induction fields with
  | nil => simp [put]
  | cons field fields ih =>
    rw [List.map_cons, List.nodup_cons] at hnodup
    rw [put]
    split
    · rename_i heq
      have hne : ∀ other ∈ fields, other.1 ≠ field.1 := fun other hmem hother =>
        hnodup.1 (hother ▸ List.mem_map_of_mem hmem)
      grind
    · rw [List.mem_cons, ih hnodup.2]
      grind

def putAll (fields items : List (String × α)) : List (String × α) :=
  items.foldl (fun fields (key, value) => put key value fields) fields

theorem putAll_append {more : List (String × α)} :
    putAll fields (items ++ more) = putAll (putAll fields items) more :=
  List.foldl_append

theorem ofItems_append : ofItems (fields ++ items) = putAll (ofItems fields) items :=
  List.foldl_append

theorem putAll_of_nodup (h : ((fields ++ items).map (·.1)).Nodup) :
    putAll fields items = fields ++ items := by
  induction items generalizing fields with
  | nil => rw [putAll, List.foldl_nil, List.append_nil]
  | cons item items ih =>
    obtain ⟨key, value⟩ := item
    have hnew : key ∉ fields.map (·.1) := by
      simp only [List.map_append, List.map_cons, List.nodup_append, List.nodup_cons] at h
      exact fun hmem => h.2.2 _ hmem _ List.mem_cons_self rfl
    have happ : fields ++ (key, value) :: items = fields ++ [(key, value)] ++ items := by simp
    change putAll (put key value fields) items = _
    rw [put_of_not_mem hnew, happ]
    exact ih (happ ▸ h)

section Map

variable {β : Type} (f : α → β)

theorem put_map (fields : List (String × α)) :
    put key (f value) (fields.map fun item => (item.1, f item.2)) =
      (put key value fields).map fun item => (item.1, f item.2) := by
  induction fields with
  | nil => rfl
  | cons field fields ih =>
    rw [List.map_cons, put, put, ih]
    split <;> rfl

theorem putAll_map (fields items : List (String × α)) :
    putAll (fields.map fun item => (item.1, f item.2)) (items.map fun item => (item.1, f item.2)) =
      (putAll fields items).map fun item => (item.1, f item.2) := by
  induction items generalizing fields with
  | nil => rfl
  | cons item items ih =>
    change putAll (put item.1 (f item.2) _) _ = (putAll (put item.1 item.2 fields) items).map _
    rw [put_map, ih]

theorem ofItems_map (items : List (String × α)) :
    ofItems (items.map fun item => (item.1, f item.2)) =
      (ofItems items).map fun item => (item.1, f item.2) :=
  putAll_map f [] items

end Map

theorem ofItems_of_nodup (h : (items.map (·.1)).Nodup) : ofItems items = items :=
  putAll_of_nodup h

section Last

variable {item : String × α}

theorem nodup_ofItems (items : List (String × α)) : ((ofItems items).map (·.1)).Nodup := by
  induction items using List.reverseRecOn with
  | nil => exact List.nodup_nil
  | append_singleton items item ih =>
    rw [ofItems_append]
    exact nodup_put ih

theorem values_append_singleton (key : String) (items : List (String × α)) (item : String × α) :
    values key (items ++ [item]) = values key items ++ if item.1 = key then [item.2] else [] := by
  rw [values, List.filter_append, List.map_append, List.filter_singleton, ← values]
  by_cases h : item.1 = key <;> simp [h]

theorem mem_ofItems : item ∈ ofItems items ↔ (values item.1 items).getLast? = some item.2 := by
  induction items using List.reverseRecOn with
  | nil => simp [ofItems, values]
  | append_singleton items last ih =>
    rw [ofItems_append]
    change item ∈ put last.1 last.2 (ofItems items) ↔ _
    rw [mem_put (nodup_ofItems items), ih, values_append_singleton]
    by_cases h : last.1 = item.1
    · simp [h, Prod.ext_iff, eq_comm]
    · simp [h, Prod.ext_iff, Ne.symm h]

theorem subset_ofItems : items ⊆ ofItems items ↔
    ∀ item ∈ items, ∀ other ∈ items, item.1 = other.1 → item.2 = other.2 := by
  constructor
  · intro h item hitem other hother hkey
    have hlast := mem_ofItems.1 (h hitem)
    rw [hkey, mem_ofItems.1 (h hother)] at hlast
    exact (Option.some.inj hlast).symm
  · intro h item hitem
    have hvalue : item.2 ∈ values item.1 items :=
      List.mem_map_of_mem (List.mem_filter.2 ⟨hitem, decide_eq_true rfl⟩)
    obtain ⟨value, hlast⟩ := Option.isSome_iff_exists.1
      (List.getLast?_isSome.2 (List.ne_nil_of_mem hvalue))
    obtain ⟨other, hother, rfl⟩ := List.mem_map.1 (List.mem_of_getLast? hlast)
    obtain ⟨hother, hkey⟩ := List.mem_filter.1 hother
    rw [mem_ofItems, hlast, h item hitem other hother (of_decide_eq_true hkey).symm]

end Last

section Place

variable {before after : List (String × α)} {v w : α}

theorem exists_put (key : String) (fields : List (String × α)) :
    ∃ before after, key ∉ before.map (·.1) ∧
      ∀ value, put key value fields = before ++ (key, value) :: after := by
  induction fields with
  | nil => exact ⟨[], [], List.not_mem_nil, fun _ => rfl⟩
  | cons field fields ih =>
    by_cases h : field.1 = key
    · refine ⟨[], fields, List.not_mem_nil, fun value => ?_⟩
      rw [put, if_pos h, h, List.nil_append]
    · obtain ⟨before, after, hbefore, hput⟩ := ih
      refine ⟨field :: before, after, ?_, fun value => ?_⟩
      · rw [List.map_cons, List.mem_cons, not_or]
        exact ⟨Ne.symm h, hbefore⟩
      · rw [put, if_neg h, hput, List.cons_append]

theorem put_same (h : key ∉ before.map (·.1)) :
    put key w (before ++ (key, v) :: after) = before ++ (key, w) :: after := by
  induction before with
  | nil => exact if_pos rfl
  | cons field before ih =>
    rw [List.map_cons, List.mem_cons, not_or] at h
    rw [List.cons_append, put, if_neg (Ne.symm h.1), ih h.2, List.cons_append]

theorem exists_put_other {other : String} (hne : other ≠ key) (x : α)
    (h : key ∉ before.map (·.1)) (after : List (String × α)) :
    ∃ start rest, key ∉ start.map (·.1) ∧
      ∀ v, put other x (before ++ (key, v) :: after) = start ++ (key, v) :: rest := by
  induction before with
  | nil => exact ⟨[], put other x after, List.not_mem_nil, fun v => if_neg hne.symm⟩
  | cons field before ih =>
    rw [List.map_cons, List.mem_cons, not_or] at h
    by_cases hfield : field.1 = other
    · refine ⟨(field.1, x) :: before, after, ?_, fun v => if_pos hfield⟩
      rw [List.map_cons, List.mem_cons, not_or]
      exact h
    · obtain ⟨start, rest, hstart, hput⟩ := ih h.2
      refine ⟨field :: start, rest, ?_, fun v => ?_⟩
      · rw [List.map_cons, List.mem_cons, not_or]
        exact ⟨h.1, hstart⟩
      · rw [List.cons_append, put, if_neg hfield, hput, List.cons_append]

theorem exists_putAll (hkey : key ∉ items.map (·.1)) (h : key ∉ before.map (·.1))
    (after : List (String × α)) :
    ∃ start rest, ∀ v, putAll (before ++ (key, v) :: after) items = start ++ (key, v) :: rest := by
  induction items generalizing before after with
  | nil => exact ⟨before, after, fun _ => rfl⟩
  | cons item items ih =>
    rw [List.map_cons, List.mem_cons, not_or] at hkey
    obtain ⟨start, rest, hstart, hput⟩ := exists_put_other (Ne.symm hkey.1) item.2 h after
    obtain ⟨start, rest, hall⟩ := ih hkey.2 hstart rest
    refine ⟨start, rest, fun v => ?_⟩
    rw [← hall, ← hput]
    rfl

theorem putAll_of_mem (hkey : key ∈ items.map (·.1)) (h : key ∉ before.map (·.1)) :
    putAll (before ++ (key, v) :: after) items = putAll (before ++ (key, w) :: after) items := by
  induction items generalizing before after with
  | nil => cases hkey
  | cons item items ih =>
    change putAll (put item.1 item.2 _) items = putAll (put item.1 item.2 _) items
    by_cases hitem : item.1 = key
    · rw [hitem, put_same h, put_same h]
    · rw [List.map_cons, List.mem_cons] at hkey
      obtain ⟨start, rest, hstart, hput⟩ := exists_put_other hitem item.2 h after
      rw [hput, hput]
      exact ih (hkey.resolve_left (Ne.symm hitem)) hstart

theorem ofItems_append_cons (before after : List (String × α)) (key : String) (value : α) :
    ofItems (before ++ (key, value) :: after) = putAll (put key value (ofItems before)) after :=
  ofItems_append

theorem exists_ofItems (h : key ∉ after.map (·.1)) (before : List (String × α)) :
    ∃ start rest, ∀ v, ofItems (before ++ (key, v) :: after) = start ++ (key, v) :: rest := by
  obtain ⟨start, rest, hstart, hput⟩ := exists_put key (ofItems before)
  obtain ⟨start, rest, hall⟩ := exists_putAll h hstart rest
  refine ⟨start, rest, fun v => ?_⟩
  rw [ofItems_append_cons, hput, hall]

theorem ofItems_of_mem (h : key ∈ after.map (·.1)) (before : List (String × α)) (v w : α) :
    ofItems (before ++ (key, v) :: after) = ofItems (before ++ (key, w) :: after) := by
  obtain ⟨start, rest, hstart, hput⟩ := exists_put key (ofItems before)
  rw [ofItems_append_cons, ofItems_append_cons, hput, hput]
  exact putAll_of_mem h hstart

variable {β : Type} {entry : β → String × α} {x y : β} {start rest : List β}

theorem ofItems_map_of_mem (hkey : (entry x).1 = (entry y).1)
    (h : (entry x).1 ∈ rest.map fun z => (entry z).1) :
    ofItems ((start ++ x :: rest).map entry) = ofItems ((start ++ y :: rest).map entry) := by
  have hrest : (entry x).1 ∈ (rest.map entry).map (·.1) := by rwa [List.map_map]
  have hy : entry y = ((entry x).1, (entry y).2) := by rw [hkey]
  simp only [List.map_append, List.map_cons]
  rw [hy]
  exact ofItems_of_mem hrest (start.map entry) (entry x).2 (entry y).2

theorem replaced_ofItems_map (start : List β) (hkey : (entry x).1 = (entry y).1)
    (h : (entry x).1 ∉ rest.map fun z => (entry z).1) :
    Replaced (entry x) (entry y) (ofItems ((start ++ x :: rest).map entry))
      (ofItems ((start ++ y :: rest).map entry)) := by
  have hrest : (entry x).1 ∉ (rest.map entry).map (·.1) := by rwa [List.map_map]
  obtain ⟨head, tail, hall⟩ := exists_ofItems hrest (start.map entry)
  have hy : entry y = ((entry x).1, (entry y).2) := by rw [hkey]
  simp only [List.map_append, List.map_cons]
  rw [hy]
  exact ⟨head, tail, hall (entry x).2, hall (entry y).2⟩

end Place

section Repeated

variable {seen keys : List String}

theorem mem_repeated (hseen : key ∈ seen) (hkey : key ∈ keys) : key ∈ repeated seen keys := by
  induction keys generalizing seen with
  | nil => cases hkey
  | cons other keys ih =>
    by_cases h : other = key
    · subst h
      rw [repeated, if_pos (by simpa using hseen)]
      exact List.mem_cons_self
    · have hrest := (List.mem_cons.1 hkey).resolve_left (Ne.symm h)
      rw [repeated]
      split
      · exact List.mem_cons_of_mem _ (ih hseen hrest)
      · exact ih (List.mem_cons_of_mem _ hseen) hrest

theorem mem_repeated_append (seen start : List String) {rest : List String} (h : key ∈ rest) :
    key ∈ repeated seen (start ++ key :: rest) := by
  induction start generalizing seen with
  | nil =>
    rw [List.nil_append, repeated]
    split
    · exact List.mem_cons_self
    · exact mem_repeated List.mem_cons_self h
  | cons other start ih =>
    rw [List.cons_append, repeated]
    split
    · exact List.mem_cons_of_mem _ (ih seen)
    · exact ih (other :: seen)

end Repeated

end Fields

end CurlScribe
