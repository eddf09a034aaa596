import CurlScribe.Proofs.Target.JsonBody

namespace CurlScribe.JsonDocument

open Arguments (firsts mem_firsts nodup_firsts)

variable {items others : List (String × String)} {all : List String}

/-- A value behind what a key has: the first is kept as it is, the second makes an array of both,
and those after it go to the end of the array. -/
def withValue (value : Json) : Option Json → Json
  | none => value
  | some (.array all) => .array (all ++ [value])
  | some first => .array [first, value]

def add (fields : List (String × Json)) (item : String × String) : List (String × Json) :=
  Fields.put item.1 (withValue (.string item.2) (fields.lookup item.1)) fields

def collect (items : List (String × String)) : List (String × Json) := items.foldl add []

def valueOf? : List String → Option Json
  | [] => none
  | [value] => some (.string value)
  | many => some (.array (many.map .string))

theorem valueOf?_append_singleton (all : List String) (value : String) :
    valueOf? (all ++ [value]) = some (withValue (.string value) (valueOf? all)) := by
  match all with
  | [] => rfl
  | [_] => rfl
  | _ :: _ :: _ => simp [valueOf?, withValue]

theorem valueOf?_of_ne_nil (h : all ≠ []) : valueOf? all = some (values (all.map .string)) := by
  match all with
  | [_] => rfl
  | _ :: _ :: _ => rfl

theorem map_fst_collect (items : List (String × String)) :
    (collect items).map (·.1) = firsts (items.map (·.1)) :=
  Fields.map_fst_foldl_put
    (fun fields item => withValue (.string item.2) (fields.lookup item.1)) items

theorem lookup_collect (items : List (String × String)) (key : String) :
    (collect items).lookup key = valueOf? (Fields.values key items) := by
  induction items using List.reverseRecOn with
  | nil => rfl
  | append_singleton items item ih =>
    rw [collect, List.foldl_append, List.foldl_cons, List.foldl_nil, ← collect, add,
      Fields.lookup_put, Fields.values_append_singleton]
    by_cases h : key = item.1
    · subst h
      rw [if_pos rfl, if_pos rfl, ih, valueOf?_append_singleton]
    · rw [if_neg h, if_neg (Ne.symm h), List.append_nil, ih]

theorem texts_eq_collect (items : List (String × String)) :
    texts items = .object (collect items) := by
  have hnodup : ((collect items).map (·.1)).Nodup := map_fst_collect items ▸ nodup_firsts _
  have hvalues : ∀ key ∈ (collect items).map (·.1), (collect items).lookup key =
      some (values ((Fields.values key items).map .string)) := by
    intro key hkey
    rw [map_fst_collect, mem_firsts] at hkey
    rw [lookup_collect, valueOf?_of_ne_nil fun hnil => Fields.values_eq_nil.1 hnil hkey]
  rw [texts_eq, objectOf, Fields.grouped_eq_map_firsts, List.map_map,
    Fields.eq_map_keys hnodup hvalues, map_fst_collect]
  rfl

theorem texts_eq_iff : texts items = texts others ↔
    firsts (items.map (·.1)) = firsts (others.map (·.1)) ∧
    ∀ key, Fields.values key items = Fields.values key others := by
  have hinjective := objectOf_injective (f := Json.string) (fun _ _ => Json.string.inj) nofun
  rw [texts_eq, texts_eq, hinjective.eq_iff, Fields.grouped_eq_iff]

/-- The object has each key where it first is, with its text, or with all of its texts in their
order if there are more. Two objects are the same, and are written alike, just if their keys come in
the same order and each key has the same texts. -/
theorem texts_lossless (items : List (String × String)) :
    texts items = .object (collect items) ∧
    (collect items).map (·.1) = firsts (items.map (·.1)) ∧
    (∀ key, (collect items).lookup key = valueOf? (Fields.values key items)) ∧
    ∀ others,
      (texts items = texts others ↔
        firsts (items.map (·.1)) = firsts (others.map (·.1)) ∧
        ∀ key, Fields.values key items = Fields.values key others) ∧
      ((texts items).render 0 = (texts others).render 0 ↔ texts items = texts others) :=
  ⟨texts_eq_collect items, map_fst_collect items, lookup_collect items, fun others =>
    ⟨texts_eq_iff, Json.render_inj (readable_texts items) (readable_texts others)⟩⟩

example : collect [("q", "1"), ("b", ""), ("q", "2"), ("q", "1")] =
    [("q", .array [.string "1", .string "2", .string "1"]), ("b", .string "")] := rfl

end CurlScribe.JsonDocument
