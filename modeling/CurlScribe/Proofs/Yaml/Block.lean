import CurlScribe.Proofs.Text.Around
import CurlScribe.Proofs.Yaml.Scalar
import CurlScribe.Yaml.Basic

namespace CurlScribe.Yaml

variable {key : String} {v w : Yaml} {indent column : Nat} {afterKey : Bool}
  {entries others : List (String × Yaml)}

def columnAfter (indent : Nat) (key : String) : Nat :=
  if isSimpleKey key then indent + (simpleKey key).length + 1 else indent + 1

def entryText (indent : Nat) (entry : String × Yaml) : String :=
  (if isSimpleKey entry.1 then simpleKey entry.1 ++ ":"
    else "? " ++ scalar (placeIn indent (indent + 2)) entry.1 ++ "\n" ++ Text.spaces indent ++ ":")
    ++ value indent (columnAfter indent entry.1) (isSimpleKey entry.1) entry.2

theorem entryTexts_eq_map (indent : Nat) (entries : List (String × Yaml)) :
    entryTexts indent entries = entries.map (entryText indent) := by
  induction entries with
  | nil => rfl
  | cons entry entries ih =>
    rw [entryTexts, ih, List.map_cons, entryText, columnAfter]
    cases isSimpleKey entry.1 <;> rfl

theorem value_mapping (h : entries ≠ []) : value indent column afterKey (.mapping entries) =
    (if afterKey then "\n" ++ Text.spaces (indent + 2) else " ")
      ++ lines (indent + 2) (entries.map (entryText (indent + 2))) := by
  rw [value, entryTexts_eq_map, if_neg (by simpa using h)]

theorem around_entryText (key : String) (v w : Yaml) :
    Around (value indent (columnAfter indent key) (isSimpleKey key) v)
      (value indent (columnAfter indent key) (isSimpleKey key) w)
      (entryText indent (key, v)) (entryText indent (key, w)) :=
  .left _ .refl

theorem around_mapping (h : Replaced (key, v) (key, w) entries others) :
    Around (value (indent + 2) (columnAfter (indent + 2) key) (isSimpleKey key) v)
      (value (indent + 2) (columnAfter (indent + 2) key) (isSimpleKey key) w)
      (value indent column afterKey (.mapping entries))
      (value indent column afterKey (.mapping others)) := by
  rw [value_mapping h.ne_nil.1, value_mapping h.ne_nil.2]
  exact (around_entryText key v w).trans
    (.left _ (.joined _ (h.map (entryText (indent + 2)))))

theorem around_listDocument (v w : Yaml) : Around (value 0 1 false v) (value 0 1 false w)
    (listDocument [v]) (listDocument [w]) :=
  .right (.left "-" .refl) "\n"

theorem value_text_inj (hindent : indent + 2 < width) {s t : String} :
    value indent column afterKey (.text s) = value indent column afterKey (.text t) ↔ s = t := by
  have hinj : Function.Injective (scalar (placeIn indent (column + 1))) :=
    scalar_injective (Nat.succ_pos _) hindent
  rw [value, value, String.append_right_inj, hinj.eq_iff]

theorem entryText_text_injective (hindent : indent + 2 < width) (key : String) :
    Function.Injective fun s => entryText indent (key, .text s) := by
  intro s t h
  exact (value_text_inj hindent).1 ((around_entryText key (.text s) (.text t)).eq_iff.1 h)

end CurlScribe.Yaml
