import CurlScribe.Proofs.Json.Scalar

namespace CurlScribe.Json

open Numeral

variable {v : Json} {level fuel : Nat} {s t rest : List Char}

/-- Values whose numbers are decimals, with no more digits than an integer may have. -/
inductive Readable : Json → Prop
  | null : Readable .null
  | bool (b : Bool) : Readable (.bool b)
  | number (d : Decimal) (hlength : d.IsInteger → d.whole.length ≤ maxDigits) :
      Readable (.number (.ofList d.text))
  | string (s : String) : Readable (.string s)
  | array {items : List Json} (hitems : ∀ item ∈ items, Readable item) : Readable (.array items)
  | object {fields : List (String × Json)} (hfields : ∀ field ∈ fields, Readable field.2) :
      Readable (.object fields)

section Layout

theorem renderItems_eq_map (level : Nat) (items : List Json) :
    renderItems level items = items.map (render level) := by
  induction items with
  | nil => rfl
  | cons item items ih => rw [renderItems, ih, List.map_cons]

def renderField (level : Nat) (field : String × Json) : String :=
  quoted false field.1 ++ ": " ++ render level field.2

theorem renderFields_eq_map (level : Nat) (fields : List (String × Json)) :
    renderFields level fields = fields.map (renderField level) := by
  induction fields with
  | nil => rfl
  | cons field fields ih => rw [renderFields, ih, List.map_cons, renderField]

def following (level : Nat) (closing : Char) : List String → List Char
  | [] => '\n' :: ((margin level).toList ++ [closing])
  | entry :: rest =>
    ',' :: '\n' :: ((margin (level + 1)).toList ++ (entry.toList ++ following level closing rest))

theorem toList_block (level : Nat) (opening closing : Char) (entry : String) (rest : List String) :
    (block level (.singleton opening) (.singleton closing) (entry :: rest)).toList =
      opening :: '\n' :: ((margin (level + 1)).toList ++
        (entry.toList ++ following level closing rest)) := by
  have htail : ∀ entry : String,
      (String.intercalate ",\n" ((entry :: rest).map (margin (level + 1) ++ ·))).toList ++
        '\n' :: ((margin level).toList ++ [closing]) =
      (margin (level + 1)).toList ++ (entry.toList ++ following level closing rest) := by
    induction rest with
    | nil => simp [following]
    | cons next rest ih =>
      intro entry
      have hnext := ih next
      simp [String.toList_intercalate] at hnext
      simp [String.toList_intercalate, following, hnext]
  rw [block, if_neg (List.cons_ne_nil _ _), ← htail]
  simp

theorem skip_margin (level : Nat) (t : List Char) :
    skip ('\n' :: ((margin level).toList ++ t)) = skip t := by
  have hmargin : ∀ c ∈ (margin level).toList, isSpace c = true := by
    simp [margin, isSpace]
  rw [skip, List.dropWhile_cons_of_pos (by rfl), List.dropWhile_append_of_pos hmargin, skip]

end Layout

theorem goesOn_following (level : Nat) (closing : Char) (entries : List String) (rest : List Char) :
    ∀ c ∈ (following level closing entries ++ rest).head?, goesOn c = false := by
  cases entries <;> simp [following, goesOn]

def mayStart (c : Char) : Bool := !isSpace c && c ≠ ']' && c ≠ '\ufeff'

theorem mayStart_iff {c : Char} :
    mayStart c = true ↔ isSpace c = false ∧ c ≠ ']' ∧ c ≠ '\ufeff' := by
  simp [mayStart, and_assoc]

theorem mayStart_of_isDigit {c : Char} (h : c.isDigit = true) : mayStart c = true := by
  by_contra hstart
  simp only [mayStart, isSpace, Bool.and_eq_true, Bool.not_eq_true', Bool.or_eq_false_iff,
    decide_eq_true_eq, decide_eq_false_iff_not, not_and_or, not_not] at hstart
  rcases hstart with ((((rfl | rfl) | rfl) | rfl) | rfl) | rfl <;> simp at h

theorem head?_render (hv : Readable v) (level : Nat) :
    ∃ c ∈ (render level v).toList.head?, mayStart c = true := by
  cases hv with
  | null => exact ⟨'n', by simp [render], by decide⟩
  | bool b =>
    cases b with
    | false => exact ⟨'f', by simp [render], by decide⟩
    | true => exact ⟨'t', by simp [render], by decide⟩
  | number d hlength =>
    obtain ⟨c, more, hwhole, hc⟩ := d.exists_whole
    cases hnegative : d.negative with
    | false =>
      exact ⟨c, by simp [render, Decimal.text, hnegative, hwhole], mayStart_of_isDigit hc⟩
    | true => exact ⟨'-', by simp [render, Decimal.text, hnegative], by decide⟩
  | string s => exact ⟨'"', by simp [render, quoted, quotedList], by decide⟩
  | array hitems => exact ⟨'[', by rw [render, block]; split <;> simp, by decide⟩
  | object hfields => exact ⟨'\x7b', by rw [render, block]; split <;> simp, by decide⟩

theorem head?_render_append (hv : Readable v) (level : Nat) (t : List Char) :
    ∀ c ∈ ((render level v).toList ++ t).head?, isSpace c = false ∧ c ≠ ']' ∧ c ≠ '\ufeff' := by
  obtain ⟨first, hfirst, hc⟩ := head?_render hv level
  intro c hmem
  rw [List.head?_append, hfirst] at hmem
  obtain rfl : first = c := by simpa using hmem
  exact mayStart_iff.1 hc

theorem skip_render (hv : Readable v) (level : Nat) (t : List Char) :
    skip ((render level v).toList ++ t) = (render level v).toList ++ t := by
  have hhead := head?_render_append hv level t
  cases h : (render level v).toList ++ t with
  | nil => rfl
  | cons c more =>
    rw [h] at hhead
    exact List.dropWhile_cons_of_neg (by simp [(hhead c rfl).1])

theorem valueFrom_eq_numeral (d : Decimal) (fuel : Nat) (rest : List Char) :
    valueFrom (fuel + 1) (d.text ++ rest) = numeral (d.text ++ rest) := by
  obtain ⟨c, more, hwhole, hc⟩ := d.exists_whole
  cases hnegative : d.negative with
  | false =>
    have htext : d.text ++ rest = c :: (more ++ (d.point ++ (d.ending ++ rest))) := by
      simp [Decimal.text, hnegative, hwhole]
    rw [htext, valueFrom.eq_def]
    simp only
    split <;> simp_all
  | true =>
    have htext : d.text ++ rest = '-' :: c :: (more ++ (d.point ++ (d.ending ++ rest))) := by
      simp [Decimal.text, hnegative, hwhole]
    rw [htext, valueFrom.eq_def]
    simp only
    split <;> simp_all

def Reads (v : Json) : Prop :=
  ∀ level fuel rest, (render level v).toList.length ≤ fuel → (∀ c ∈ rest.head?, goesOn c = false) →
    valueFrom fuel ((render level v).toList ++ rest) = .ok (v, rest)

theorem reads_null : Reads .null := by
  intro level fuel rest hfuel hrest
  cases fuel with
  | zero => simp [render] at hfuel
  | succ fuel => simp [render, valueFrom]

theorem reads_bool (b : Bool) : Reads (.bool b) := by
  intro level fuel rest hfuel hrest
  cases fuel with
  | zero => cases b <;> simp [render] at hfuel
  | succ fuel => cases b <;> simp [render, valueFrom]

theorem reads_number (d : Decimal) (hlength : d.IsInteger → d.whole.length ≤ maxDigits) :
    Reads (.number (.ofList d.text)) := by
  intro level fuel rest hfuel hrest
  rw [render, String.toList_ofList] at hfuel ⊢
  cases fuel with
  | zero =>
    obtain ⟨c, more, hwhole, -⟩ := d.exists_whole
    simp [Decimal.text, hwhole] at hfuel
  | succ fuel => rw [valueFrom_eq_numeral, numeral_text hrest d hlength]

theorem reads_string (s : String) : Reads (.string s) := by
  intro level fuel rest hfuel hrest
  cases fuel with
  | zero => simp [render, quoted, quotedList] at hfuel
  | succ fuel => simp [render, quoted, quotedList, valueFrom, stringFrom_quoted]

section Blocks

theorem skip_following_nil (level : Nat) {closing : Char} (hclosing : isSpace closing = false)
    (rest : List Char) : skip (following level closing [] ++ rest) = closing :: rest := by
  have hend : following level closing [] ++ rest =
      '\n' :: ((margin level).toList ++ (closing :: rest)) := by simp [following]
  rw [hend, skip_margin]
  exact List.dropWhile_cons_of_neg (by simp [hclosing])

theorem skip_following_cons (level : Nat) (closing : Char) (entry : String)
    (entries : List String) (rest : List Char) :
    skip (following level closing (entry :: entries) ++ rest) =
      following level closing (entry :: entries) ++ rest :=
  List.dropWhile_cons_of_neg (by decide)

theorem itemsFrom_entries {items : List Json} {item : Json}
    (hreadable : ∀ v ∈ item :: items, Readable v) (hreads : ∀ v ∈ item :: items, Reads v)
    (hfuel : ((render (level + 1) item).toList ++
      following level ']' (items.map (render (level + 1)))).length ≤ fuel) :
    itemsFrom fuel ((render (level + 1) item).toList ++
      (following level ']' (items.map (render (level + 1))) ++ rest)) =
      .ok (item :: items, rest) := by
  induction items generalizing item fuel with
  | nil =>
    cases fuel with
    | zero => simp [following] at hfuel
    | succ fuel =>
      have hitem := hreads item (.head _) (level + 1) fuel (following level ']' [] ++ rest)
        (by simp [following] at hfuel; omega) (goesOn_following _ _ _ _)
      have hend : skip (following level ']' [] ++ rest) = ']' :: rest :=
        skip_following_nil level (by decide) rest
      rw [List.map_nil, itemsFrom, hitem]
      simp only [bind, Except.bind, hend]
      rfl
  | cons next items ih =>
    cases fuel with
    | zero => simp [following] at hfuel
    | succ fuel =>
      have hitem := hreads item (.head _) (level + 1) fuel
        (following level ']' ((next :: items).map (render (level + 1))) ++ rest)
        (by simp [following] at hfuel; omega) (goesOn_following _ _ _ _)
      have hitems : itemsFrom fuel ((render (level + 1) next).toList ++
          (following level ']' (items.map (render (level + 1))) ++ rest)) =
          .ok (next :: items, rest) :=
        ih (fun v hv => hreadable v (.tail _ hv)) (fun v hv => hreads v (.tail _ hv))
          (by simp [following] at hfuel ⊢; omega)
      have hnext : Readable next := hreadable next (.tail _ (.head _))
      rw [itemsFrom, hitem]
      simp only [bind, Except.bind, List.map_cons, skip_following_cons]
      simp only [following, List.cons_append, List.append_assoc, skip_margin, skip_render hnext,
        hitems]
      rfl

theorem reads_array {items : List Json} (hreadable : ∀ v ∈ items, Readable v)
    (hreads : ∀ v ∈ items, Reads v) : Reads (.array items) := by
  intro level fuel rest hfuel hrest
  cases fuel with
  | zero => simp [render, block] at hfuel; split at hfuel <;> simp at hfuel
  | succ fuel =>
    cases items with
    | nil => simp [render, renderItems, block, valueFrom, skip, isSpace]
    | cons item items =>
      have hblock : (render level (.array (item :: items))).toList = '[' :: '\n' ::
          ((margin (level + 1)).toList ++ ((render (level + 1) item).toList ++
            following level ']' (items.map (render (level + 1))))) := by
        rw [render, renderItems_eq_map, List.map_cons]
        exact toList_block level '[' ']' _ _
      rw [hblock] at hfuel ⊢
      have hitems : itemsFrom fuel ((render (level + 1) item).toList ++
          (following level ']' (items.map (render (level + 1))) ++ rest)) =
          .ok (item :: items, rest) :=
        itemsFrom_entries hreadable hreads (by simp at hfuel ⊢; omega)
      have hhead := head?_render_append (hreadable item (.head _)) (level + 1)
        (following level ']' (items.map (render (level + 1))) ++ rest)
      simp only [List.cons_append, List.append_assoc]
      rw [valueFrom, skip_margin, skip_render (hreadable item (.head _))]
      split
      case h_1 heq =>
        rw [heq] at hhead
        exact absurd rfl (hhead ']' rfl).2.1
      case h_2 =>
        rw [hitems]
        rfl

theorem toList_renderField_append (level : Nat) (p : String × Json) (t : List Char) :
    (renderField level p).toList ++ t =
      '"' :: (p.1.toList.flatMap (stringChar false) ++
        '"' :: ':' :: ' ' :: ((render level p.2).toList ++ t)) := by
  simp [renderField, quoted, quotedList]

theorem skip_colon (t : List Char) : skip (':' :: t) = ':' :: t :=
  List.dropWhile_cons_of_neg (by decide)

theorem skip_blank (t : List Char) : skip (' ' :: t) = skip t :=
  List.dropWhile_cons_of_pos (by decide)

theorem skip_renderField (level : Nat) (p : String × Json) (t : List Char) :
    skip ((renderField level p).toList ++ t) = (renderField level p).toList ++ t := by
  rw [toList_renderField_append]
  exact List.dropWhile_cons_of_neg (by decide)

theorem fieldsFrom_entries {fields : List (String × Json)} {field : String × Json}
    (hreadable : ∀ p ∈ field :: fields, Readable p.2) (hreads : ∀ p ∈ field :: fields, Reads p.2)
    (hfuel : ((renderField (level + 1) field).toList ++
      following level '\x7d' (fields.map (renderField (level + 1)))).length ≤ fuel) :
    fieldsFrom fuel ((renderField (level + 1) field).toList ++
      (following level '\x7d' (fields.map (renderField (level + 1))) ++ rest)) =
      .ok (field :: fields, rest) := by
  induction fields generalizing field fuel with
  | nil =>
    cases fuel with
    | zero => simp [following] at hfuel
    | succ fuel =>
      have hvalue := hreads field (.head _) (level + 1) fuel (following level '\x7d' [] ++ rest)
        (by simp [renderField] at hfuel; omega) (goesOn_following _ _ _ _)
      have hend : skip (following level '\x7d' [] ++ rest) = '\x7d' :: rest :=
        skip_following_nil level (by decide) rest
      rw [toList_renderField_append, fieldsFrom]
      simp only [bind, Except.bind, stringFrom_quoted, skip_colon, skip_blank,
        skip_render (hreadable field (.head _)), List.map_nil, hvalue, hend, String.ofList_toList]
      rfl
  | cons next fields ih =>
    cases fuel with
    | zero => simp [following] at hfuel
    | succ fuel =>
      have hvalue := hreads field (.head _) (level + 1) fuel
        (following level '\x7d' ((next :: fields).map (renderField (level + 1))) ++ rest)
        (by simp [renderField] at hfuel; omega) (goesOn_following _ _ _ _)
      have hfields : fieldsFrom fuel ((renderField (level + 1) next).toList ++
          (following level '\x7d' (fields.map (renderField (level + 1))) ++ rest)) =
          .ok (next :: fields, rest) :=
        ih (fun p hp => hreadable p (.tail _ hp)) (fun p hp => hreads p (.tail _ hp))
          (by simp [following] at hfuel ⊢; omega)
      rw [List.map_cons] at hvalue ⊢
      rw [toList_renderField_append, fieldsFrom]
      simp only [bind, Except.bind, stringFrom_quoted, skip_colon, skip_blank,
        skip_render (hreadable field (.head _)), hvalue, skip_following_cons, String.ofList_toList]
      simp only [following, List.cons_append, List.append_assoc, skip_margin, skip_renderField,
        hfields]
      rfl

theorem reads_object {fields : List (String × Json)} (hreadable : ∀ p ∈ fields, Readable p.2)
    (hreads : ∀ p ∈ fields, Reads p.2) : Reads (.object fields) := by
  intro level fuel rest hfuel hrest
  cases fuel with
  | zero => simp [render, block] at hfuel; split at hfuel <;> simp at hfuel
  | succ fuel =>
    cases fields with
    | nil => simp [render, renderFields, block, valueFrom, skip, isSpace]
    | cons field fields =>
      have hblock : (render level (.object (field :: fields))).toList = '\x7b' :: '\n' ::
          ((margin (level + 1)).toList ++ ((renderField (level + 1) field).toList ++
            following level '\x7d' (fields.map (renderField (level + 1))))) := by
        rw [render, renderFields_eq_map, List.map_cons]
        exact toList_block level '\x7b' '\x7d' _ _
      rw [hblock] at hfuel ⊢
      have hfields : fieldsFrom fuel ((renderField (level + 1) field).toList ++
          (following level '\x7d' (fields.map (renderField (level + 1))) ++ rest)) =
          .ok (field :: fields, rest) :=
        fieldsFrom_entries hreadable hreads (by simp at hfuel ⊢; omega)
      simp only [List.cons_append, List.append_assoc]
      rw [valueFrom, skip_margin, skip_renderField]
      split
      case h_1 heq =>
        rw [toList_renderField_append] at heq
        simp at heq
      case h_2 =>
        rw [hfields]
        rfl

end Blocks

theorem reads_of_readable (hv : Readable v) : Reads v := by
  induction hv with
  | null => exact reads_null
  | bool b => exact reads_bool b
  | number d hlength => exact reads_number d hlength
  | string s => exact reads_string s
  | array hitems ih => exact reads_array hitems ih
  | object hfields ih => exact reads_object hfields ih

theorem ofString_render (hv : Readable v) : ofString (render 0 v ++ "\n") = .ok v := by
  have hread := reads_of_readable hv 0 (2 * ((render 0 v).toList ++ ['\n']).length + 2) ['\n']
    (by simp; omega) (by simp [goesOn])
  have hend : skip ['\n'] = [] := rfl
  have htext : (render 0 v ++ "\n").toList = (render 0 v).toList ++ ['\n'] := by simp
  rw [ofString, htext, ofList]
  · simp only [skip_render hv, bind, Except.bind, hread, hend]
  · intro rest hmark
    have hhead := head?_render_append hv 0 ['\n']
    rw [hmark] at hhead
    exact (hhead '\ufeff' rfl).2.2 rfl

theorem render_inj {w : Json} (hv : Readable v) (hw : Readable w) :
    render 0 v = render 0 w ↔ v = w := by
  constructor
  · intro h
    have hread := ofString_render hv
    rw [h, ofString_render hw] at hread
    exact (Except.ok.inj hread).symm
  · exact congrArg _

end CurlScribe.Json
