import CurlScribe.Proofs.Json.Derived
import CurlScribe.Target.Check

namespace CurlScribe.Json

open Numeral

variable {s : List Char} {f : Fault}

/-- Whether the reader comes to an integer that is too long: what stands before it goes on with a
value. -/
def ComesToLong (s : List Char) : Prop :=
  ∃ b pre rest, IsBlank b ∧ Opens .value pre ∧ StartsLong rest ∧ s = b ++ (pre ++ rest)

section Texts

theorem ofList_eq (h : ∀ t, s ≠ '\ufeff' :: t) : ofList s =
    (valueFrom (2 * s.length + 2) (skip s) >>= fun (value, after) =>
      match skip after with
      | [] => .ok value
      | rest => fail .extra rest) := by
  unfold ofList
  split
  · exact absurd rfl (h _)
  · rfl

theorem ne_mark {b t : List Char} (hb : IsBlank b) (ht : Begins t) (mark : List Char) :
    b ++ t ≠ '\ufeff' :: mark := by
  intro h
  cases b with
  | nil =>
    obtain ⟨c, s, rfl, hstart⟩ := ht
    exact (mayStart_iff.1 hstart).2.2 (List.cons.inj h).1
  | cons c b =>
    have hspace := hb c (.head _)
    rw [(List.cons.inj h).1] at hspace
    cases hspace

theorem isText_of_ofList {v : Json} (h : ofList s = .ok v) : IsText s := by
  by_cases hmark : ∃ t, s = '\ufeff' :: t
  · obtain ⟨t, rfl⟩ := hmark
    cases h
  rw [ofList_eq (not_exists.1 hmark)] at h
  obtain ⟨⟨value, after⟩, hvalue, hafter⟩ := bind_eq_ok_iff.1 h
  obtain ⟨t, ht, hderives⟩ := readsDerived _ (r := .value) (map_snd_eq_ok.2 ⟨value, hvalue⟩)
  obtain ⟨b, hb, hs⟩ := exists_blank s
  obtain ⟨b', hb', hrest⟩ := exists_blank after
  have hend : skip after = [] := by
    simp only at hafter
    split at hafter
    · assumption
    · cases hafter
  rw [hend, List.append_nil] at hrest
  exact ⟨b, t, b', hb, hderives, hb', by rw [hs, ht, hrest]; rfl⟩

theorem comesToLong_of_ofList {digits : Nat} (h : ofList s = .error f)
    (hf : f.cause = .longInteger digits) : maxDigits < digits ∧ ComesToLong s := by
  by_cases hmark : ∃ t, s = '\ufeff' :: t
  · obtain ⟨t, rfl⟩ := hmark
    cases h
    cases hf
  rw [ofList_eq (not_exists.1 hmark)] at h
  rcases bind_eq_error_iff.1 h with hvalue | ⟨⟨value, after⟩, -, hafter⟩
  · obtain ⟨hdigits, pre, hpre, hopens, hlong⟩ :=
      stopsAtLong _ (r := .value) (map_snd_eq_error.2 hvalue) hf
    obtain ⟨b, hb, hs⟩ := exists_blank s
    exact ⟨hdigits, b, pre, f.rest, hb, hopens, hlong, by rw [hs, hpre]⟩
  · simp only at hafter
    split at hafter
    · cases hafter
    · cases hafter
      cases hf

theorem IsText.ofList (h : IsText s) :
    (∃ v, ofList s = .ok v) ∨ ∃ f, ofList s = .error f ∧ f.IsLong := by
  obtain ⟨b, v, b', hb, hv, hb', rfl⟩ := h
  have hbegins : Begins (v ++ b') := hv.begins.append b'
  rw [ofList_eq (ne_mark hb hbegins), skip_append hb, hbegins.skip_eq]
  have htakes : Takes .value (2 * (b ++ (v ++ b')).length + 2) v :=
    hv.takes (by simp [Rule.closing]; omega)
  have hgoes : ∀ c ∈ b'.head?, goesOn c = false := by
    simpa using goesOn_blank (s := []) hb' (by simp)
  have hend : skip b' = [] := by
    rw [← List.append_nil b', skip_append hb']
    rfl
  rcases htakes b' fun _ => hgoes with hread | ⟨f, hread, hf⟩
  · obtain ⟨value, hvalue⟩ := map_snd_eq_ok.1 hread
    exact .inl ⟨value, bind_eq_ok_iff.2 ⟨(value, b'), hvalue, by simp only [hend]⟩⟩
  · exact .inr ⟨f, bind_eq_error_iff.2 (.inl (map_snd_eq_error.1 hread)), hf⟩

theorem ComesToLong.ofList (h : ComesToLong s) : ∃ f, ofList s = .error f ∧ f.IsLong := by
  obtain ⟨b, pre, rest, hb, hopens, hlong, rfl⟩ := h
  have hbegins : Begins (pre ++ rest) := hopens.begins hlong.begins
  rw [ofList_eq (ne_mark hb hbegins), skip_append hb, hbegins.skip_eq]
  obtain ⟨f, hread, hf⟩ : GivesUp (Rule.value.read (2 * (b ++ (pre ++ rest)).length + 2) _) :=
    hopens.givesUp hlong (by simp [Rule.closing]; omega)
  exact ⟨f, bind_eq_error_iff.2 (.inl (map_snd_eq_error.1 hread)), hf⟩

end Texts

section Answers

variable {code : String}

def IsMessage (message : String) : Prop := ∃ rest, message = "JSONDecodeError: " ++ rest

theorem check_of_ok {v : Json} (h : ofList code.toList = .ok v) : check code = .ok none := by
  rw [check, ofString, h]

theorem check_of_long (h : ofList code.toList = .error f) {digits : Nat}
    (hf : f.cause = .longInteger digits) : check code = .error (tooLong digits) := by
  simp only [check, ofString, h, hf]

theorem check_of_fault (h : ofList code.toList = .error f) (hf : ¬ f.IsLong) :
    ∃ message, check code = .ok (some message) ∧ IsMessage message := by
  simp only [check, ofString, h]
  split
  · exact absurd ⟨_, ‹_›⟩ hf
  · exact ⟨_, rfl, _, by simp only [String.append_assoc]; rfl⟩

theorem check_cases (code : String) :
    (IsText code.toList ∧ ¬ ComesToLong code.toList ∧ check code = .ok none) ∨
    (¬ IsText code.toList ∧ ¬ ComesToLong code.toList ∧
      ∃ message, check code = .ok (some message) ∧ IsMessage message) ∨
    (ComesToLong code.toList ∧
      ∃ digits, maxDigits < digits ∧ check code = .error (tooLong digits)) := by
  cases h : ofList code.toList with
  | ok v =>
    refine .inl ⟨isText_of_ofList h, fun hlong => ?_, check_of_ok h⟩
    obtain ⟨f, hread, -⟩ := hlong.ofList
    rw [h] at hread
    cases hread
  | error f =>
    by_cases hf : f.IsLong
    · obtain ⟨digits, hf⟩ := hf
      obtain ⟨hdigits, hlong⟩ := comesToLong_of_ofList h hf
      exact .inr (.inr ⟨hlong, digits, hdigits, check_of_long h hf⟩)
    · have hfault {f' : Fault} (hread : ofList code.toList = .error f') : ¬ f'.IsLong := by
        rw [h] at hread
        exact Except.error.inj hread ▸ hf
      refine .inr (.inl ⟨fun htext => ?_, fun hlong => ?_, check_of_fault h hf⟩)
      · rcases htext.ofList with ⟨v, hread⟩ | ⟨f', hread, hf'⟩
        · rw [h] at hread
          cases hread
        · exact hfault hread hf'
      · obtain ⟨f', hread, hf'⟩ := hlong.ofList
        exact hfault hread hf'

end Answers

end CurlScribe.Json

namespace CurlScribe.Target

open Json Numeral

theorem check_json_key (python yaml : Check) (code : String) :
    check python yaml Target.json.key code = Json.check code :=
  congrFun (if_pos rfl) code

/-- The check of JSON finds a fault in exactly the texts that the grammar does not derive, unless it
comes to an integer that is too long: then it fails, whether or not the text is one of the
grammar. -/
theorem check_json (python yaml : Check) (code : String) :
    (check python yaml Target.json.key code = .ok none ↔
      IsText code.toList ∧ ¬ ComesToLong code.toList) ∧
    ((∃ message, check python yaml Target.json.key code = .ok (some message) ∧ IsMessage message) ↔
      ¬ IsText code.toList ∧ ¬ ComesToLong code.toList) ∧
    ((∃ digits, maxDigits < digits ∧
        check python yaml Target.json.key code = .error (tooLong digits)) ↔
      ComesToLong code.toList) := by
  rw [check_json_key]
  rcases check_cases code with ⟨htext, hlong, h⟩ | ⟨htext, hlong, message, h, hmessage⟩ |
    ⟨hlong, digits, hdigits, h⟩
  · simp [h, htext, hlong]
  · simp [h, htext, hlong, hmessage]
  · simpa [h, hlong] using ⟨digits, hdigits, rfl⟩

theorem check_replicate_one {n : Nat} (h : maxDigits < n) :
    IsText (List.replicate n '1') ∧
      ∃ digits, Json.check (.ofList (List.replicate n '1')) = .error (tooLong digits) := by
  have hwhole : IsWhole (List.replicate n '1') := by
    obtain ⟨m, rfl⟩ := Nat.exists_eq_add_one.2 (Nat.zero_lt_of_lt h)
    refine .digits (by decide) fun c hc => ?_
    rw [← List.replicate_succ] at hc
    rw [List.eq_of_mem_replicate hc]
    rfl
  have hnumber := IsNumber.mk (.inl rfl) hwhole .none .none
  have hends (t : List Char) : t <+: [] → t = [] := List.prefix_nil.1
  have hlong : StartsLong ([] ++ (List.replicate n '1' ++ [])) :=
    .mk (.inl rfl) hwhole (by simpa using h) (by simp) (fun t _ => hends t) fun t _ => hends t
  refine ⟨⟨[], _, [], by simp [IsBlank], .number hnumber, by simp [IsBlank], by simp⟩, ?_⟩
  obtain ⟨f, hread, digits, hf⟩ :=
    ComesToLong.ofList ⟨[], [], _, by simp [IsBlank], .here, hlong, rfl⟩
  exact ⟨digits, check_of_long (by simpa using hread) hf⟩

theorem check_json_ones :
    IsText (List.replicate 4301 '1') ∧
      ∃ digits, check (fun _ => .ok none) (fun _ => .ok none) Target.json.key
        (.ofList (List.replicate 4301 '1')) = .error (tooLong digits) := by
  rw [check_json_key]
  exact check_replicate_one (by decide)

end CurlScribe.Target
