import CurlScribe.Text.ControlSequence
import Mathlib

namespace CurlScribe.Text.ControlSequence

variable {s rest t : List Char} {n : Nat}

inductive IsSequence : List Char → Prop
  | mk {parameters intermediates : List Char} {final : Char}
      (hparameters : ∀ c ∈ parameters, isParameter c = true)
      (hintermediates : ∀ c ∈ intermediates, isIntermediate c = true)
      (hfinal : isFinal final = true) :
      IsSequence ('\x1b' :: '[' :: (parameters ++ intermediates ++ [final]))

theorem isParameter_iff {c : Char} : isParameter c = true ↔ 0x30 ≤ c.toNat ∧ c.toNat ≤ 0x3f := by
  simp only [isParameter, Bool.and_eq_true, decide_eq_true_eq]
  exact Iff.rfl

theorem isIntermediate_iff {c : Char} :
    isIntermediate c = true ↔ 0x20 ≤ c.toNat ∧ c.toNat ≤ 0x2f := by
  simp only [isIntermediate, Bool.and_eq_true, decide_eq_true_eq]
  exact Iff.rfl

theorem isFinal_iff {c : Char} : isFinal c = true ↔ 0x40 ≤ c.toNat ∧ c.toNat ≤ 0x7e := by
  simp only [isFinal, Bool.and_eq_true, decide_eq_true_eq]
  exact Iff.rfl

theorem span_run {p : Char → Bool} {run behind : List Char} (hrun : ∀ c ∈ run, p c = true)
    (hbehind : ∀ c ∈ behind.head?, p c = false) :
    (run ++ behind).takeWhile p = run ∧ (run ++ behind).dropWhile p = behind := by
  rw [List.takeWhile_append_of_pos hrun, List.dropWhile_append_of_pos hrun]
  cases behind with
  | nil => simp
  | cons c behind =>
    have hstop : ¬ p c = true := by simpa using hbehind
    rw [List.takeWhile_cons_of_neg hstop, List.dropWhile_cons_of_neg hstop, List.append_nil]
    exact ⟨rfl, rfl⟩

theorem length?_sequence {parameters intermediates : List Char} {final : Char}
    (hparameters : ∀ c ∈ parameters, isParameter c = true)
    (hintermediates : ∀ c ∈ intermediates, isIntermediate c = true)
    (hfinal : isFinal final = true) (rest : List Char) :
    length? ('[' :: (parameters ++ intermediates ++ [final]) ++ rest) =
      some (parameters.length + intermediates.length + 2) := by
  -- The three kinds of characters are apart.
  have hnext : ∀ c ∈ (intermediates ++ final :: rest).head?, isParameter c = false := by
    intro c hc
    have hkind : isIntermediate c = true ∨ isFinal c = true := by
      cases intermediates with
      | nil => exact .inr (Option.some.inj hc ▸ hfinal)
      | cons d intermediates =>
        exact .inl (Option.some.inj hc ▸ hintermediates d List.mem_cons_self)
    rw [isIntermediate_iff, isFinal_iff] at hkind
    rw [Bool.eq_false_iff, ne_eq, isParameter_iff]
    omega
  have hlast : ∀ c ∈ (final :: rest).head?, isIntermediate c = false := by
    intro c hc
    have hkind := isFinal_iff.1 (Option.some.inj hc ▸ hfinal)
    rw [Bool.eq_false_iff, ne_eq, isIntermediate_iff]
    omega
  obtain ⟨htake, hdrop⟩ := span_run hparameters hnext
  obtain ⟨htake', hdrop'⟩ := span_run hintermediates hlast
  simp [length?, htake, hdrop, htake', hdrop', hfinal]

theorem exists_sequence (h : length? s = some n) : ∃ t, IsSequence ('\x1b' :: t) ∧ t <+: s := by
  unfold length? at h
  split at h
  · rename_i rest
    dsimp only at h
    have hparameters : ∀ c ∈ rest.takeWhile isParameter, isParameter c = true :=
      fun c hc => List.mem_takeWhile_imp hc
    have hintermediates :
        ∀ c ∈ (rest.dropWhile isParameter).takeWhile isIntermediate, isIntermediate c = true :=
      fun c hc => List.mem_takeWhile_imp hc
    split at h
    · rename_i final behind hbehind
      split at h
      · rename_i hfinal
        refine ⟨_, .mk hparameters hintermediates hfinal, ?_⟩
        refine (List.prefix_cons_inj _).2 ⟨behind, ?_⟩
        rw [List.append_assoc, List.append_assoc, List.singleton_append, ← hbehind,
          List.takeWhile_append_dropWhile, List.takeWhile_append_dropWhile]
      · cases h
    · cases h
  · cases h

theorem exists_sequence_iff {c : Char} :
    (∃ t, IsSequence t ∧ t <+: c :: s) ↔ c = '\x1b' ∧ ∃ n, length? s = some n := by
  constructor
  · rintro ⟨t, ⟨hparameters, hintermediates, hfinal⟩, rest, hrest⟩
    obtain ⟨rfl, rfl⟩ := List.cons.inj hrest
    exact ⟨rfl, _, length?_sequence hparameters hintermediates hfinal rest⟩
  · rintro ⟨rfl, n, hn⟩
    obtain ⟨t, ht, hprefix⟩ := exists_sequence hn
    exact ⟨'\x1b' :: t, ht, (List.prefix_cons_inj _).2 hprefix⟩

theorem removeFrom_sublist (n : Nat) (s : List Char) : (removeFrom n s).Sublist s := by
  fun_induction removeFrom n s with
  | case1 => exact List.nil_sublist _
  | case2 n c rest ih => exact ih.cons c
  | case3 c rest n h ih => exact ih.cons c
  | case4 c rest h ih => exact ih.cons_cons c

theorem removeFrom_eq_self : removeFrom 0 s = s ↔ ∀ t, IsSequence t → ¬ t <:+: s := by
  induction s with
  | nil =>
    refine ⟨fun _ t ht hinfix => ?_, fun _ => rfl⟩
    obtain ⟨⟩ := List.eq_nil_of_infix_nil hinfix ▸ ht
  | cons c s ih =>
    have hsplit : (∀ t, IsSequence t → ¬ t <:+: c :: s) ↔
        (¬ ∃ t, IsSequence t ∧ t <+: c :: s) ∧ ∀ t, IsSequence t → ¬ t <:+: s := by
      simp only [List.infix_cons_iff, not_or, not_exists, not_and]
      exact forall₂_and
    rw [hsplit, exists_sequence_iff, ← ih, removeFrom]
    split
    · rename_i n hn
      have hstarts : c = '\x1b' ∧ ∃ n, length? s = some n := by
        split at hn
        · rename_i hc
          exact ⟨hc, n, hn⟩
        · cases hn
      refine ⟨fun heq => ?_, fun h => absurd hstarts h.1⟩
      have hlength := (removeFrom_sublist n s).length_le
      rw [heq] at hlength
      simp at hlength
    · rename_i hn
      have hstarts : ¬ (c = '\x1b' ∧ ∃ n, length? s = some n) := by
        rintro ⟨hc, n, hlength⟩
        rw [if_pos hc, hlength] at hn
        cases hn
      simp [hstarts]

theorem remove_eq_self_iff {s : String} :
    remove s = s ↔ ∀ t, IsSequence t → ¬ t <:+: s.toList := by
  rw [← removeFrom_eq_self, ← String.toList_inj, remove, String.toList_ofList]

theorem remove_append {p : String} (h : '\x1b' ∉ p.toList) (s : String) :
    remove (p ++ s) = p ++ remove s := by
  have hfrom (p : List Char) (h : '\x1b' ∉ p) (s : List Char) :
      removeFrom 0 (p ++ s) = p ++ removeFrom 0 s := by
    induction p with
    | nil => rfl
    | cons c p ih =>
      have hc : c ≠ '\x1b' := fun heq => h (heq ▸ List.mem_cons_self)
      rw [List.cons_append, removeFrom, if_neg hc, ih (mt (List.mem_cons_of_mem c) h),
        List.cons_append]
  rw [← String.toList_inj, remove, String.toList_ofList, String.toList_append, hfrom _ h,
    String.toList_append, remove, String.toList_ofList]

theorem remove_eq_self {s : String} (h : '\x1b' ∉ s.toList) : remove s = s := by
  have happend := remove_append h ""
  rwa [String.append_empty, show remove "" = "" from rfl, String.append_empty] at happend

theorem removeFrom_drop (n : Nat) (s : List Char) : removeFrom n s = removeFrom 0 (s.drop n) := by
  induction n generalizing s with
  | zero => rfl
  | succ n ih =>
    cases s with
    | nil => rfl
    | cons c s => exact ih s

theorem remove_sequence_append (h : IsSequence t) (s : String) :
    remove (.ofList t ++ s) = remove s := by
  obtain ⟨hparameters, hintermediates, hfinal⟩ := h
  rename_i parameters intermediates final
  have hlength := length?_sequence hparameters hintermediates hfinal s.toList
  have hdrop : ('[' :: (parameters ++ intermediates ++ [final]) ++ s.toList).drop
      (parameters.length + intermediates.length + 2) = s.toList :=
    List.drop_left' (by simp; omega)
  rw [← String.toList_inj, remove, String.toList_append, String.toList_ofList,
    String.toList_ofList, List.cons_append, removeFrom, if_pos rfl, hlength]
  change removeFrom _ _ = _
  rw [removeFrom_drop, hdrop, remove, String.toList_ofList]

theorem mem_of_mem_remove {c : Char} {s : String} (h : c ∈ (remove s).toList) : c ∈ s.toList := by
  rw [remove, String.toList_ofList] at h
  exact (removeFrom_sublist 0 _).subset h

end CurlScribe.Text.ControlSequence
