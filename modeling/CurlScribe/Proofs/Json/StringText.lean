import CurlScribe.Proofs.Json.Grammar
import CurlScribe.Proofs.Json.Scalar
import CurlScribe.Proofs.Noted

namespace CurlScribe.Json

variable {s rest : List Char}

theorem mem_letters_iff {c : Char} :
    c ∈ ['"', '\\', '/', 'b', 'f', 'n', 'r', 't'] ↔ ∃ d, plainEscape? c = some d := by
  constructor
  · intro h
    simp only [List.mem_cons, List.not_mem_nil, or_false] at h
    rcases h with rfl | rfl | rfl | rfl | rfl | rfl | rfl | rfl <;> exact ⟨_, rfl⟩
  · rintro ⟨d, h⟩
    unfold plainEscape? at h
    split at h <;> simp_all

theorem unit?_eq_some {n : Nat} (h : unit? s = some n) :
    ∃ digits rest, s = digits ++ rest ∧ digits.length = 4 ∧
      ∀ d ∈ digits, Text.isHex d = true := by
  unfold unit? at h
  split at h
  · rename_i a b c d e rest
    split at h
    · rename_i hall
      exact ⟨[a, b, c, d], e :: rest, rfl, rfl, List.all_eq_true.1 hall⟩
    · cases h
  · cases h

theorem exists_unit? {digits : List Char} (hlength : digits.length = 4)
    (hdigits : ∀ d ∈ digits, Text.isHex d = true) (hrest : rest ≠ []) :
    ∃ n, unit? (digits ++ rest) = some n := by
  obtain ⟨e, rest, rfl⟩ := List.exists_cons_of_ne_nil hrest
  match digits, hlength with
  | [a, b, c, d], _ => exact ⟨_, if_pos (List.all_eq_true.2 hdigits)⟩

theorem unitEscapes_eq_ok {c : Char} {taken : Nat} (h : unitEscapes s = .ok (c, taken)) :
    ∃ t rest, s = t ++ rest ∧ t.length = taken ∧
      ∀ more, IsStringText more → IsStringText ('\\' :: 'u' :: (t ++ more)) := by
  unfold unitEscapes at h
  split at h
  · cases h
  rename_i n hn
  obtain ⟨digits, rest, rfl, hlength, hdigits⟩ := unit?_eq_some hn
  have hdrop : (digits ++ rest).drop 4 = rest := by rw [← hlength, List.drop_left]
  have hone {d : Char} (h : Except.ok (ε := Fault) (d, 4) = .ok (c, taken)) :
      ∃ t rest', digits ++ rest = t ++ rest' ∧ t.length = taken ∧
        ∀ more, IsStringText more → IsStringText ('\\' :: 'u' :: (t ++ more)) := by
    obtain ⟨-, rfl⟩ := Prod.mk.inj (Except.ok.inj h)
    exact ⟨digits, rest, rfl, hlength, fun _ => .unit hlength hdigits⟩
  rw [hdrop] at h
  split at h
  · split at h
    · split at h
      · cases h
      rename_i m hm
      split at h
      · obtain ⟨low, rest, rfl, hlow, hdigits'⟩ := unit?_eq_some hm
        obtain ⟨-, rfl⟩ := Prod.mk.inj (Except.ok.inj h)
        refine ⟨digits ++ '\\' :: 'u' :: low, rest, by simp, by simp [hlength, hlow], ?_⟩
        intro more hmore
        simpa using IsStringText.unit hlength hdigits (.unit hlow hdigits' hmore)
      · exact hone h
    · exact hone h
  · exact hone h

section Results

variable {α β γ : Type} {x : Except Fault (α × γ)} {f : α → β} {b : β} {c : γ} {e : Fault}

theorem bind_fst_eq_ok : (x >>= fun | (a, c) => pure (f a, c)) = .ok (b, c) ↔
    ∃ a, x = .ok (a, c) ∧ f a = b := by
  rcases x with e | ⟨a, c⟩ <;> simp [bind, Except.bind, pure, Except.pure, and_comm]

theorem bind_fst_eq_error : (x >>= fun | (a, c) => pure (f a, c)) = .error e ↔ x = .error e := by
  rcases x with e | ⟨a, c⟩ <;> simp [bind, Except.bind, pure, Except.pure]

end Results

theorem stringFrom_eq_ok {skipped : Nat} {value : List Char}
    (h : stringFrom skipped s = .ok (value, rest)) :
    ∃ t, s.drop skipped = t ++ '"' :: rest ∧ IsStringText t := by
  fun_induction stringFrom skipped s generalizing value with
  | case1 | case4 | case6 | case8 => cases h
  | case2 skipped c s ih => exact ih h
  | case3 s =>
    cases h
    exact ⟨[], rfl, .nil⟩
  | case5 s hquote ih =>
    obtain ⟨⟨c, taken⟩, hescape, h⟩ := bind_eq_ok_iff.1 h
    obtain ⟨value, h, -⟩ := bind_fst_eq_ok.1 h
    obtain ⟨t, after, rfl, rfl, ht⟩ := unitEscapes_eq_ok hescape
    obtain ⟨more, hmore, hs⟩ := ih _ h
    rw [List.drop_left] at hmore
    exact ⟨'\\' :: 'u' :: (t ++ more), by simp [hmore], ht more hs⟩
  | case7 d s hd c hc hquote ih =>
    obtain ⟨value, h, -⟩ := bind_fst_eq_ok.1 h
    obtain ⟨t, ht, hs⟩ := ih h
    rw [List.drop_zero] at ht
    exact ⟨'\\' :: d :: t, by simp [ht], .letter (mem_letters_iff.2 ⟨c, hc⟩) hs⟩
  | case9 c s hquote hbackslash hc ih =>
    obtain ⟨value, h, -⟩ := bind_fst_eq_ok.1 h
    obtain ⟨t, ht, hs⟩ := ih h
    rw [List.drop_zero] at ht
    exact ⟨c :: t, by simp [ht], .plain hquote hbackslash (Nat.not_lt.1 hc) hs⟩

theorem IsStringText.exists_unit (hs : IsStringText s) {more : List Char}
    (h : s ++ '"' :: rest = '\\' :: 'u' :: more) :
    ∃ digits t, s = '\\' :: 'u' :: (digits ++ t) ∧ digits.length = 4 ∧
      (∀ d ∈ digits, Text.isHex d = true) ∧ IsStringText t := by
  cases hs with
  | nil => simp at h
  | plain _ hbackslash _ _ => exact absurd (List.cons.inj h).1 hbackslash
  | @letter c t hc _ =>
    obtain rfl : c = 'u' := (List.cons.inj (List.cons.inj h).2).1
    simp at hc
  | unit hlength hdigits ht => exact ⟨_, _, rfl, hlength, hdigits, ht⟩

theorem exists_unitEscapes {digits : List Char} (hlength : digits.length = 4)
    (hdigits : ∀ d ∈ digits, Text.isHex d = true) (hs : IsStringText s) (rest : List Char) :
    (∃ c, unitEscapes (digits ++ (s ++ '"' :: rest)) = .ok (c, 4)) ∨
    ∃ c low t, s = '\\' :: 'u' :: (low ++ t) ∧ low.length = 4 ∧ IsStringText t ∧
      unitEscapes (digits ++ (s ++ '"' :: rest)) = .ok (c, 10) := by
  obtain ⟨n, hn⟩ := exists_unit? hlength hdigits (by simp : s ++ '"' :: rest ≠ [])
  have hdrop : (digits ++ (s ++ '"' :: rest)).drop 4 = s ++ '"' :: rest := by
    rw [← hlength, List.drop_left]
  simp only [unitEscapes, hn, hdrop]
  split
  · rename_i more hmore
    obtain ⟨low, t, rfl, hlow, hdigits', ht⟩ := hs.exists_unit hmore
    obtain ⟨m, hm⟩ := exists_unit? hlow hdigits' (by simp : t ++ '"' :: rest ≠ [])
    obtain rfl : low ++ (t ++ '"' :: rest) = more := by simpa using hmore
    simp only [hm]
    split_ifs
    · exact .inr ⟨_, low, t, rfl, hlow, ht, rfl⟩
    · exact .inl ⟨_, rfl⟩
    · exact .inl ⟨_, rfl⟩
  · exact .inl ⟨_, rfl⟩

theorem exists_stringFrom (hs : IsStringText s) (rest : List Char) :
    ∃ value, stringFrom 0 (s ++ '"' :: rest) = .ok (value, rest) := by
  -- By length, as two escapes of code units may be read at once.
  induction h : s.length using Nat.strongRecOn generalizing s with
  | ind n ih =>
    subst h
    cases hs with
    | nil => exact ⟨[], stringFrom_quoted [] rest⟩
    | plain hquote hbackslash hc hs =>
      obtain ⟨value, hread⟩ := ih _ (by simp) hs rfl
      exact ⟨_, stringFrom_plain hread hquote hbackslash hc⟩
    | @letter c s hc hs =>
      obtain ⟨value, hread⟩ := ih _ (by simp only [List.length_cons]; omega) hs rfl
      obtain ⟨d, hd⟩ := mem_letters_iff.1 hc
      have hu : c ≠ 'u' := by
        rintro rfl
        cases hd
      exact ⟨_, stringFrom_escape hread hu hd⟩
    | @unit digits s hlength hdigits hs =>
      rw [List.cons_append, List.cons_append, List.append_assoc, stringFrom, if_neg (by decide),
        if_pos rfl]
      simp only [if_true]
      rcases exists_unitEscapes hlength hdigits hs rest with
        ⟨c, hescape⟩ | ⟨c, low, t, rfl, hlow, ht, hescape⟩
      · obtain ⟨value, hread⟩ :=
          ih _ (by simp only [List.length_cons, List.length_append]; omega) hs rfl
        have hskip := stringFrom_skip digits (s ++ '"' :: rest)
        rw [hlength, hread] at hskip
        exact ⟨c :: value, by simp [hescape, bind, Except.bind, hskip, pure, Except.pure]⟩
      · obtain ⟨value, hread⟩ :=
          ih _ (by simp only [List.length_cons, List.length_append]; omega) ht rfl
        have hskip := stringFrom_skip (digits ++ '\\' :: 'u' :: low) (t ++ '"' :: rest)
        have htaken : (digits ++ '\\' :: 'u' :: low).length = 10 := by simp [hlength, hlow]
        rw [htaken, hread] at hskip
        simp only [List.append_assoc, List.cons_append] at hskip hescape
        exact ⟨c :: value, by simp [hescape, bind, Except.bind, hskip, pure, Except.pure]⟩

def Fault.IsLong (f : Fault) : Prop := ∃ digits, f.cause = .longInteger digits

theorem not_isLong_unitEscapes {f : Fault} (h : unitEscapes s = .error f) : ¬ f.IsLong := by
  rintro ⟨digits, hlong⟩
  unfold unitEscapes at h
  split at h
  · cases h
    cases hlong
  split at h
  · split at h
    · split at h
      · cases h
        cases hlong
      · split at h <;> cases h
    · cases h
  · cases h

theorem not_isLong_stringFrom {skipped : Nat} {f : Fault} (h : stringFrom skipped s = .error f) :
    ¬ f.IsLong := by
  fun_induction stringFrom skipped s with
  | case1 | case4 | case6 | case8 =>
    cases h
    rintro ⟨digits, hlong⟩
    cases hlong
  | case2 skipped c s ih => exact ih h
  | case3 => cases h
  | case5 s hquote ih =>
    rcases bind_eq_error_iff.1 h with h | ⟨⟨c, taken⟩, -, h⟩
    · exact not_isLong_unitEscapes h
    · exact ih _ (bind_fst_eq_error.1 h)
  | case7 d s hd c hc hquote ih => exact ih (bind_fst_eq_error.1 h)
  | case9 c s hquote hbackslash hc ih => exact ih (bind_fst_eq_error.1 h)

end CurlScribe.Json
