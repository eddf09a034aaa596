import CurlScribe.Proofs.Json.Rendered
import CurlScribe.Proofs.Json.StringText

namespace CurlScribe.Json

open Numeral

variable {s t rest sign whole : List Char} {f : Fault}

/-- Whether a text starts with an integer that is longer than integers may be. No number goes on
behind it. -/
inductive StartsLong : List Char → Prop
  | mk {sign whole rest : List Char} (hsign : IsMinus sign) (hwhole : IsWhole whole)
      (hlength : maxDigits < whole.length) (hdigit : ∀ c ∈ rest.head?, c.isDigit = false)
      (hfrac : ∀ t, IsFraction t → t <+: rest → t = [])
      (hexp : ∀ t, IsExponent t → t <+: rest → t = []) : StartsLong (sign ++ (whole ++ rest))

def GivesUp (x : Except Fault (List Char)) : Prop := ∃ f, x = .error f ∧ f.IsLong

def LeadsTo (x y : Except Fault (List Char)) : Prop := x = y ∨ GivesUp x

section Digits

theorem IsWhole.exists_cons (h : IsWhole s) : ∃ d ds, s = d :: ds ∧ d.isDigit = true := by
  cases h with
  | zero => exact ⟨_, _, rfl, rfl⟩
  | digits _ hds => exact ⟨_, _, rfl, hds _ (.head _)⟩

theorem ne_minus_of_isDigit {c : Char} (h : c.isDigit = true) : c ≠ '-' := by
  rintro rfl
  simp at h

theorem digits_eq {ds : List Char} (h : digits s = (ds, rest)) :
    s = ds ++ rest ∧ (∀ c ∈ ds, c.isDigit = true) ∧ ∀ c ∈ rest.head?, c.isDigit = false := by
  obtain ⟨rfl, rfl⟩ := Prod.mk.inj h
  refine ⟨(List.takeWhile_append_dropWhile ..).symm, fun _ hc => List.mem_takeWhile_imp hc, ?_⟩
  intro c hc
  have hhead := List.head?_dropWhile_not (·.isDigit) s
  rw [Option.mem_def] at hc
  simpa [hc] using hhead

theorem digits_ne_nil {ds : List Char} (hne : ds ≠ []) (hds : ∀ c ∈ ds, c.isDigit = true)
    (hstarts : ds <+: s) : (digits s).1 ≠ [] := by
  obtain ⟨c, ds, rfl⟩ := List.exists_cons_of_ne_nil hne
  obtain ⟨after, rfl⟩ := hstarts
  simp [digits, hds c (.head _)]

theorem integerPart?_eq_some (h : integerPart? s = some (whole, rest)) :
    s = whole ++ rest ∧ IsWhole whole ∧
      (1 < whole.length → ∀ c ∈ rest.head?, c.isDigit = false) := by
  unfold integerPart? at h
  split at h
  · cases h
    exact ⟨rfl, .zero, fun h => by simp at h⟩
  rename_i hzero
  split at h
  · cases h
  rename_i hne
  obtain ⟨rfl, hds, hrest⟩ := digits_eq (Option.some.inj h)
  rw [Option.some.inj h] at hne
  obtain ⟨d, ds, rfl⟩ := List.exists_cons_of_ne_nil hne
  refine ⟨rfl, .digits ?_ hds, fun _ => hrest⟩
  rintro rfl
  exact hzero _ rfl

theorem integerPart?_append (h : IsWhole whole) (hrest : ∀ c ∈ rest.head?, c.isDigit = false) :
    integerPart? (whole ++ rest) = some (whole, rest) := by
  cases h with
  | zero => rfl
  | @digits d ds hd hds =>
    have hdigits := digits_append hds hrest
    unfold integerPart?
    split
    · rename_i heq
      exact absurd (List.cons.inj heq).1 hd
    · rw [hdigits, if_neg (List.cons_ne_nil _ _)]

end Digits

section Fraction

theorem fraction_eq (s : List Char) : s = (fraction s).1 ++ (fraction s).2 ∧
    IsFraction (fraction s).1 := by
  unfold fraction
  split
  · rename_i after
    cases hdigits : digits after with
    | mk ds rest =>
      obtain ⟨rfl, hds, -⟩ := digits_eq hdigits
      by_cases hne : ds = []
      · simp only [if_pos hne]
        exact ⟨rfl, .none⟩
      · simp only [if_neg hne]
        exact ⟨rfl, .digits hne hds⟩
  · exact ⟨rfl, .none⟩

theorem fraction_snd (h : (fraction s).1 = []) : (fraction s).2 = s := by
  have hs := (fraction_eq s).1
  rw [h, List.nil_append] at hs
  exact hs.symm

theorem fraction_fst_eq_nil : (fraction s).1 = [] ↔ ∀ t, IsFraction t → t <+: s → t = [] := by
  constructor
  · intro h t ht hstarts
    cases ht with
    | none => rfl
    | digits hne hds =>
      obtain ⟨after, rfl⟩ := hstarts
      rw [List.cons_append, fraction] at h
      have hdigits := digits_ne_nil hne hds (List.prefix_append _ after)
      simp [hdigits] at h
  · intro h
    obtain ⟨hs, hfrac⟩ := fraction_eq s
    exact h _ hfrac ⟨_, hs.symm⟩

theorem fraction_append {frac : List Char} (h : IsFraction frac)
    (hrest : ∀ c ∈ rest.head?, c.isDigit = false ∧ c ≠ '.') :
    fraction (frac ++ rest) = (frac, rest) := by
  cases h with
  | none =>
    rw [List.nil_append]
    unfold fraction
    split
    · exact absurd rfl (hrest '.' rfl).2
    · rfl
  | digits hne hds =>
    have hdigits := digits_append hds fun c hc => (hrest c hc).1
    rw [List.cons_append, fraction, hdigits]
    simp [hne]

end Fraction

section Exponent

theorem take_sign {ds : List Char} (hsign : sign = [] ∨ sign = ['+'] ∨ sign = ['-'])
    (hne : ds ≠ []) (hds : ∀ c ∈ ds, c.isDigit = true) (rest : List Char) :
    ((sign ++ (ds ++ rest)).take 1).filter isSign = sign := by
  obtain ⟨c, ds, rfl⟩ := List.exists_cons_of_ne_nil hne
  have hc : isSign c = false := by
    have hdigit := hds c (.head _)
    by_contra h
    simp only [isSign, Bool.not_eq_false, Bool.or_eq_true, decide_eq_true_eq] at h
    rcases h with rfl | rfl <;> simp at hdigit
  rcases hsign with rfl | rfl | rfl
  · simp [hc]
  · rfl
  · rfl

theorem sign_of_take (s : List Char) : ∃ sign t, s = sign ++ t ∧
    (s.take 1).filter isSign = sign ∧ (sign = [] ∨ sign = ['+'] ∨ sign = ['-']) := by
  cases s with
  | nil => exact ⟨[], [], rfl, rfl, .inl rfl⟩
  | cons c s =>
    by_cases hc : isSign c = true
    · refine ⟨[c], s, rfl, by simp [hc], ?_⟩
      simpa [isSign] using hc
    · exact ⟨[], c :: s, rfl, by simp [hc], .inl rfl⟩

theorem exponent_cons {e : Char} {ds : List Char} (he : e = 'e' ∨ e = 'E')
    (hsign : (s.take 1).filter isSign = sign) (hdigits : digits (s.drop sign.length) = (ds, rest)) :
    exponent (e :: s) = if ds = [] then ([], e :: s) else (e :: (sign ++ ds), rest) := by
  have he : (decide (e = 'e') || decide (e = 'E')) = true := by simpa using he
  simp only [exponent, he, if_true, hsign, hdigits, List.cons_append]

theorem exponent_of_ne (h : ∀ e ∈ s.head?, e ≠ 'e' ∧ e ≠ 'E') : exponent s = ([], s) := by
  cases s with
  | nil => rfl
  | cons e s => simp [exponent, h e rfl]

theorem exponent_eq (s : List Char) : s = (exponent s).1 ++ (exponent s).2 ∧
    IsExponent (exponent s).1 := by
  by_cases h : ∃ e t, s = e :: t ∧ (e = 'e' ∨ e = 'E')
  · obtain ⟨e, t, rfl, he⟩ := h
    obtain ⟨sign, t, rfl, hsign, hkind⟩ := sign_of_take t
    cases hdigits : digits t with
    | mk ds rest =>
      obtain ⟨rfl, hds, -⟩ := digits_eq hdigits
      have hdrop : digits ((sign ++ (ds ++ rest)).drop sign.length) = (ds, rest) := by
        rwa [List.drop_left]
      rw [exponent_cons he hsign hdrop]
      split_ifs with hne
      · exact ⟨rfl, .none⟩
      · exact ⟨by simp, .digits he hkind hne hds⟩
  · rw [exponent_of_ne]
    · exact ⟨rfl, .none⟩
    · cases s with
      | nil => simp
      | cons e t => simpa using h

theorem exponent_fst_eq_nil : (exponent s).1 = [] ↔ ∀ t, IsExponent t → t <+: s → t = [] := by
  constructor
  · intro h t ht hstarts
    cases ht with
    | none => rfl
    | @digits e sign ds he hkind hne hds =>
      obtain ⟨after, rfl⟩ := hstarts
      have hsign := take_sign hkind hne hds after
      have hdigits := digits_ne_nil hne hds (List.prefix_append _ after)
      rw [List.cons_append, List.append_assoc,
        exponent_cons he hsign (by rw [List.drop_left])] at h
      simp [hdigits] at h
  · intro h
    obtain ⟨hs, hexp⟩ := exponent_eq s
    exact h _ hexp ⟨_, hs.symm⟩

theorem exponent_append {exp : List Char} (h : IsExponent exp)
    (hrest : ∀ c ∈ rest.head?, goesOn c = false) : exponent (exp ++ rest) = (exp, rest) := by
  cases h with
  | none =>
    refine exponent_of_ne fun e he => ?_
    have hgoes := hrest e he
    simp only [goesOn, Bool.or_eq_false_iff, decide_eq_false_iff_not] at hgoes
    exact ⟨hgoes.1.2, hgoes.2⟩
  | @digits e sign ds he hkind hne hds =>
    have hdigit : ∀ c ∈ rest.head?, c.isDigit = false := fun c hc => by
      have hgoes := hrest c hc
      simp_all [goesOn]
    rw [List.cons_append, List.append_assoc, exponent_cons he (take_sign hkind hne hds rest)
      (by rw [List.drop_left, digits_append hds hdigit]), if_neg hne]

end Exponent

section Whole

theorem numeral_append (hsign : IsMinus sign) (ht : sign = [] → ∀ c ∈ t.head?, c ≠ '-') :
    numeral (sign ++ t) =
      match integerPart? t with
      | none => fail .value (sign ++ t)
      | some (whole, rest) =>
        let (frac, rest) := fraction rest
        let (exp, rest) := exponent rest
        if frac = [] ∧ exp = [] ∧ maxDigits < whole.length then
          fail (.longInteger whole.length) (sign ++ t)
        else .ok (.number (.ofList (sign ++ whole ++ frac ++ exp)), rest) := by
  have htake : ((sign ++ t).take 1).filter (· = '-') = sign := by
    rcases hsign with rfl | rfl
    · cases t with
      | nil => rfl
      | cons c t => simpa using ht rfl c rfl
    · rfl
  rewrite [numeral, htake, List.drop_left]
  rfl

theorem exists_minus (s : List Char) : ∃ sign t, s = sign ++ t ∧ IsMinus sign ∧
    (sign = [] → ∀ c ∈ t.head?, c ≠ '-') := by
  by_cases h : s.head? = some '-'
  · obtain ⟨t, rfl⟩ := List.head?_eq_some_iff.1 h
    exact ⟨['-'], t, rfl, .inr rfl, by simp⟩
  · refine ⟨[], s, rfl, .inl rfl, fun _ c hc heq => h ?_⟩
    rwa [heq] at hc

theorem numeral_eq_ok {v : Json} (h : numeral s = .ok (v, rest)) :
    ∃ t, s = t ++ rest ∧ IsNumber t := by
  obtain ⟨sign, t, rfl, hsign, ht⟩ := exists_minus s
  rw [numeral_append hsign ht] at h
  split at h
  · cases h
  rename_i whole after hwhole
  obtain ⟨rfl, hwhole, -⟩ := integerPart?_eq_some hwhole
  obtain ⟨hafter, hfrac⟩ := fraction_eq after
  obtain ⟨hend, hexp⟩ := exponent_eq (fraction after).2
  simp only at h
  split at h
  · cases h
  obtain ⟨-, rfl⟩ := Prod.mk.inj (Except.ok.inj h)
  refine ⟨_, ?_, .mk hsign hwhole hfrac hexp⟩
  rw [List.append_assoc, List.append_assoc, List.append_assoc, ← hend, ← hafter]

theorem startsLong_of_numeral {digits : Nat} (h : numeral s = .error f)
    (hf : f.cause = .longInteger digits) :
    f.rest = s ∧ StartsLong s ∧ maxDigits < digits := by
  obtain ⟨sign, t, rfl, hsign, ht⟩ := exists_minus s
  rw [numeral_append hsign ht] at h
  split at h
  · cases h
    cases hf
  rename_i whole after hwhole
  obtain ⟨rfl, hwhole, hdigit⟩ := integerPart?_eq_some hwhole
  simp only at h
  split at h
  · rename_i hlong
    obtain ⟨hfrac, hexp, hlength⟩ := hlong
    rw [fraction_snd hfrac] at hexp
    cases h
    have hone : 1 < whole.length := Nat.lt_trans (by decide) hlength
    cases hf
    exact ⟨rfl, .mk hsign hwhole hlength (hdigit hone) (fraction_fst_eq_nil.1 hfrac)
      (exponent_fst_eq_nil.1 hexp), hlength⟩
  · cases h

theorem IsWhole.head?_append (h : IsWhole whole) (rest : List Char) :
    ∀ c ∈ (whole ++ rest).head?, c ≠ '-' := by
  obtain ⟨d, ds, rfl, hd⟩ := h.exists_cons
  simpa using ne_minus_of_isDigit hd

theorem StartsLong.numeral (h : StartsLong s) :
    ∃ digits, maxDigits < digits ∧ numeral s = .error ⟨.longInteger digits, s⟩ := by
  obtain ⟨hsign, hwhole, hlength, hdigit, hfrac, hexp⟩ := h
  rename_i sign whole rest
  have hnofrac := fraction_fst_eq_nil.2 hfrac
  have hnoexp := exponent_fst_eq_nil.2 hexp
  refine ⟨whole.length, hlength, ?_⟩
  rw [numeral_append hsign fun _ => hwhole.head?_append rest, integerPart?_append hwhole hdigit]
  simp only [fraction_snd hnofrac]
  rw [if_pos ⟨hnofrac, hnoexp, hlength⟩]
  rfl

theorem head?_frac_exp {frac exp : List Char} (hfrac : IsFraction frac) (hexp : IsExponent exp)
    (hrest : ∀ c ∈ rest.head?, goesOn c = false) :
    (∀ c ∈ (exp ++ rest).head?, c.isDigit = false ∧ c ≠ '.') ∧
      ∀ c ∈ (frac ++ (exp ++ rest)).head?, c.isDigit = false := by
  have hbehind : ∀ c ∈ (exp ++ rest).head?, c.isDigit = false ∧ c ≠ '.' := by
    cases hexp with
    | none =>
      intro c hc
      have hgoes := hrest c hc
      simp_all [goesOn]
    | digits he =>
      simp only [List.cons_append, List.head?_cons, Option.mem_def, Option.some.injEq, forall_eq']
      rcases he with rfl | rfl <;> decide
  refine ⟨hbehind, ?_⟩
  cases hfrac with
  | none => exact fun c hc => (hbehind c hc).1
  | digits => simp

theorem IsNumber.numeral (h : IsNumber t) (hrest : ∀ c ∈ rest.head?, goesOn c = false) :
    LeadsTo (Prod.snd <$> numeral (t ++ rest)) (.ok rest) := by
  obtain ⟨hsign, hwhole, hfrac, hexp⟩ := h
  rename_i sign whole frac exp
  obtain ⟨hbehind, hdigit⟩ := head?_frac_exp hfrac hexp hrest
  have happ : sign ++ (whole ++ (frac ++ exp)) ++ rest =
      sign ++ (whole ++ (frac ++ (exp ++ rest))) := by simp
  rw [happ, numeral_append hsign fun _ => hwhole.head?_append _,
    integerPart?_append hwhole hdigit]
  simp only [fraction_append hfrac hbehind, exponent_append hexp hrest]
  split
  · exact .inr ⟨_, rfl, _, rfl⟩
  · exact .inl rfl

end Whole

end CurlScribe.Json
