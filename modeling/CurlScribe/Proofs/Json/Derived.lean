import CurlScribe.Proofs.Json.Rules

/-!
Texts that the grammar derives are what the reader takes in, unless it gives up on an integer. Where
it does, a value could stand.
-/

namespace CurlScribe.Json

open Numeral

variable {r : Rule} {fuel : Nat} {bracket : Char} {s t pre rest sign whole : List Char} {f : Fault}

section Sound

variable {α : Type} {x : Except Fault (α × List Char)}

theorem map_snd_eq_ok : Prod.snd <$> x = .ok rest ↔ ∃ a, x = .ok (a, rest) := by
  rcases x with e | ⟨a, after⟩ <;> simp [Functor.map, Except.map]

theorem map_snd_eq_error : Prod.snd <$> x = .error f ↔ x = .error f := by
  rcases x with e | ⟨a, after⟩ <;> simp [Functor.map, Except.map]

def ReadsDerived (fuel : Nat) : Prop :=
  ∀ {r : Rule} {s rest}, r.read fuel s = .ok rest →
    ∃ t, s = t ++ (r.closing ++ rest) ∧ Derives r t

theorem ReadsDerived.opened (ih : ReadsDerived fuel) (hclosing : r.closing = [bracket])
    (h : opened bracket (r.read fuel) s = .ok rest) :
    ∃ b, IsBlank b ∧
      (s = b ++ bracket :: rest ∨ ∃ t, s = b ++ (t ++ bracket :: rest) ∧ Derives r t) := by
  obtain ⟨b, t, hb, rfl, hopened | ⟨close, rfl, hopened⟩⟩ :=
    opened_cases bracket (r.read fuel) s
  · rw [hopened] at h
    obtain ⟨s, rfl, hs⟩ := ih h
    exact ⟨b, hb, .inr ⟨s, by rw [hclosing]; rfl, hs⟩⟩
  · cases hopened.symm.trans h
    exact ⟨b, hb, .inl rfl⟩

theorem ReadsDerived.separated (ih : ReadsDerived fuel) (hbracket : bracket ≠ ',')
    (hclosing : r.closing = [bracket]) (h : separated bracket (r.read fuel) s = .ok rest) :
    ∃ b, IsBlank b ∧ (s = b ++ bracket :: rest ∨
      ∃ b' t, IsBlank b' ∧ s = b ++ ',' :: (b' ++ (t ++ bracket :: rest)) ∧ Derives r t) := by
  obtain ⟨b, t, hb, rfl, ⟨close, rfl, hsep⟩ | ⟨b', more, hb', rfl, hsep⟩ | hsep⟩ :=
    separated_cases bracket hbracket (r.read fuel) s
  all_goals rw [hsep] at h
  · cases h
    exact ⟨b, hb, .inl rfl⟩
  · obtain ⟨s, rfl, hs⟩ := ih h
    exact ⟨b, hb, .inr ⟨b', s, hb', by rw [hclosing]; rfl, hs⟩⟩
  · cases h

theorem ReadsDerived.value (ih : ReadsDerived fuel)
    (h : Rule.value.read (fuel + 1) s = .ok rest) : ∃ t, s = t ++ rest ∧ Derives .value t := by
  rcases read_value fuel s with ⟨word, hword, after, rfl, hread⟩ | hread | ⟨after, rfl, hread⟩ |
    ⟨after, rfl, hread⟩ | ⟨after, rfl, hread⟩
  all_goals rw [hread] at h
  · cases h
    exact ⟨_, rfl, .constant hword⟩
  · obtain ⟨v, h⟩ := map_snd_eq_ok.1 h
    obtain ⟨t, rfl, ht⟩ := numeral_eq_ok h
    exact ⟨t, rfl, .number ht⟩
  · obtain ⟨v, h⟩ := map_snd_eq_ok.1 h
    obtain ⟨t, hafter, ht⟩ := stringFrom_eq_ok h
    rw [List.drop_zero] at hafter
    exact ⟨_, by simp [hafter], .string ht⟩
  · obtain ⟨b, hb, rfl | ⟨t, rfl, ht⟩⟩ := ih.opened rfl h
    · exact ⟨_, by simp, .emptyArray hb⟩
    · exact ⟨_, by simp, .array hb ht⟩
  · obtain ⟨b, hb, rfl | ⟨t, rfl, ht⟩⟩ := ih.opened rfl h
    · exact ⟨_, by simp, .emptyObject hb⟩
    · exact ⟨_, by simp, .object hb ht⟩

theorem ReadsDerived.items (ih : ReadsDerived fuel)
    (h : Rule.items.read (fuel + 1) s = .ok rest) :
    ∃ t, s = t ++ ']' :: rest ∧ Derives .items t := by
  rw [read_items] at h
  obtain ⟨after, hvalue, hafter⟩ := bind_eq_ok_iff.1 h
  obtain ⟨v, rfl, hv⟩ := ih hvalue
  obtain ⟨b, hb, rfl | ⟨b', t, hb', rfl, ht⟩⟩ := ih.separated (by decide) rfl hafter
  · exact ⟨_, by simp [Rule.closing], .lastItem hv hb⟩
  · exact ⟨_, by simp [Rule.closing], .item hv hb hb' ht⟩

theorem ReadsDerived.fields (ih : ReadsDerived fuel)
    (h : Rule.fields.read (fuel + 1) s = .ok rest) :
    ∃ t, s = t ++ '\x7d' :: rest ∧ Derives .fields t := by
  rcases read_keyed fuel s with hread | ⟨_, rfl, ⟨f, -, hread⟩ |
    ⟨k, b, after, hk, hb, rfl, hread | ⟨b', value, hb', rfl, hread⟩⟩⟩
  all_goals rw [hread] at h
  case inr.inr.inr =>
    obtain ⟨after, hvalue, hafter⟩ := bind_eq_ok_iff.1 h
    obtain ⟨v, rfl, hv⟩ := ih hvalue
    obtain ⟨b'', hb'', rfl | ⟨c, t, hc, rfl, ht⟩⟩ := ih.separated (by decide) rfl hafter
    · exact ⟨_, by simp [Rule.closing], .lastField hk hb hb' hv hb''⟩
    · exact ⟨_, by simp [Rule.closing], .field hk hb hb' hv hb'' hc ht⟩
  all_goals cases h

theorem readsDerived (fuel : Nat) : ReadsDerived fuel := by
  induction fuel with
  | zero =>
    intro r s rest h
    cases r <;> cases h
  | succ fuel ih =>
    intro r s rest h
    cases r with
    | value => exact ih.value h
    | items => exact ih.items h
    | fields => exact ih.fields h

end Sound

section Opens

/-- The texts behind which there may be a value within what a rule derives. -/
inductive Opens : Rule → List Char → Prop
  | here : Opens .value []
  | array {b pre : List Char} (hb : IsBlank b) (h : Opens .items pre) :
      Opens .value ('[' :: (b ++ pre))
  | object {b pre : List Char} (hb : IsBlank b) (h : Opens .fields pre) :
      Opens .value ('\x7b' :: (b ++ pre))
  | firstItem {pre : List Char} (h : Opens .value pre) : Opens .items pre
  | item {v b b' pre : List Char} (hv : Derives .value v) (hb : IsBlank b) (hb' : IsBlank b')
      (h : Opens .items pre) : Opens .items (v ++ (b ++ ',' :: (b' ++ pre)))
  | firstField {k b b' pre : List Char} (hk : IsStringText k) (hb : IsBlank b) (hb' : IsBlank b')
      (h : Opens .value pre) : Opens .fields ('"' :: (k ++ '"' :: (b ++ ':' :: (b' ++ pre))))
  | field {k b b' v b'' c pre : List Char} (hk : IsStringText k) (hb : IsBlank b)
      (hb' : IsBlank b') (hv : Derives .value v) (hb'' : IsBlank b'') (hc : IsBlank c)
      (h : Opens .fields pre) :
      Opens .fields ('"' :: (k ++ '"' :: (b ++ ':' :: (b' ++ (v ++ (b'' ++ ',' :: (c ++ pre)))))))

/-- Whether the reader gives up, with so much fuel, only on integers that are too long, where there
may be a value. -/
def StopsAtLong (fuel : Nat) : Prop :=
  ∀ {r : Rule} {s f digits}, r.read fuel s = .error f → f.cause = .longInteger digits →
    maxDigits < digits ∧ ∃ pre, s = pre ++ f.rest ∧ Opens r pre ∧ StartsLong f.rest

variable {digits : Nat}

theorem StopsAtLong.opened (ih : StopsAtLong fuel)
    (h : opened bracket (r.read fuel) s = .error f) (hf : f.cause = .longInteger digits) :
    maxDigits < digits ∧ ∃ b pre, IsBlank b ∧ s = b ++ (pre ++ f.rest) ∧ Opens r pre ∧
      StartsLong f.rest := by
  obtain ⟨b, t, hb, rfl, hopened | ⟨close, rfl, hopened⟩⟩ :=
    opened_cases bracket (r.read fuel) s
  all_goals rw [hopened] at h
  · obtain ⟨hdigits, pre, hs, hpre, hlong⟩ := ih h hf
    exact ⟨hdigits, b, pre, hb, by rw [← hs], hpre, hlong⟩
  · cases h

theorem StopsAtLong.separated (ih : StopsAtLong fuel) (hbracket : bracket ≠ ',')
    (h : separated bracket (r.read fuel) s = .error f) (hf : f.cause = .longInteger digits) :
    maxDigits < digits ∧ ∃ b b' pre, IsBlank b ∧ IsBlank b' ∧
      s = b ++ ',' :: (b' ++ (pre ++ f.rest)) ∧ Opens r pre ∧ StartsLong f.rest := by
  obtain ⟨b, t, hb, rfl, ⟨close, rfl, hsep⟩ | ⟨b', more, hb', rfl, hsep⟩ | hsep⟩ :=
    separated_cases bracket hbracket (r.read fuel) s
  all_goals rw [hsep] at h
  · cases h
  · obtain ⟨hdigits, pre, hs, hpre, hlong⟩ := ih h hf
    exact ⟨hdigits, b, b', pre, hb, hb', by rw [← hs], hpre, hlong⟩
  · cases h
    cases hf

theorem StopsAtLong.value (ih : StopsAtLong fuel) (h : Rule.value.read (fuel + 1) s = .error f)
    (hf : f.cause = .longInteger digits) :
    maxDigits < digits ∧ ∃ pre, s = pre ++ f.rest ∧ Opens .value pre ∧ StartsLong f.rest := by
  rcases read_value fuel s with ⟨word, hword, after, rfl, hread⟩ | hread | ⟨after, rfl, hread⟩ |
    ⟨after, rfl, hread⟩ | ⟨after, rfl, hread⟩
  all_goals rw [hread] at h
  · cases h
  · obtain ⟨rfl, hlong, hdigits⟩ := startsLong_of_numeral (map_snd_eq_error.1 h) hf
    exact ⟨hdigits, [], rfl, .here, hlong⟩
  · exact absurd ⟨digits, hf⟩ (not_isLong_stringFrom (map_snd_eq_error.1 h))
  · obtain ⟨hdigits, b, pre, hb, rfl, hpre, hlong⟩ := ih.opened h hf
    exact ⟨hdigits, _, by simp, .array hb hpre, hlong⟩
  · obtain ⟨hdigits, b, pre, hb, rfl, hpre, hlong⟩ := ih.opened h hf
    exact ⟨hdigits, _, by simp, .object hb hpre, hlong⟩

theorem StopsAtLong.items (ih : StopsAtLong fuel) (h : Rule.items.read (fuel + 1) s = .error f)
    (hf : f.cause = .longInteger digits) :
    maxDigits < digits ∧ ∃ pre, s = pre ++ f.rest ∧ Opens .items pre ∧ StartsLong f.rest := by
  rw [read_items] at h
  rcases bind_eq_error_iff.1 h with hvalue | ⟨after, hvalue, hafter⟩
  · obtain ⟨hdigits, pre, hs, hpre, hlong⟩ := ih hvalue hf
    exact ⟨hdigits, pre, hs, .firstItem hpre, hlong⟩
  obtain ⟨v, rfl, hv⟩ := readsDerived fuel hvalue
  obtain ⟨hdigits, b, b', pre, hb, hb', rfl, hpre, hlong⟩ := ih.separated (by decide) hafter hf
  exact ⟨hdigits, _, by simp [Rule.closing], .item hv hb hb' hpre, hlong⟩

theorem StopsAtLong.fields (ih : StopsAtLong fuel) (h : Rule.fields.read (fuel + 1) s = .error f)
    (hf : f.cause = .longInteger digits) :
    maxDigits < digits ∧ ∃ pre, s = pre ++ f.rest ∧ Opens .fields pre ∧ StartsLong f.rest := by
  rcases read_keyed fuel s with hread | ⟨_, rfl, ⟨f', hkey, hread⟩ |
    ⟨k, b, after, hk, hb, rfl, hread | ⟨b', value, hb', rfl, hread⟩⟩⟩
  all_goals rw [hread] at h
  · cases h
    cases hf
  · cases h
    exact absurd ⟨digits, hf⟩ (not_isLong_stringFrom hkey)
  · cases h
    cases hf
  rcases bind_eq_error_iff.1 h with hvalue | ⟨after, hvalue, hafter⟩
  · obtain ⟨hdigits, pre, hs, hpre, hlong⟩ := ih hvalue hf
    exact ⟨hdigits, _, by rw [hs]; simp, .firstField hk hb hb' hpre, hlong⟩
  obtain ⟨v, rfl, hv⟩ := readsDerived fuel hvalue
  obtain ⟨hdigits, b'', c, pre, hb'', hc, rfl, hpre, hlong⟩ :=
    ih.separated (by decide) hafter hf
  exact ⟨hdigits, _, by simp [Rule.closing], .field hk hb hb' hv hb'' hc hpre, hlong⟩

theorem stopsAtLong (fuel : Nat) : StopsAtLong fuel := by
  induction fuel with
  | zero =>
    intro r s f digits h hf
    cases r <;> cases h <;> cases hf
  | succ fuel ih =>
    intro r s f digits h hf
    cases r with
    | value => exact ih.value h hf
    | items => exact ih.items h hf
    | fields => exact ih.fields h hf

end Opens

section Heads

def Begins (s : List Char) : Prop := ∃ c t, s = c :: t ∧ mayStart c = true

theorem Begins.append (h : Begins s) (rest : List Char) : Begins (s ++ rest) := by
  obtain ⟨c, t, rfl, hstart⟩ := h
  exact ⟨c, t ++ rest, rfl, hstart⟩

theorem Begins.head? (h : Begins s) : ∀ c ∈ s.head?, isSpace c = false ∧ c ≠ ']' := by
  obtain ⟨c, t, rfl, hstart⟩ := h
  obtain ⟨hspace, hbracket, -⟩ := mayStart_iff.1 hstart
  simp [hspace, hbracket]

theorem Begins.skip_eq (h : Begins s) : skip s = s :=
  skip_eq_self fun c hc => (h.head? c hc).1

theorem begins_minus_whole (hsign : IsMinus sign) (hwhole : IsWhole whole) :
    Begins (sign ++ whole) := by
  obtain ⟨d, ds, rfl, hd⟩ := hwhole.exists_cons
  rcases hsign with rfl | rfl
  · exact ⟨d, ds, rfl, mayStart_of_isDigit hd⟩
  · exact ⟨'-', d :: ds, rfl, by decide⟩

theorem StartsLong.begins (h : StartsLong s) : Begins s := by
  obtain ⟨hsign, hwhole, -, -, -, -⟩ := h
  rw [← List.append_assoc]
  exact (begins_minus_whole hsign hwhole).append _

theorem Derives.begins (h : Derives r t) : Begins t := by
  induction h with
  | @constant word hword =>
    simp only [constants, List.mem_cons, List.not_mem_nil, or_false] at hword
    rcases hword with rfl | rfl | rfl | rfl | rfl | rfl <;> exact ⟨_, _, rfl, by decide⟩
  | number hs =>
    obtain ⟨hsign, hwhole, hfrac, hexp⟩ := hs
    rw [← List.append_assoc]
    exact (begins_minus_whole hsign hwhole).append _
  | string | emptyArray | array | emptyObject | object | lastField | field =>
    exact ⟨_, _, rfl, by decide⟩
  | lastItem _ _ ih | item _ _ _ _ ih => exact ih.append _

theorem Opens.begins (h : Opens r pre) (hs : Begins s) : Begins (pre ++ s) := by
  induction h with
  | here => exact hs
  | array | object | firstField | field => exact ⟨_, _, rfl, by decide⟩
  | firstItem h ih => exact ih
  | item hv => exact (hv.begins.append _).append s

theorem Derives.head?_fields (h : Derives .fields t) : t.head? = some '"' := by
  cases h <;> rfl

theorem Opens.head?_fields (h : Opens .fields pre) : pre.head? = some '"' := by
  cases h <;> rfl

theorem head?_of_quote (h : t.head? = some '"') (rest : List Char) :
    ∀ c ∈ (t ++ rest).head?, isSpace c = false ∧ c ≠ '\x7d' := by
  obtain ⟨s, rfl⟩ := List.head?_eq_some_iff.1 h
  simp only [List.cons_append, List.head?_cons, Option.mem_def, Option.some.injEq, forall_eq']
  decide

end Heads

section Complete

variable {x y z : Except Fault (List Char)} {next : List Char → Except Fault (List Char)}

theorem GivesUp.bind (h : GivesUp x) : GivesUp (x >>= next) := by
  obtain ⟨f, rfl, hf⟩ := h
  exact ⟨f, rfl, hf⟩

theorem LeadsTo.givesUp (hxy : LeadsTo x y) (hy : GivesUp y) : GivesUp x := by
  rcases hxy with rfl | hx
  · exact hy
  · exact hx

theorem LeadsTo.trans (hxy : LeadsTo x y) (hyz : LeadsTo y z) : LeadsTo x z := by
  rcases hxy with rfl | hx
  · exact hyz
  · exact .inr hx

theorem LeadsTo.bind (h : LeadsTo x (.ok t)) : LeadsTo (x >>= next) (next t) := by
  rcases h with rfl | hx
  · exact .inl rfl
  · exact .inr hx.bind

theorem read_numeral (hsign : IsMinus sign) (hwhole : IsWhole whole) (fuel : Nat)
    (rest : List Char) : Rule.value.read (fuel + 1) (sign ++ (whole ++ rest)) =
      Prod.snd <$> numeral (sign ++ (whole ++ rest)) := by
  obtain ⟨d, ds, rfl, hd⟩ := hwhole.exists_cons
  rcases read_value fuel (sign ++ (d :: ds ++ rest)) with ⟨word, hword, t, hs, -⟩ | hread |
    ⟨t, hs, -⟩ | ⟨t, hs, -⟩ | ⟨t, hs, -⟩
  case inr.inl => exact hread
  all_goals exfalso
  case inl =>
    simp only [constants, List.mem_cons, List.not_mem_nil, or_false] at hword
    rcases hsign with rfl | rfl <;>
      rcases hword with rfl | rfl | rfl | rfl | rfl | rfl <;> simp_all
  all_goals rcases hsign with rfl | rfl <;> simp_all

variable {v k b b' b'' c : List Char} {inner : List Char → Except Fault (List Char)}

def Takes (r : Rule) (fuel : Nat) (t : List Char) : Prop :=
  ∀ rest : List Char, (r = .value → ∀ c ∈ rest.head?, goesOn c = false) →
    LeadsTo (r.read fuel (t ++ (r.closing ++ rest))) (.ok rest)

theorem Takes.closed (hv : Takes .value fuel v) (hb : IsBlank b)
    (hbracket : isSpace bracket = false) (hgoes : goesOn bracket = false) (rest : List Char) :
    LeadsTo (Rule.value.read fuel (v ++ (b ++ bracket :: rest)) >>= separated bracket inner)
      (.ok rest) := by
  have hread : LeadsTo (Rule.value.read fuel (v ++ (b ++ bracket :: rest))) (.ok _) :=
    hv _ fun _ => goesOn_blank hb (by simp [hgoes])
  have hsep : separated bracket inner (b ++ bracket :: rest) = .ok rest :=
    separated_closed hb hbracket rest
  rw [← hsep]
  exact hread.bind

theorem Takes.comma (hv : Takes .value fuel v) (hb : IsBlank b) (hb' : IsBlank b')
    (hbracket : bracket ≠ ',') (hs : Begins s) :
    LeadsTo (Rule.value.read fuel (v ++ (b ++ ',' :: (b' ++ s))) >>= separated bracket inner)
      (inner s) := by
  have hread : LeadsTo (Rule.value.read fuel (v ++ (b ++ ',' :: (b' ++ s)))) (.ok _) :=
    hv _ fun _ => goesOn_blank hb (by simp [goesOn])
  have hsep : separated bracket inner (b ++ ',' :: (b' ++ s)) = inner s :=
    separated_comma hb hb' hbracket fun c hc => (hs.head? c hc).1
  rw [← hsep]
  exact hread.bind

theorem read_key (hk : IsStringText k) (hb : IsBlank b) (hb' : IsBlank b') (hs : Begins s)
    (fuel : Nat) :
    Rule.fields.read (fuel + 1) ('"' :: (k ++ '"' :: (b ++ ':' :: (b' ++ s)))) =
      Rule.value.read fuel s >>= separated '\x7d' (Rule.fields.read fuel) := by
  obtain ⟨value, hread⟩ := exists_stringFrom hk (b ++ ':' :: (b' ++ s))
  rw [read_fields, map_snd_eq_ok.2 ⟨value, hread⟩]
  calc
    _ = keyed (fun s => Rule.value.read fuel s >>= separated '\x7d' (Rule.fields.read fuel))
          (b ++ ':' :: (b' ++ s)) := rfl
    _ = _ := keyed_append hb hb' fun c hc => (hs.head? c hc).1

theorem Takes.item (hv : Takes .value fuel v) (hb : IsBlank b) (hb' : IsBlank b')
    (hs : Begins s) :
    LeadsTo (Rule.items.read (fuel + 1) (v ++ (b ++ ',' :: (b' ++ s))))
      (Rule.items.read fuel s) := by
  rw [read_items]
  exact hv.comma hb hb' (by decide) hs

theorem Takes.field (hv : Takes .value fuel v) (hbegins : Begins v) (hk : IsStringText k)
    (hb : IsBlank b) (hb' : IsBlank b') (hb'' : IsBlank b'') (hc : IsBlank c) (hs : Begins s) :
    LeadsTo (Rule.fields.read (fuel + 1)
        ('"' :: (k ++ '"' :: (b ++ ':' :: (b' ++ (v ++ (b'' ++ ',' :: (c ++ s))))))))
      (Rule.fields.read fuel s) := by
  rw [read_key hk hb hb' (hbegins.append _)]
  exact hv.comma hb'' hc (by decide) hs

theorem IsNumber.takes (h : IsNumber t) (fuel : Nat) : Takes .value (fuel + 1) t := by
  intro rest hrest
  have hnumeral := h.numeral (hrest rfl)
  obtain ⟨hsign, hwhole, -, -⟩ := h
  simp only [Rule.closing, List.nil_append, List.append_assoc] at hnumeral ⊢
  rw [read_numeral hsign hwhole]
  exact hnumeral

theorem takes_constant {word : String} (hword : word ∈ constants) (fuel : Nat) :
    Takes .value (fuel + 1) word.toList := by
  simp only [constants, List.mem_cons, List.not_mem_nil, or_false] at hword
  rcases hword with rfl | rfl | rfl | rfl | rfl | rfl <;> exact fun _ _ => .inl rfl

theorem IsStringText.takes (h : IsStringText s) (fuel : Nat) :
    Takes .value (fuel + 1) ('"' :: (s ++ ['"'])) := by
  intro rest _
  obtain ⟨value, hread⟩ := exists_stringFrom h rest
  have htext : s ++ ['"'] ++ (Rule.value.closing ++ rest) = s ++ '"' :: rest := by
    simp [Rule.closing]
  rw [List.cons_append, htext, read_string, map_snd_eq_ok.2 ⟨value, hread⟩]
  exact .inl rfl

theorem Derives.exists_fuel (h : Derives r t) (hfuel : (t ++ r.closing).length ≤ fuel) :
    ∃ n, fuel = n + 1 := by
  obtain ⟨c, s, rfl, -⟩ := h.begins
  exact Nat.exists_eq_succ_of_ne_zero (by rintro rfl; simp at hfuel)

theorem Derives.takes (h : Derives r t) (hfuel : (t ++ r.closing).length ≤ fuel) :
    Takes r fuel t := by
  induction h generalizing fuel with
  | constant hword =>
    obtain ⟨fuel, rfl⟩ := (Derives.constant hword).exists_fuel hfuel
    exact takes_constant hword fuel
  | number hs =>
    obtain ⟨fuel, rfl⟩ := (Derives.number hs).exists_fuel hfuel
    exact hs.takes fuel
  | string hs =>
    obtain ⟨fuel, rfl⟩ := (Derives.string hs).exists_fuel hfuel
    exact hs.takes fuel
  | emptyArray hb =>
    obtain ⟨fuel, rfl⟩ := (Derives.emptyArray hb).exists_fuel hfuel
    intro rest _
    rw [List.cons_append, read_array, List.append_assoc]
    exact .inl (opened_closed hb rfl rest)
  | array hb hs ih =>
    obtain ⟨fuel, rfl⟩ := (Derives.array hb hs).exists_fuel hfuel
    intro rest _
    rw [List.cons_append, read_array, List.append_assoc, List.append_assoc,
      opened_append hb (hs.begins.append _).head?]
    exact ih (by simp [Rule.closing] at hfuel ⊢; omega) rest nofun
  | emptyObject hb =>
    obtain ⟨fuel, rfl⟩ := (Derives.emptyObject hb).exists_fuel hfuel
    intro rest _
    rw [List.cons_append, read_object, List.append_assoc]
    exact .inl (opened_closed hb rfl rest)
  | object hb hs ih =>
    obtain ⟨fuel, rfl⟩ := (Derives.object hb hs).exists_fuel hfuel
    intro rest _
    rw [List.cons_append, read_object, List.append_assoc, List.append_assoc,
      opened_append hb (head?_of_quote hs.head?_fields _)]
    exact ih (by simp [Rule.closing] at hfuel ⊢; omega) rest nofun
  | lastItem hv hb ih =>
    obtain ⟨fuel, rfl⟩ := (Derives.lastItem hv hb).exists_fuel hfuel
    intro rest _
    rw [read_items, List.append_assoc]
    exact (ih (by simp [Rule.closing] at hfuel ⊢; omega)).closed hb rfl rfl rest
  | @item v b b' s hv hb hb' hs ihv ih =>
    obtain ⟨fuel, rfl⟩ := (Derives.item hv hb hb' hs).exists_fuel hfuel
    intro rest _
    have hvalue : Takes .value fuel v := ihv (by simp [Rule.closing] at hfuel ⊢; omega)
    have hitems : Takes .items fuel s := ih (by simp [Rule.closing] at hfuel ⊢; omega)
    simpa using (hvalue.item hb hb' (hs.begins.append _)).trans (hitems rest nofun)
  | @lastField k b b' v b'' hk hb hb' hv hb'' ih =>
    obtain ⟨fuel, rfl⟩ := (Derives.lastField hk hb hb' hv hb'').exists_fuel hfuel
    intro rest _
    have hvalue : Takes .value fuel v := ih (by simp [Rule.closing] at hfuel ⊢; omega)
    have hfields := read_key hk hb hb' (hv.begins.append (b'' ++ '\x7d' :: rest)) fuel
    simpa [Rule.closing, hfields] using hvalue.closed hb'' rfl rfl rest
  | @field k b b' v b'' c s hk hb hb' hv hb'' hc hs ihv ih =>
    obtain ⟨fuel, rfl⟩ := (Derives.field hk hb hb' hv hb'' hc hs).exists_fuel hfuel
    intro rest _
    have hvalue : Takes .value fuel v := ihv (by simp [Rule.closing] at hfuel ⊢; omega)
    have hfields : Takes .fields fuel s := ih (by simp [Rule.closing] at hfuel ⊢; omega)
    simpa using (hvalue.field hv.begins hk hb hb' hb'' hc (hs.begins.append _)).trans
      (hfields rest nofun)

theorem Opens.givesUp (h : Opens r pre) (hs : StartsLong s)
    (hfuel : 2 * pre.length + r.closing.length < fuel) : GivesUp (r.read fuel (pre ++ s)) := by
  -- Fuel for twice the characters, as a bracket and the first value behind it each take some.
  induction h generalizing fuel with
  | here =>
    obtain ⟨fuel, rfl⟩ := Nat.exists_eq_succ_of_ne_zero (Nat.ne_zero_of_lt hfuel)
    obtain ⟨digits, -, hnumeral⟩ := hs.numeral
    obtain ⟨hsign, hwhole, -, -, -, -⟩ := hs
    rw [List.nil_append, read_numeral hsign hwhole, hnumeral]
    exact ⟨_, rfl, digits, rfl⟩
  | array hb h ih =>
    obtain ⟨fuel, rfl⟩ := Nat.exists_eq_succ_of_ne_zero (Nat.ne_zero_of_lt hfuel)
    rw [List.cons_append, read_array, List.append_assoc,
      opened_append hb (h.begins hs.begins).head?]
    exact ih (by simp [Rule.closing] at hfuel ⊢; omega)
  | object hb h ih =>
    obtain ⟨fuel, rfl⟩ := Nat.exists_eq_succ_of_ne_zero (Nat.ne_zero_of_lt hfuel)
    rw [List.cons_append, read_object, List.append_assoc,
      opened_append hb (head?_of_quote h.head?_fields s)]
    exact ih (by simp [Rule.closing] at hfuel ⊢; omega)
  | firstItem h ih =>
    obtain ⟨fuel, rfl⟩ := Nat.exists_eq_succ_of_ne_zero (Nat.ne_zero_of_lt hfuel)
    rw [read_items]
    exact (ih (by simp [Rule.closing] at hfuel ⊢; omega)).bind
  | @item v b b' pre hv hb hb' h ih =>
    obtain ⟨fuel, rfl⟩ := Nat.exists_eq_succ_of_ne_zero (Nat.ne_zero_of_lt hfuel)
    have hvalue : Takes .value fuel v := hv.takes (by simp [Rule.closing] at hfuel ⊢; omega)
    have hitems : GivesUp (Rule.items.read fuel (pre ++ s)) :=
      ih (by simp [Rule.closing] at hfuel ⊢; omega)
    simpa using (hvalue.item hb hb' (h.begins hs.begins)).givesUp hitems
  | @firstField k b b' pre hk hb hb' h ih =>
    obtain ⟨fuel, rfl⟩ := Nat.exists_eq_succ_of_ne_zero (Nat.ne_zero_of_lt hfuel)
    have hvalue : GivesUp (Rule.value.read fuel (pre ++ s)) :=
      ih (by simp [Rule.closing] at hfuel ⊢; omega)
    have hfields := read_key hk hb hb' (h.begins hs.begins) fuel
    simpa [hfields] using hvalue.bind
  | @field k b b' v b'' c pre hk hb hb' hv hb'' hc h ih =>
    obtain ⟨fuel, rfl⟩ := Nat.exists_eq_succ_of_ne_zero (Nat.ne_zero_of_lt hfuel)
    have hvalue : Takes .value fuel v := hv.takes (by simp [Rule.closing] at hfuel ⊢; omega)
    have hfields : GivesUp (Rule.fields.read fuel (pre ++ s)) :=
      ih (by simp [Rule.closing] at hfuel ⊢; omega)
    simpa using
      (hvalue.field hv.begins hk hb hb' hb'' hc (h.begins hs.begins)).givesUp hfields

end Complete

end CurlScribe.Json
