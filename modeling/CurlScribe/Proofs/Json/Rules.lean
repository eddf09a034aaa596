import CurlScribe.Proofs.Json.NumberText

/-!
Reading by the rules of the grammar, without the values: what each rule goes on with, by what stands
in the text.
-/

namespace CurlScribe.Json

variable {s b rest : List Char} {bracket : Char} {inner : List Char → Except Fault (List Char)}

section Blanks

theorem exists_blank (s : List Char) : ∃ b, IsBlank b ∧ s = b ++ skip s :=
  ⟨s.takeWhile isSpace, fun _ hc => List.mem_takeWhile_imp hc,
    (List.takeWhile_append_dropWhile ..).symm⟩

theorem skip_append (hb : IsBlank b) (s : List Char) : skip (b ++ s) = skip s :=
  List.dropWhile_append_of_pos hb

theorem skip_cons {c : Char} (hc : isSpace c = false) (s : List Char) : skip (c :: s) = c :: s :=
  List.dropWhile_cons_of_neg (by simp [hc])

theorem skip_eq_self (h : ∀ c ∈ s.head?, isSpace c = false) : skip s = s := by
  cases s with
  | nil => rfl
  | cons c s => exact skip_cons (h c rfl) s

theorem goesOn_blank (hb : IsBlank b) (h : ∀ c ∈ s.head?, goesOn c = false) :
    ∀ c ∈ (b ++ s).head?, goesOn c = false := by
  cases b with
  | nil => exact h
  | cons c b =>
    have hc := hb c (.head _)
    simp only [isSpace, Bool.or_eq_true, decide_eq_true_eq] at hc
    rcases hc with ((rfl | rfl) | rfl) | rfl <;> simp [goesOn]

end Blanks

section Steps

def opened (bracket : Char) (inner : List Char → Except Fault (List Char)) (s : List Char) :
    Except Fault (List Char) :=
  match skip s with
  | [] => inner []
  | c :: rest => if c = bracket then .ok rest else inner (c :: rest)

theorem opened_of_bracket (h : skip s = bracket :: rest) : opened bracket inner s = .ok rest := by
  rw [opened, h]
  exact if_pos rfl

theorem opened_of_ne (h : ∀ rest, skip s ≠ bracket :: rest) :
    opened bracket inner s = inner (skip s) := by
  unfold opened
  cases hs : skip s with
  | nil => rfl
  | cons c t =>
    refine if_neg ?_
    rintro rfl
    exact h t hs

def separated (bracket : Char) (inner : List Char → Except Fault (List Char)) (s : List Char) :
    Except Fault (List Char) :=
  match skip s with
  | [] => fail .comma []
  | c :: rest =>
    if c = bracket then .ok rest
    else if c = ',' then inner (skip rest)
    else fail .comma (c :: rest)

theorem separated_of_bracket (h : skip s = bracket :: rest) :
    separated bracket inner s = .ok rest := by
  rw [separated, h]
  exact if_pos rfl

theorem separated_of_comma (hbracket : bracket ≠ ',') (h : skip s = ',' :: rest) :
    separated bracket inner s = inner (skip rest) := by
  rw [separated, h]
  simp only [if_neg hbracket.symm, if_true]

theorem separated_of_ne (hclose : ∀ rest, skip s ≠ bracket :: rest)
    (hcomma : ∀ rest, skip s ≠ ',' :: rest) :
    separated bracket inner s = fail .comma (skip s) := by
  unfold separated
  cases hs : skip s with
  | nil => rfl
  | cons c t =>
    have hc : c ≠ bracket := by
      rintro rfl
      exact hclose t hs
    have hc' : c ≠ ',' := by
      rintro rfl
      exact hcomma t hs
    simp only [if_neg hc, if_neg hc']

def keyed (inner : List Char → Except Fault (List Char)) (s : List Char) :
    Except Fault (List Char) :=
  match skip s with
  | ':' :: rest => inner (skip rest)
  | rest => fail .colon rest

theorem keyed_of_colon (h : skip s = ':' :: rest) : keyed inner s = inner (skip rest) := by
  simp only [keyed, h]

theorem keyed_of_ne (h : ∀ rest, skip s ≠ ':' :: rest) : keyed inner s = fail .colon (skip s) := by
  unfold keyed
  split
  · rename_i rest hskip
    exact absurd hskip (h rest)
  · rfl

theorem begins_cases (c d : Char) (s : List Char) : (∃ rest, s = c :: rest) ∨
    (∃ rest, s = d :: rest) ∨ (∀ rest, s ≠ c :: rest) ∧ ∀ rest, s ≠ d :: rest := by
  by_cases hc : ∃ rest, s = c :: rest
  · exact .inl hc
  by_cases hd : ∃ rest, s = d :: rest
  · exact .inr (.inl hd)
  · exact .inr (.inr ⟨not_exists.1 hc, not_exists.1 hd⟩)

end Steps

section Reading

def Rule.read : Rule → Nat → List Char → Except Fault (List Char)
  | .value, fuel, s => Prod.snd <$> valueFrom fuel s
  | .items, fuel, s => Prod.snd <$> itemsFrom fuel s
  | .fields, fuel, s => Prod.snd <$> fieldsFrom fuel s

def Rule.closing : Rule → List Char
  | .value => []
  | .items => [']']
  | .fields => ['\x7d']

theorem snd_bind_fst {α β : Type} (x : Except Fault (α × List Char)) (f : α → β) :
    Prod.snd <$> (x >>= fun | (a, rest) => pure (f a, rest)) = Prod.snd <$> x := by
  rcases x with e | ⟨a, rest⟩ <;> rfl

theorem read_string (fuel : Nat) (s : List Char) :
    Rule.value.read (fuel + 1) ('"' :: s) = Prod.snd <$> stringFrom 0 s := by
  rw [Rule.read, valueFrom]
  cases stringFrom 0 s <;> rfl

theorem snd_bind {α β : Type} (x : Except Fault (α × List Char))
    (g : α × List Char → Except Fault (β × List Char)) (k : List Char → Except Fault (List Char))
    (h : ∀ a rest, Prod.snd <$> g (a, rest) = k rest) :
    Prod.snd <$> (x >>= g) = Prod.snd <$> x >>= k := by
  rcases x with e | ⟨a, rest⟩
  · rfl
  · exact h a rest

theorem read_array (fuel : Nat) (s : List Char) :
    Rule.value.read (fuel + 1) ('[' :: s) = opened ']' (Rule.items.read fuel) s := by
  rw [Rule.read, valueFrom]
  by_cases hclose : ∃ rest, skip s = ']' :: rest
  · obtain ⟨rest, hskip⟩ := hclose
    rw [opened_of_bracket hskip, hskip]
    rfl
  · replace hclose := not_exists.1 hclose
    rw [opened_of_ne hclose]
    simp only
    exact snd_bind_fst _ _

theorem read_object (fuel : Nat) (s : List Char) :
    Rule.value.read (fuel + 1) ('\x7b' :: s) = opened '\x7d' (Rule.fields.read fuel) s := by
  rw [Rule.read, valueFrom]
  by_cases hclose : ∃ rest, skip s = '\x7d' :: rest
  · obtain ⟨rest, hskip⟩ := hclose
    rw [opened_of_bracket hskip, hskip]
    rfl
  · replace hclose := not_exists.1 hclose
    rw [opened_of_ne hclose]
    simp only
    exact snd_bind_fst _ _

theorem read_items (fuel : Nat) (s : List Char) : Rule.items.read (fuel + 1) s =
    Rule.value.read fuel s >>= separated ']' (Rule.items.read fuel) := by
  change Prod.snd <$> itemsFrom (fuel + 1) s = _
  rw [itemsFrom.eq_def]
  refine snd_bind _ _ _ fun v after => ?_
  rcases begins_cases ']' ',' (skip after) with ⟨rest, h⟩ | ⟨rest, h⟩ | ⟨hclose, hcomma⟩
  · rw [separated_of_bracket h]
    simp only [h]
    rfl
  · rw [separated_of_comma (by decide) h]
    simp only [h]
    exact snd_bind_fst _ _
  · rw [separated_of_ne hclose hcomma]
    simp only
    rfl

theorem read_fields (fuel : Nat) (s : List Char) : Rule.fields.read (fuel + 1) ('"' :: s) =
    Prod.snd <$> stringFrom 0 s >>= keyed fun s =>
      Rule.value.read fuel s >>= separated '\x7d' (Rule.fields.read fuel) := by
  change Prod.snd <$> fieldsFrom (fuel + 1) ('"' :: s) = _
  rw [fieldsFrom.eq_def]
  refine snd_bind _ _ _ fun key after => ?_
  by_cases hcolon : ∃ rest, skip after = ':' :: rest
  swap
  · replace hcolon := not_exists.1 hcolon
    rw [keyed_of_ne hcolon]
    simp only
    rfl
  obtain ⟨rest, hskip⟩ := hcolon
  rw [keyed_of_colon hskip]
  simp only [hskip]
  refine snd_bind _ _ _ fun v after => ?_
  rcases begins_cases '\x7d' ',' (skip after) with ⟨rest, h⟩ | ⟨rest, h⟩ | ⟨hclose, hcomma⟩
  · rw [separated_of_bracket h]
    simp only [h]
    rfl
  · rw [separated_of_comma (by decide) h]
    simp only [h]
    exact snd_bind_fst _ _
  · rw [separated_of_ne hclose hcomma]
    simp only
    rfl

theorem read_fields_of_ne (fuel : Nat) (h : ∀ s', s ≠ '"' :: s') :
    Rule.fields.read (fuel + 1) s = fail .name s := by
  change Prod.snd <$> fieldsFrom (fuel + 1) s = _
  unfold fieldsFrom
  split
  · exact absurd rfl (h _)
  · rfl

theorem valueFrom_of_ne (fuel : Nat) (hquote : ∀ t, s ≠ '"' :: t) (hbracket : ∀ t, s ≠ '[' :: t)
    (hbrace : ∀ t, s ≠ '\x7b' :: t) :
    (∃ word ∈ constants, ∃ t v, s = word.toList ++ t ∧ valueFrom (fuel + 1) s = .ok (v, t)) ∨
      valueFrom (fuel + 1) s = numeral s := by
  generalize hx : valueFrom (fuel + 1) s = x
  unfold valueFrom at hx
  split at hx
  · exact absurd rfl (hquote _)
  · exact absurd rfl (hbrace _)
  · exact absurd rfl (hbracket _)
  · exact .inl ⟨"null", by decide, _, _, rfl, hx.symm⟩
  · exact .inl ⟨"true", by decide, _, _, rfl, hx.symm⟩
  · exact .inl ⟨"false", by decide, _, _, rfl, hx.symm⟩
  · exact .inl ⟨"NaN", by decide, _, _, rfl, hx.symm⟩
  · exact .inl ⟨"Infinity", by decide, _, _, rfl, hx.symm⟩
  · exact .inl ⟨"-Infinity", by decide, _, _, rfl, hx.symm⟩
  · exact .inr hx.symm

theorem read_value (fuel : Nat) (s : List Char) :
    (∃ word ∈ constants, ∃ t, s = word.toList ++ t ∧ Rule.value.read (fuel + 1) s = .ok t) ∨
    Rule.value.read (fuel + 1) s = Prod.snd <$> numeral s ∨
    (∃ t, s = '"' :: t ∧ Rule.value.read (fuel + 1) s = Prod.snd <$> stringFrom 0 t) ∨
    (∃ t, s = '[' :: t ∧ Rule.value.read (fuel + 1) s = opened ']' (Rule.items.read fuel) t) ∨
    ∃ t, s = '\x7b' :: t ∧
      Rule.value.read (fuel + 1) s = opened '\x7d' (Rule.fields.read fuel) t := by
  by_cases hquote : ∃ t, s = '"' :: t
  · obtain ⟨t, rfl⟩ := hquote
    exact .inr (.inr (.inl ⟨t, rfl, read_string fuel t⟩))
  by_cases hbracket : ∃ t, s = '[' :: t
  · obtain ⟨t, rfl⟩ := hbracket
    exact .inr (.inr (.inr (.inl ⟨t, rfl, read_array fuel t⟩)))
  by_cases hbrace : ∃ t, s = '\x7b' :: t
  · obtain ⟨t, rfl⟩ := hbrace
    exact .inr (.inr (.inr (.inr ⟨t, rfl, read_object fuel t⟩)))
  push Not at hquote hbracket hbrace
  rcases valueFrom_of_ne fuel hquote hbracket hbrace with ⟨word, hword, t, v, hs, hread⟩ | hread
  · exact .inl ⟨word, hword, t, hs, by rw [Rule.read, hread]; rfl⟩
  · exact .inr (.inl (by rw [Rule.read, hread]))

theorem opened_cases (bracket : Char) (inner : List Char → Except Fault (List Char))
    (s : List Char) : ∃ b t, IsBlank b ∧ s = b ++ t ∧
      (opened bracket inner s = inner t ∨
        ∃ rest, t = bracket :: rest ∧ opened bracket inner s = .ok rest) := by
  obtain ⟨b, hb, hs⟩ := exists_blank s
  refine ⟨b, skip s, hb, hs, ?_⟩
  by_cases hclose : ∃ rest, skip s = bracket :: rest
  · obtain ⟨rest, hskip⟩ := hclose
    exact .inr ⟨rest, hskip, opened_of_bracket hskip⟩
  · exact .inl (opened_of_ne (not_exists.1 hclose))

theorem separated_cases (bracket : Char) (hbracket : bracket ≠ ',')
    (inner : List Char → Except Fault (List Char)) (s : List Char) :
    ∃ b t, IsBlank b ∧ s = b ++ t ∧
      ((∃ rest, t = bracket :: rest ∧ separated bracket inner s = .ok rest) ∨
        (∃ b' rest, IsBlank b' ∧ t = ',' :: (b' ++ rest) ∧
          separated bracket inner s = inner rest) ∨
        separated bracket inner s = fail .comma t) := by
  obtain ⟨b, hb, hs⟩ := exists_blank s
  refine ⟨b, skip s, hb, hs, ?_⟩
  rcases begins_cases bracket ',' (skip s) with ⟨rest, h⟩ | ⟨rest, h⟩ | ⟨hclose, hcomma⟩
  · exact .inl ⟨rest, h, separated_of_bracket h⟩
  · obtain ⟨b', hb', hrest⟩ := exists_blank rest
    exact .inr (.inl ⟨b', skip rest, hb', by rw [h, ← hrest], separated_of_comma hbracket h⟩)
  · exact .inr (.inr (separated_of_ne hclose hcomma))

theorem keyed_cases (inner : List Char → Except Fault (List Char)) (s : List Char) :
    ∃ b t, IsBlank b ∧ s = b ++ t ∧
      ((∃ b' rest, IsBlank b' ∧ t = ':' :: (b' ++ rest) ∧ keyed inner s = inner rest) ∨
        keyed inner s = fail .colon t) := by
  obtain ⟨b, hb, hs⟩ := exists_blank s
  refine ⟨b, skip s, hb, hs, ?_⟩
  by_cases hcolon : ∃ rest, skip s = ':' :: rest
  · obtain ⟨rest, hskip⟩ := hcolon
    obtain ⟨b', hb', hrest⟩ := exists_blank rest
    exact .inl ⟨b', skip rest, hb', by rw [hskip, ← hrest], keyed_of_colon hskip⟩
  · exact .inr (keyed_of_ne (not_exists.1 hcolon))

theorem read_keyed (fuel : Nat) (s : List Char) :
    Rule.fields.read (fuel + 1) s = fail .name s ∨
    ∃ t, s = '"' :: t ∧
      ((∃ f, stringFrom 0 t = .error f ∧ Rule.fields.read (fuel + 1) s = .error f) ∨
      ∃ k b after, IsStringText k ∧ IsBlank b ∧ t = k ++ '"' :: (b ++ after) ∧
        (Rule.fields.read (fuel + 1) s = fail .colon after ∨
        ∃ b' value, IsBlank b' ∧ after = ':' :: (b' ++ value) ∧
          Rule.fields.read (fuel + 1) s =
            Rule.value.read fuel value >>= separated '\x7d' (Rule.fields.read fuel))) := by
  by_cases hquote : ∃ t, s = '"' :: t
  swap
  · exact .inl (read_fields_of_ne fuel (not_exists.1 hquote))
  obtain ⟨t, rfl⟩ := hquote
  refine .inr ⟨t, rfl, ?_⟩
  rw [read_fields]
  cases hk : stringFrom 0 t with
  | error f => exact .inl ⟨f, rfl, rfl⟩
  | ok key =>
    obtain ⟨k, ht, hk⟩ := stringFrom_eq_ok hk
    rw [List.drop_zero] at ht
    obtain ⟨b, after, hb, hafter, hkeyed⟩ := keyed_cases
      (fun s => Rule.value.read fuel s >>= separated '\x7d' (Rule.fields.read fuel)) key.2
    refine .inr ⟨k, b, after, hk, hb, by rw [ht, hafter], ?_⟩
    rcases hkeyed with ⟨b', value, hb', rfl, hkeyed⟩ | hkeyed
    · exact .inr ⟨b', value, hb', rfl, hkeyed⟩
    · exact .inl hkeyed

theorem opened_closed (hb : IsBlank b) (hbracket : isSpace bracket = false) (rest : List Char) :
    opened bracket inner (b ++ bracket :: rest) = .ok rest :=
  opened_of_bracket (by rw [skip_append hb, skip_cons hbracket])

theorem opened_append (hb : IsBlank b) (hs : ∀ c ∈ s.head?, isSpace c = false ∧ c ≠ bracket) :
    opened bracket inner (b ++ s) = inner s := by
  have hskip : skip (b ++ s) = s := by rw [skip_append hb, skip_eq_self fun c hc => (hs c hc).1]
  rw [opened_of_ne, hskip]
  rintro rest h
  rw [hskip] at h
  exact (hs bracket (by simp [h])).2 rfl

theorem separated_closed (hb : IsBlank b) (hbracket : isSpace bracket = false) (rest : List Char) :
    separated bracket inner (b ++ bracket :: rest) = .ok rest :=
  separated_of_bracket (by rw [skip_append hb, skip_cons hbracket])

theorem separated_comma (hb : IsBlank b) {b' : List Char} (hb' : IsBlank b')
    (hbracket : bracket ≠ ',') (hs : ∀ c ∈ s.head?, isSpace c = false) :
    separated bracket inner (b ++ ',' :: (b' ++ s)) = inner s := by
  rw [separated_of_comma hbracket (by rw [skip_append hb, skip_cons rfl]), skip_append hb',
    skip_eq_self hs]

theorem keyed_append (hb : IsBlank b) {b' : List Char} (hb' : IsBlank b')
    (hs : ∀ c ∈ s.head?, isSpace c = false) : keyed inner (b ++ ':' :: (b' ++ s)) = inner s := by
  rw [keyed_of_colon (by rw [skip_append hb, skip_cons rfl]), skip_append hb', skip_eq_self hs]

end Reading

end CurlScribe.Json
