import CurlScribe.Proofs.Text.Around
import CurlScribe.Target.Code

namespace CurlScribe.Code

theorem toList_joined_empty (texts : List String) :
    (Text.joined "" texts).toList = texts.flatMap String.toList := by
  induction texts with
  | nil => rfl
  | cons s texts ih =>
    cases texts with
    | nil => simp [Text.joined]
    | cons t texts => simp [Text.joined, ih]

theorem toList_text (quote : String → String) (c : Code) :
    (c.text quote).toList = c.flatMap fun f => (fragmentText quote f).toList := by
  rw [text, toList_joined_empty, List.flatMap_map]

theorem toList_text_append (quote : String → String) (c d : Code) :
    (text quote (c ++ d)).toList = (c.text quote).toList ++ (d.text quote).toList := by
  rw [toList_text, toList_text, toList_text, List.flatMap_append]

theorem exists_literal {quote : String → String}
    {read : List Char → Option (List Char × List Char)} {s : String}
    (h : ∀ t, read ((quote s).toList ++ t) = some (s.toList, t)) (before after : Code) :
    ∃ rest, (text quote (before ++ lit s ++ after)).toList = (before.text quote).toList ++ rest ∧
      read rest = some (s.toList, (after.text quote).toList) := by
  have hlit : (text quote (lit s)).toList = (quote s).toList := rfl
  refine ⟨(quote s).toList ++ (after.text quote).toList, ?_, h _⟩
  rw [toList_text_append, toList_text_append, hlit, List.append_assoc]

theorem infix_joined {sep : String} {c : Code} {l : List Code} (h : c ∈ l) :
    c <:+: joined sep l := by
  induction l with
  | nil => cases h
  | cons d l ih =>
    cases l with
    | nil =>
      obtain rfl := List.mem_singleton.1 h
      exact List.infix_rfl
    | cons e l =>
      rcases List.mem_cons.1 h with rfl | h
      · exact (List.prefix_append _ _).isInfix
      · exact (ih h).trans ((List.suffix_cons _ _).trans (List.suffix_append _ _)).isInfix

theorem prefix_joined_append (sep : String) (l m : List Code) :
    joined sep l <+: joined sep (l ++ m) := by
  induction l with
  | nil => exact List.nil_prefix
  | cons c l ih =>
    cases l with
    | nil =>
      cases m with
      | nil => exact List.prefix_refl _
      | cons d m => exact List.prefix_append ..
    | cons d l => exact (List.prefix_append_right_inj c).2 ((List.prefix_cons_inj _).2 ih)

theorem suffix_joined_append (sep : String) (l m : List Code) :
    joined sep m <:+ joined sep (l ++ m) := by
  induction l with
  | nil => exact List.suffix_refl _
  | cons c l ih =>
    refine ih.trans ?_
    rw [List.cons_append]
    cases l ++ m with
    | nil => exact List.nil_suffix
    | cons d rest => exact (List.suffix_cons _ _).trans (List.suffix_append _ _)

theorem infix_lines {l m : List Code} (h : l <:+: m) : lines l <:+: lines m := by
  obtain ⟨before, after, rfl⟩ := h
  exact (suffix_joined_append _ before l).isInfix.trans (prefix_joined_append _ _ after).isInfix

theorem infix_call {function : String} {c : Code} {arguments : List Code} (h : c ∈ arguments) :
    c <:+: call function arguments :=
  (infix_joined h).trans (List.infix_append ..)

theorem infix_blocks_last {c d : Code} (l : List Code) (h : c <:+: d) (after : Code) :
    c <:+: blocks (l ++ [d]) ++ after :=
  (h.trans (infix_joined (List.mem_append_right _ (List.mem_singleton_self d)))).trans
    (List.prefix_append _ after).isInfix

theorem injective_of_read {quote : String → String}
    {read : List Char → Option (List Char × List Char)}
    (h : ∀ s t, read ((quote s).toList ++ t) = some (s.toList, t)) : Function.Injective quote := by
  intro s t heq
  have hs := h s []
  rw [heq, h t []] at hs
  exact String.toList_inj.1 (Prod.mk.inj (Option.some.inj hs)).1.symm

section Around

variable {quote : String → String} {c d : Code} {l m : List Code}

theorem text_append (c d : Code) : text quote (c ++ d) = text quote c ++ text quote d := by
  rw [← String.toList_inj, toList_text_append, String.toList_append]

theorem text_joined (sep : String) (l : List Code) :
    text quote (joined sep l) = Text.joined sep (l.map (text quote)) := by
  induction l with
  | nil => rfl
  | cons c l ih =>
    cases l with
    | nil => rfl
    | cons d l =>
      have hsep : Code.text quote (.code sep :: joined sep (d :: l)) =
          sep ++ Code.text quote (joined sep (d :: l)) := text_append [.code sep] _
      rw [joined, text_append, hsep, ih, ← String.append_assoc]
      · rfl
      · simp

theorem around_left (before : Code) :
    Around (c.text quote) (d.text quote) (text quote (before ++ c)) (text quote (before ++ d)) := by
  rw [text_append, text_append]
  exact .left _ .refl

theorem around_right (after : Code) :
    Around (c.text quote) (d.text quote) (text quote (c ++ after)) (text quote (d ++ after)) := by
  rw [text_append, text_append]
  exact .right .refl _

theorem around_append (before after : Code) : Around (c.text quote) (d.text quote)
    (text quote (before ++ c ++ after)) (text quote (before ++ d ++ after)) :=
  (around_left before).trans (around_right after)

theorem around_joined (sep : String) (h : Replaced c d l m) : Around (c.text quote)
    (d.text quote) (text quote (joined sep l)) (text quote (joined sep m)) := by
  rw [text_joined, text_joined]
  exact .joined sep (h.map _)

theorem around_joined_map {α : Type} {x y : α} {items others : List α} (sep : String)
    (f : α → Code) (before after : Code) (h : Replaced x y items others) :
    Around (text quote (f x)) (text quote (f y))
      (text quote (before ++ joined sep (items.map f) ++ after))
      (text quote (before ++ joined sep (others.map f) ++ after)) :=
  (around_joined sep (h.map f)).trans (around_append before after)

theorem around_joined_append (sep : String) (hl : l ≠ []) (hm : m ≠ []) (before after : List Code) :
    Around (text quote (joined sep l)) (text quote (joined sep m))
      (text quote (joined sep (before ++ l ++ after)))
      (text quote (joined sep (before ++ m ++ after))) := by
  simp only [text_joined, List.map_append]
  exact .joined_append sep (by simpa using hl) (by simpa using hm) _ _

theorem around_call (function : String) (h : Replaced c d l m) : Around (c.text quote)
    (d.text quote) (text quote (call function l)) (text quote (call function m)) :=
  (around_joined ", " h).trans (around_append _ _)

theorem text_lit_injective (hquote : Function.Injective quote) :
    Function.Injective fun s => text quote (lit s) :=
  hquote

theorem text_joined_option {sep : String} {α : Type} {f : α → Code}
    (hf : Function.Injective fun a => text quote (f a)) (hsep : sep ≠ "")
    (before after : List Code) (h : before ++ after ≠ []) (x y : Option α) :
    text quote (joined sep (before ++ (x.map f).toList ++ after)) =
      text quote (joined sep (before ++ (y.map f).toList ++ after)) ↔ x = y := by
  have hmap (x : Option α) : (x.map f).toList.map (text quote) =
      (x.map fun a => text quote (f a)).toList := by
    cases x <;> rfl
  have hne : before.map (text quote) ++ after.map (text quote) ≠ [] := by
    rw [← List.map_append, ne_eq, List.map_eq_nil_iff]
    exact h
  simp only [text_joined, List.map_append, hmap]
  exact Text.joined_option hf hsep hne x y

end Around

end CurlScribe.Code
