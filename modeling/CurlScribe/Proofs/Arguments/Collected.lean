import CurlScribe.Proofs.Arguments.Dependence
import CurlScribe.Proofs.Arguments.Operands
import CurlScribe.Proofs.Arguments.Spelling

namespace CurlScribe.Arguments

variable {t : FlagTable} {lenient : Bool} {name : String} {names short texts words : List String}

def collectingTokens (name : String) (texts : List String) : List String :=
  texts.flatMap fun text => [Flag.longSpelling name, text]

def collected (name : String) (texts words : List String) : Arguments :=
  ⟨texts.map fun text => ⟨name, true, .word text⟩, words⟩

theorem scan_collecting (ht : t.Regular) (hf : Flag.list name short ∈ t.flags) (text : String)
    (rest : List String) : scan t lenient (Flag.longSpelling name :: text :: rest) =
      .note [.option ⟨name, true, .word text⟩] >>= fun _ => scan t lenient rest := by
  have hlong := FlagTable.long?_eq_some.2 ⟨hf, List.mem_singleton_self name⟩
  have hresolve := resolve_exact hlong
  obtain ⟨hne, heq⟩ := plain_of_resolve ht hresolve
  rw [← inlined_none]
  exact scan_of_waiting (inlined_ne hne none)
    ((digest_inlined heq none).trans (long_of_waiting hresolve rfl))

theorem scan_collectingTokens (ht : t.Regular) (hf : Flag.list name short ∈ t.flags)
    (texts rest : List String) : scan t lenient (collectingTokens name texts ++ rest) =
      .note (texts.map fun text => .option ⟨name, true, .word text⟩) >>= fun _ =>
        scan t lenient rest := by
  induction texts with
  | nil => rfl
  | cons text texts ih =>
    have htokens : collectingTokens name (text :: texts) ++ rest =
        Flag.longSpelling name :: text :: (collectingTokens name texts ++ rest) := rfl
    rw [htokens, scan_collecting ht hf, ih]
    rfl

theorem parse_collectingTokens (ht : t.Regular) (hf : Flag.list name short ∈ t.flags)
    (texts : List String) (hwords : ∀ w ∈ words, ¬ IsDashed w) :
    parse t lenient (collectingTokens name texts ++ words) =
      ⟨[], .ok (collected name texts words)⟩ := by
  have hscan : scan t lenient (collectingTokens name texts ++ words) = _ :=
    scan_collectingTokens ht hf texts words
  rw [scan_operands hwords] at hscan
  refine parse_eq_ok.2 ⟨_, hscan, ?_, ?_, ?_⟩
  · simp [List.filterMap_map, Function.comp_def, Event.notice?]
  · simp [ofEvents, collected, List.filterMap_map, Function.comp_def, Event.occurrence?,
      Event.operand?]
  · simp [textless?, collected, Setting.text?]

theorem textsOf_collected (h : name ∈ names) :
    (collected name texts words).textsOf names = texts.map (name, ·) := by
  simp [textsOf, collected, h, List.filter_map, Function.comp_def, List.filterMap_map,
    Setting.text?]

theorem has_collected {flag : String} (h : (collected name texts words).has flag = true) :
    flag = name := by
  obtain ⟨o, ho⟩ := has_eq_true.1 h
  obtain ⟨hmem, hname⟩ := List.mem_filter.1 ho
  obtain ⟨text, -, rfl⟩ := List.mem_map.1 hmem
  exact (of_decide_eq_true hname).symm

theorem sameOn_collected (h : name ∉ names) :
    SameOn names (collected name texts words) ⟨[], words⟩ := by
  refine List.filter_eq_nil_iff.2 fun o ho => ?_
  obtain ⟨text, -, rfl⟩ := List.mem_map.1 ho
  simpa using h

end CurlScribe.Arguments
