import CurlScribe.Conversion
import CurlScribe.Proofs.Noted
import CurlScribe.Proofs.Shell.OnePass

namespace CurlScribe.Shell

variable {s t rest text : List Char} {c d : Char} {e : AnsiError}

section Escapes

def namesControl (c : Char) : Bool := (Text.upperChar? c).isSome

/-- The letters of the control escapes in the body of a `$'...'` string. -/
def controlLetters : List Char → List Char
  | [] => []
  | '\\' :: 'c' :: d :: rest => d :: controlLetters rest
  | '\\' :: _ :: rest => controlLetters rest
  | _ :: rest => controlLetters rest

theorem controlLetters_cons (h : c ≠ '\\') : controlLetters (c :: s) = controlLetters s := by
  rw [controlLetters]
  all_goals simp [h]

theorem controlLetters_escape (h : c ≠ 'c') :
    controlLetters ('\\' :: c :: s) = controlLetters s := by
  rw [controlLetters]
  simp [h]

theorem controlLetters_append (h : '\\' ∉ s) :
    controlLetters (s ++ t) = controlLetters t := by
  induction s with
  | nil => rfl
  | cons c s ih =>
    obtain ⟨hc, hs⟩ := not_or.1 (List.mem_cons.not.1 h)
    rw [List.cons_append, controlLetters_cons (Ne.symm hc), ih hs]

theorem controlLetters_drop_digits {p : Char → Bool} (hp : p '\\' = false) (width : Nat) :
    controlLetters (rest.drop ((rest.take width).takeWhile p).length) = controlLetters rest := by
  set digits := (rest.take width).takeWhile p with hdigits
  have hprefix : digits <+: rest := (List.takeWhile_prefix p).trans (List.take_prefix width rest)
  have hmem : '\\' ∉ digits := fun h => by
    have := List.mem_takeWhile_imp h
    rw [hp] at this
    cases this
  obtain ⟨behind, hrest⟩ := hprefix
  rw [← hrest, List.drop_left, controlLetters_append hmem]

theorem escape_eq_error : escape c rest = .error e ↔
    c = 'c' ∧ ∃ d, rest.head? = some d ∧ namesControl d = false ∧ e = .control d := by
  unfold escape
  split
  · rename_i width hwidth
    have hc : c ≠ 'c' := by
      rintro rfl
      cases hwidth
    simp only [hc, false_and, iff_false]
    split <;> nofun
  · split
    · rename_i hoctal
      have hc : c ≠ 'c' := by
        rintro rfl
        cases hoctal
      simp [hc]
    · split
      · rename_i hc
        cases rest with
        | nil => simp [hc]
        | cons d rest =>
          cases hd : Text.upperChar? d with
          | none =>
            simp only [hc, hd, namesControl, List.head?_cons, Option.some.injEq, exists_eq_left',
              Option.isSome_none, true_and, Except.error.injEq, eq_comm]
          | some u =>
            simp only [hd, namesControl, List.head?_cons, Option.some.injEq, exists_eq_left',
              Option.isSome_some, Bool.true_eq_false, false_and, and_false, reduceCtorEq]
      · rename_i hc
        simp [hc]

theorem controlLetters_of_escape {more : Nat} (h : escape c rest = .ok (text, more)) :
    (controlLetters ('\\' :: c :: rest)).find? (!namesControl ·) =
      (controlLetters (rest.drop more)).find? (!namesControl ·) := by
  unfold escape at h
  split at h
  · rename_i width hwidth
    have hc : c ≠ 'c' := by
      rintro rfl
      cases hwidth
    rw [controlLetters_escape hc]
    simp only at h
    split at h
    · cases h
      rfl
    · cases h
      rw [controlLetters_drop_digits (by decide)]
  · split at h
    · rename_i hoctal
      have hc : c ≠ 'c' := by
        rintro rfl
        cases hoctal
      cases h
      rw [controlLetters_escape hc, controlLetters_drop_digits (by decide)]
    · split at h
      · rename_i hc
        cases rest with
        | nil =>
          cases h
          simp [hc, controlLetters]
        | cons d rest =>
          cases hd : Text.upperChar? d with
          | none => simp [hd] at h
          | some u =>
            simp only [hd] at h
            cases h
            simp [hc, controlLetters, namesControl, hd]
      · rename_i hc
        cases h
        rw [controlLetters_escape hc]
        rfl

theorem decodeFrom_eq_error (skip : Nat) : decodeFrom skip s = .error e ↔
    ∃ d, (controlLetters (s.drop skip)).find? (!namesControl ·) = some d ∧ e = .control d := by
  induction skip, s using decodeFrom.induct with
  | case1 skip => simp [decodeFrom, controlLetters]
  | case2 skip c rest ih => exact ih
  | case3 => simp [decodeFrom, controlLetters]
  | case4 c rest ih =>
    rw [List.drop_zero]
    cases hescape : escape c rest with
    | error e' =>
      have hdecode : decodeFrom 0 ('\\' :: c :: rest) = .error e' := by
        rw [decodeFrom, if_pos rfl, hescape]
        rfl
      obtain ⟨rfl, d, hd, hname, rfl⟩ := escape_eq_error.1 hescape
      obtain ⟨rest, rfl⟩ := List.head?_eq_some_iff.1 hd
      simp [hdecode, controlLetters, hname, eq_comm]
    | ok result =>
      obtain ⟨text, more⟩ := result
      rw [controlLetters_of_escape hescape, decodeFrom_escape hescape, map_eq_error_iff]
      exact ih more
  | case5 c rest hc ih =>
    rw [decodeFrom_cons hc, map_eq_error_iff]
    simp only [List.drop_zero, controlLetters_cons hc] at ih ⊢
    exact ih

end Escapes

section Bodies

def ansiBodies : Region → List Char → List (List Char)
  | _, [] => []
  | .ansi body, c :: rest =>
    if c = '\\' then
      match rest with
      | [] => []
      | d :: rest' => ansiBodies (.ansi (d :: '\\' :: body)) rest'
    else if c = '\'' then body.reverse :: ansiBodies .bare rest
    else ansiBodies (.ansi (c :: body)) rest
  | .single, c :: rest => ansiBodies (if c = '\'' then .bare else .single) rest
  | .double, c :: rest =>
    if c = '\\' then
      match rest with
      | [] => []
      | _ :: rest' => ansiBodies .double rest'
    else ansiBodies (if c = '"' then .bare else .double) rest
  | .bare, '$' :: '\'' :: rest => ansiBodies (.ansi []) rest
  | .bare, c :: rest =>
    if c = '\\' then
      match rest with
      | [] => []
      | _ :: rest' => ansiBodies .bare rest'
    else ansiBodies (if c = '\'' then .single else if c = '"' then .double else .bare) rest

-- The cases of the theorem below ask for these equations together, so they are made first.
attribute [grind =] ansiBodies

/-- The first control escape of a command whose letter names no control character. -/
def firstUnnamed? (region : Region) (s : List Char) : Option Char :=
  ((ansiBodies region s).flatMap controlLetters).find? (!namesControl ·)

variable {region region' : Region} {s' : List Char}

theorem expandFrom_eq_error_of_step {f : List Char → List Char}
    (hexpand : expandFrom region s = f <$> expandFrom region' s')
    (hbodies : ansiBodies region s = ansiBodies region' s')
    (ih : expandFrom region' s' = .error (.control d) ↔ firstUnnamed? region' s' = some d) :
    expandFrom region s = .error (.control d) ↔ firstUnnamed? region s = some d := by
  rw [hexpand, map_eq_error_iff, ih, firstUnnamed?, firstUnnamed?, hbodies]

theorem expandFrom_eq_error_of_eq (hexpand : expandFrom region s = expandFrom region' s')
    (hbodies : ansiBodies region s = ansiBodies region' s')
    (ih : expandFrom region' s' = .error (.control d) ↔ firstUnnamed? region' s' = some d) :
    expandFrom region s = .error (.control d) ↔ firstUnnamed? region s = some d :=
  expandFrom_eq_error_of_step (hexpand.trans (id_map _).symm) hbodies ih

theorem expandFrom_eq_error (region : Region) : expandFrom region s = .error (.control d) ↔
    firstUnnamed? region s = some d := by
  induction region, s using expandFrom.induct with
  | case1 body => simp [expandFrom, firstUnnamed?, ansiBodies]
  | case2 region h => cases region <;> simp_all [expandFrom, firstUnnamed?, ansiBodies]
  | case3 body => simp [expandFrom, firstUnnamed?, ansiBodies]
  | case4 body c rest ih =>
    exact expandFrom_eq_error_of_eq (by simp [expandFrom]) (by simp [ansiBodies]) ih
  | case5 body rest hc ih =>
    have hbodies :
        ansiBodies (.ansi body) ('\'' :: rest) = body.reverse :: ansiBodies .bare rest := by
      cases rest <;> simp [ansiBodies]
    rw [expandFrom_ansi_end, bind_eq_error_iff, firstUnnamed?, hbodies, List.flatMap_cons,
      List.find?_append, decodeFrom_eq_error, List.drop_zero]
    cases hdecode : decodeFrom 0 body.reverse with
    | error e =>
      obtain ⟨d', hd, rfl⟩ := (decodeFrom_eq_error 0).1 hdecode
      rw [List.drop_zero] at hd
      simp [hd, eq_comm]
    | ok text =>
      have hnone : (controlLetters body.reverse).find? (!namesControl ·) = none := by
        rw [Option.eq_none_iff_forall_ne_some]
        intro d' hd
        have := (decodeFrom_eq_error 0).2 ⟨d', hd, rfl⟩
        simp [hdecode] at this
      simp only [hnone, Option.none_or, reduceCtorEq, false_and, exists_false, false_or,
        Except.ok.injEq, exists_eq_left', map_eq_error_iff]
      exact ih
  | case6 body c rest hc hquote ih =>
    refine expandFrom_eq_error_of_eq (expandFrom_ansi body hquote hc) ?_ ih
    cases rest <;> simp [ansiBodies, hc, hquote]
  | case7 c rest ih => exact expandFrom_eq_error_of_step rfl rfl ih
  | case8 => simp [expandFrom, firstUnnamed?, ansiBodies]
  | case9 c rest ih =>
    exact expandFrom_eq_error_of_step (f := ('\\' :: c :: ·)) (by simp [expandFrom])
      (by simp [ansiBodies]) ih
  | case10 c rest hc ih =>
    refine expandFrom_eq_error_of_step (expandFrom_double hc) ?_ ih
    cases rest <;> simp [ansiBodies, hc]
  | case11 rest ih => exact expandFrom_eq_error_of_eq (by rw [expandFrom]) (by rw [ansiBodies]) ih
  | case12 => simp [expandFrom, firstUnnamed?, ansiBodies]
  | case13 c rest hd ih =>
    exact expandFrom_eq_error_of_step (f := ('\\' :: c :: ·)) (by simp [expandFrom])
      (by simp [ansiBodies]) ih
  | case14 c rest hd hc ih =>
    refine expandFrom_eq_error_of_step (expandFrom_bare hc hd) ?_ ih
    cases rest with
    | nil => simp [ansiBodies, hc]
    | cons d rest =>
      rw [ansiBodies, if_neg hc]
      exact hd

end Bodies

theorem arguments_eq_ansi {command : String} : Shell.arguments command = .error (.ansi e) ↔
    expandFrom .bare (joinLines (Text.trim command).toList) = .error e := by
  unfold Shell.arguments
  simp only
  split
  · rename_i hnil
    rw [hnil]
    exact ⟨nofun, nofun⟩
  · cases hexpand : expandFrom .bare (joinLines (Text.trim command).toList) with
    | error e' => simp [Except.mapError, bind, Except.bind]
    | ok expanded =>
      -- What comes behind the expansion fails in other ways.
      simp only [reduceCtorEq, iff_false, Except.mapError, bind, Except.bind]
      cases wordsFrom .between expanded with
      | error e' => nofun
      | ok words =>
        simp only
        split
        · nofun
        · split <;> nofun

/-- Reading a command gives arguments, or fails with words for it, unless the letter of a control
escape in one of the command's `$'...'` strings names no control character. -/
theorem arguments_foreseen (command : String) :
    (((∃ arguments, Shell.arguments command = .ok arguments) ∨
      ∃ e, Shell.arguments command = .error e ∧ (Failure.command e).isUnforeseen = false) ↔
    ∀ body ∈ ansiBodies .bare (joinLines (Text.trim command).toList),
      ∀ c ∈ controlLetters body, namesControl c = true) ∧
    ∀ d, Shell.arguments command = .error (.ansi (.control d)) ↔
      firstUnnamed? .bare (joinLines (Text.trim command).toList) = some d := by
  have hcontrol (d : Char) : Shell.arguments command = .error (.ansi (.control d)) ↔
      firstUnnamed? .bare (joinLines (Text.trim command).toList) = some d :=
    arguments_eq_ansi.trans (expandFrom_eq_error .bare)
  refine ⟨?_, hcontrol⟩
  have hnone : (∀ body ∈ ansiBodies .bare (joinLines (Text.trim command).toList),
      ∀ c ∈ controlLetters body, namesControl c = true) ↔
      firstUnnamed? .bare (joinLines (Text.trim command).toList) = none := by
    simp [firstUnnamed?, List.find?_eq_none]
  rw [hnone, Option.eq_none_iff_forall_ne_some]
  simp only [Ne, ← hcontrol]
  cases Shell.arguments command with
  | ok arguments => simp
  | error e =>
    constructor
    · rintro (⟨arguments, h⟩ | ⟨_, ⟨⟩, he⟩) d hd
      · cases h
      · cases hd
        cases he
    · intro h
      refine .inr ⟨e, rfl, ?_⟩
      unfold Failure.isUnforeseen
      split <;> simp_all

theorem arguments_unforeseen :
    Shell.arguments "curl $'\\cß'" = .error (.ansi (.control 'ß')) ∧
      (Failure.command (.ansi (.control 'ß'))).isUnforeseen = true :=
  ⟨by decide +kernel, rfl⟩

end CurlScribe.Shell
