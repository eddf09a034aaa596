import CurlScribe.Arguments.Scan

/-!
Reading one part of a command after the other. A scan goes step by step, so where it comes to the
end of some tokens without having met a `--`, it goes on behind them as if it had started there.
-/

namespace CurlScribe.Arguments

variable {t : FlagTable} {lenient : Bool} {a b : List String}

def step (t : FlagTable) (lenient : Bool) (token : String) (rest : List String) :
    Noted Event Fault (List String) := do
  match ← digest t lenient token with
  | none => return rest
  | some ⟨f, spelling⟩ =>
    match rest with
    | [] => .fail (.missingValue spelling)
    | value :: rest => do
      store f spelling (.word value)
      return rest

theorem scan_cons {token : String} {rest : List String} (h : token ≠ "--") :
    scan t lenient (token :: rest) = step t lenient token rest >>= scan t lenient := by
  rw [scan, if_neg h, step, bind_assoc]
  congr 1
  funext waiting
  cases waiting with
  | none => rw [pure_bind]
  | some s =>
    cases rest with
    | nil => rfl
    | cons value rest => simp only [bind_assoc, pure_bind]

theorem scan_terminator (rest : List String) :
    scan t lenient ("--" :: rest) = .note (rest.map .operand) := by
  rw [scan, if_pos rfl]

section Digest

variable {token other value : String} {rest : List String} {x : Noted Event Fault Unit}

theorem scan_of_digest_eq (hne : token ≠ "--") (hne' : other ≠ "--")
    (h : digest t lenient token = x >>= fun _ => digest t lenient other) :
    scan t lenient (token :: rest) = x >>= fun _ => scan t lenient (other :: rest) := by
  rw [scan_cons hne, scan_cons hne', step, step, h]
  simp only [bind_assoc]

theorem scan_of_done (hne : token ≠ "--") (h : digest t lenient token = x >>= fun _ => return none) :
    scan t lenient (token :: rest) = x >>= fun _ => scan t lenient rest := by
  rw [scan_cons hne, step, h]
  simp only [bind_assoc, pure_bind]

theorem scan_of_waiting {s : Spelled} (hne : token ≠ "--")
    (h : digest t lenient token = return some s) :
    scan t lenient (token :: value :: rest) =
      store s.flag s.spelling (.word value) >>= fun _ => scan t lenient rest := by
  rw [scan_cons hne, step, h]
  simp only [bind_assoc, pure_bind]

end Digest

theorem step_eq_ok {token : String} {rest behind : List String} {notes : List Event} :
    step t lenient token rest = ⟨notes, .ok behind⟩ ↔
      (digest t lenient token = ⟨notes, .ok none⟩ ∧ rest = behind) ∨
      ∃ s value taken stored, digest t lenient token = ⟨taken, .ok (some s)⟩ ∧
        rest = value :: behind ∧ store s.flag s.spelling (.word value) = ⟨stored, .ok ()⟩ ∧
        notes = taken ++ stored := by
  rw [step, Noted.bind_eq_ok]
  constructor
  · rintro ⟨taken, waiting, second, hd, hs, rfl⟩
    cases waiting with
    | none => simp_all
    | some s =>
      cases rest with
      | nil => simp at hs
      | cons value rest =>
        obtain ⟨stored, ⟨⟩, last, hstore, hpure, rfl⟩ := Noted.bind_eq_ok.1 hs
        obtain ⟨rfl, rfl⟩ : last = [] ∧ rest = behind := by simpa [eq_comm] using hpure
        exact .inr ⟨s, value, taken, stored, hd, rfl, hstore, by simp⟩
  · rintro (⟨hd, rfl⟩ | ⟨s, value, taken, stored, hd, rfl, hs, rfl⟩)
    · exact ⟨notes, none, [], hd, by simp, by simp⟩
    · exact ⟨taken, some s, stored, hd, by simp [hs], rfl⟩

theorem step_append {token : String} {rest behind : List String} {notes : List Event}
    (h : step t lenient token rest = ⟨notes, .ok behind⟩) (more : List String) :
    step t lenient token (rest ++ more) = ⟨notes, .ok (behind ++ more)⟩ := by
  rw [step_eq_ok] at h ⊢
  rcases h with ⟨hd, rfl⟩ | ⟨s, value, taken, stored, hd, rfl, hs, rfl⟩
  · exact .inl ⟨hd, rfl⟩
  · exact .inr ⟨s, value, taken, stored, hd, rfl, hs, rfl⟩

/-- What holds of no tokens and of those behind a `--`, and of some tokens if it holds of those
that a step leaves, holds of all tokens. -/
theorem step_induction (t : FlagTable) (lenient : Bool) {motive : List String → Prop}
    (nil : motive [])
    (terminator : ∀ rest, motive ("--" :: rest))
    (step : ∀ token rest, token ≠ "--" →
      (∀ notes behind, step t lenient token rest = ⟨notes, .ok behind⟩ → motive behind) →
      motive (token :: rest))
    (tokens : List String) : motive tokens := by
  induction tokens using scan.induct with
  | case1 => exact nil
  | case2 rest => exact terminator rest
  | case3 token rest hne ih ihValue =>
    apply step token rest hne
    intro notes behind h
    rcases step_eq_ok.1 h with ⟨-, rfl⟩ | ⟨s, value, taken, stored, -, rfl, -, -⟩
    · exact ih
    · exact ihValue

/-- Whether a scan of tokens comes to a `--` that ends the options. One that is taken as a value
does not end them. -/
def endsOptions (t : FlagTable) (lenient : Bool) : List String → Bool
  | [] => false
  | token :: rest =>
    token = "--" ||
      match (digest t lenient token).result, rest with
      | .ok none, rest => endsOptions t lenient rest
      | .ok (some _), _ :: rest => endsOptions t lenient rest
      | _, _ => false

@[simp] theorem endsOptions_nil : endsOptions t lenient [] = false := rfl

@[simp] theorem endsOptions_terminator (rest : List String) :
    endsOptions t lenient ("--" :: rest) = true := by
  rw [endsOptions.eq_def]
  simp

theorem endsOptions_cons {token : String} {rest behind : List String} {notes : List Event}
    (hne : token ≠ "--") (h : step t lenient token rest = ⟨notes, .ok behind⟩) :
    endsOptions t lenient (token :: rest) = endsOptions t lenient behind := by
  rcases step_eq_ok.1 h with ⟨hd, rfl⟩ | ⟨s, value, taken, stored, hd, rfl, -, -⟩
  · simp [endsOptions, hne, hd]
  · simp [endsOptions, hne, hd]

theorem scan_append (ok : (scan t lenient a).result = .ok ())
    (hopen : endsOptions t lenient a = false) (b : List String) :
    scan t lenient (a ++ b) = scan t lenient a >>= fun _ => scan t lenient b := by
  -- A step does not look at the tokens added behind those it leaves, and a `--` among its own
  -- tokens would be one among those it leaves.
  induction a using step_induction t lenient with
  | nil => rw [List.nil_append, scan, pure_bind]
  | terminator rest => simp at hopen
  | step token rest hne ih =>
    rcases hs : step t lenient token rest with ⟨notes, e | behind⟩
    · simp [scan_cons hne, hs] at ok
    · rw [endsOptions_cons hne hs] at hopen
      simp only [scan_cons hne, hs, Noted.bind_ok] at ok
      rw [List.cons_append, scan_cons hne, step_append hs, scan_cons hne, hs, bind_assoc,
        Noted.bind_ok, Noted.bind_ok, ih notes behind hs ok hopen]

end CurlScribe.Arguments
