import CurlScribe.Conversion
import CurlScribe.Proofs.Arguments.Failure
import Mathlib

namespace CurlScribe.Arguments

open Noted

variable {α β : Type}

def Fault.IsKnown (f : Fault) : Prop := ∀ spelling, f ≠ .unknown spelling

/-- A strict and a lenient reading of the same. They are one, in which no unknown flag is a fault,
or the strict one fails at an unknown flag that the lenient one passes over. -/
inductive Tolerates : Noted Event Fault α → Noted Event Fault α → Prop
  | together {x} (fault : FailsOnly Fault.IsKnown x) : Tolerates x x
  | apart {notes spelling later result} :
      Tolerates ⟨notes, .error (.unknown spelling)⟩
        ⟨notes ++ .notice (.unknown spelling) :: later, result⟩

namespace Tolerates

theorem done (notes : List Event) (a : α) : Tolerates ⟨notes, .ok a⟩ ⟨notes, .ok a⟩ :=
  together .done

theorem failed (notes : List Event) {f : Fault} (h : f.IsKnown) :
    Tolerates (⟨notes, .error f⟩ : Noted Event Fault α) ⟨notes, .error f⟩ :=
  together (.failed h)

theorem bind {x y : Noted Event Fault α} {f g : α → Noted Event Fault β} (hx : Tolerates x y)
    (hf : ∀ a, Tolerates (f a) (g a)) : Tolerates (x >>= f) (y >>= g) := by
  cases hx with
  | together fault =>
    rcases x with ⟨notes, e | a⟩
    · exact failed notes (fault e rfl)
    · rw [bind_ok, bind_ok]
      have hrest := hf a
      generalize f a = strict at hrest
      generalize g a = lenient at hrest
      cases hrest with
      | together fault => exact together fault
      | apart =>
        rw [← List.append_assoc]
        exact apart
  | @apart notes spelling later result =>
    rcases result with e | a
    · exact apart
    · rw [bind_error, bind_ok, List.append_assoc, List.cons_append]
      exact apart

end Tolerates

section Reading

theorem store_tolerates (f : Flag) (spelling : String) (given : Setting) :
    Tolerates (store f spelling given) (store f spelling given) := by
  refine .bind (.done _ _) fun _ => .bind (.together ?_) fun _ => .done _ _
  intro fault h
  rw [setting_error h]
  rintro _ ⟨⟩

theorem unknown_tolerates (spelling : String) :
    Tolerates (unknown false spelling) (unknown true spelling) :=
  @Tolerates.apart _ [] spelling [] (.ok ())

theorem long_tolerates (t : FlagTable) (word : String) (value : Option String) :
    Tolerates (long t false word value) (long t true word value) := by
  refine .bind (.together ?_) fun hit => ?_
  · intro f h
    obtain ⟨candidates, rfl⟩ := resolve_error h
    rintro _ ⟨⟩
  · rcases hit with _ | ⟨⟨f, spelling⟩, negated⟩
    · exact .bind (unknown_tolerates _) fun _ => .done _ _
    · dsimp only
      split
      · cases value with
        | none => exact .done _ _
        | some text => exact .bind (store_tolerates _ _ _) fun _ => .done _ _
      · split
        · exact .failed _ (by rintro _ ⟨⟩)
        · exact .bind (store_tolerates _ _ _) fun _ => .done _ _

theorem cluster_tolerates (t : FlagTable) (letters : List Char) :
    Tolerates (cluster t false letters) (cluster t true letters) := by
  induction letters with
  | nil => exact .done _ _
  | cons c rest ih =>
    rw [cluster, cluster]
    split
    · exact .bind (unknown_tolerates _) fun _ => ih
    · split
      · split
        · exact .done _ _
        · exact .bind (store_tolerates _ _ _) fun _ => .done _ _
      · exact .bind (store_tolerates _ _ _) fun _ => ih

theorem digest_tolerates (t : FlagTable) (token : String) :
    Tolerates (digest t false token) (digest t true token) := by
  unfold digest
  split
  · exact long_tolerates t _ _
  · exact cluster_tolerates t _
  · split
    · exact .bind (store_tolerates _ _ _) fun _ => .done _ _
    · exact .done _ _
  · exact .done _ _

theorem scan_tolerates (t : FlagTable) (tokens : List String) :
    Tolerates (scan t false tokens) (scan t true tokens) := by
  induction tokens using scan.induct with
  | case1 => exact .done _ _
  | case2 rest =>
    rw [scan_terminator, scan_terminator]
    exact .done _ _
  | case3 token rest hne ih ihValue =>
    rw [scan, scan, if_neg hne, if_neg hne]
    refine .bind (digest_tolerates t token) fun waiting => ?_
    rcases waiting with _ | ⟨f, spelling⟩
    · exact ih
    · cases rest with
      | nil => exact .failed _ (by rintro _ ⟨⟩)
      | cons value rest => exact .bind (store_tolerates _ _ _) fun _ => ihValue

end Reading

section Parsed

theorem parse_cases (t : FlagTable) (tokens : List String) :
    (parse t false tokens = parse t true tokens ∧ FailsOnly Fault.IsKnown (parse t true tokens)) ∨
    ∃ notices spelling later,
      parse t false tokens = ⟨notices, .error (.unknown spelling)⟩ ∧
      (parse t true tokens).notes = notices ++ .unknown spelling :: later := by
  have hscan := scan_tolerates t tokens
  unfold parse
  generalize scan t false tokens = strict at hscan
  generalize scan t true tokens = lenient at hscan
  cases hscan with
  | together fault =>
    refine .inl ⟨rfl, ?_⟩
    intro f hf
    rcases bind_eq_error_iff.1 hf with hf | ⟨-, -, hf⟩
    · exact fault f hf
    · split at hf
      · cases hf
        rintro _ ⟨⟩
      · cases hf
  | @apart events spelling later result =>
    refine .inr ⟨events.filterMap Event.notice?, spelling, later.filterMap Event.notice?, rfl, ?_⟩
    exact List.filterMap_append

/-- Tolerance for unknown flags adds nothing else. What is read without it is read in the same way
with it, any other fault stays, and where an unknown flag is the fault there is its warning behind
the warnings until then. -/
theorem parse_lenient (t : FlagTable) (tokens : List String) :
    (∀ notices a, parse t false tokens = ⟨notices, .ok a⟩ →
      parse t true tokens = ⟨notices, .ok a⟩) ∧
    (∀ notices a, parse t true tokens = ⟨notices, .ok a⟩ →
      (∀ n ∈ notices, (Warning.arguments n).kind ≠ .unknownFlag) →
      parse t false tokens = ⟨notices, .ok a⟩) ∧
    (∀ notices f, parse t false tokens = ⟨notices, .error f⟩ →
      (∀ spelling, f ≠ .unknown spelling) → parse t true tokens = ⟨notices, .error f⟩) ∧
    ∀ notices spelling, parse t false tokens = ⟨notices, .error (.unknown spelling)⟩ →
      ∃ n later, (parse t true tokens).notes = notices ++ n :: later ∧
        (Warning.arguments n).kind = .unknownFlag ∧
        (Warning.arguments n).message = (Fault.unknown spelling).message := by
  rcases parse_cases t tokens with ⟨heq, hfault⟩ | ⟨notices, spelling, later, hstrict, hlenient⟩
  · rw [heq]
    refine ⟨fun _ _ h => h, fun _ _ h _ => h, fun _ _ h _ => h, fun notices spelling h => ?_⟩
    exact absurd rfl (hfault (.unknown spelling) (congrArg result h) spelling)
  · rw [hstrict]
    refine ⟨?_, fun given a h hknown => ?_, ?_, ?_⟩
    · rintro _ _ ⟨⟩
    · rw [h] at hlenient
      obtain rfl : given = notices ++ .unknown spelling :: later := hlenient
      exact absurd rfl (hknown (.unknown spelling) (by simp))
    · rintro _ _ ⟨⟩ hknown
      exact absurd rfl (hknown spelling)
    · rintro _ _ ⟨⟩
      exact ⟨.unknown spelling, later, hlenient, rfl, rfl⟩

theorem parse_lenient_cluster : ∃ a,
    parse .curl true ["--ftp-ssl", "h"] =
      ⟨[.deprecated "--ftp-ssl is deprecated, use --ssl"], .ok a⟩ ∧
    parse .curl false ["--ftp-ssl", "h"] =
      ⟨[.deprecated "--ftp-ssl is deprecated, use --ssl"], .ok a⟩ ∧
    parse .program true ["--sslv2", "-H"] =
      ⟨[.deprecated "--sslv2 has no effect"], .error (.missingValue "-H")⟩ ∧
    ∃ n later, (parse .curl true ["-2s!X"]).notes = .deprecated "-2 has no effect" :: n :: later ∧
      (Warning.arguments n).kind = .unknownFlag ∧
      (Warning.arguments n).message = "option -!: is unknown" := by
  let a : Arguments := ⟨[⟨"ssl", false, .toggle true⟩], ["h"]⟩
  let remark : Notice := .deprecated "--ftp-ssl is deprecated, use --ssl"
  have hstrict : parse .curl false ["--ftp-ssl", "h"] = ⟨[remark], .ok a⟩ := by cbv
  have hlenient : parse .curl true ["--ftp-ssl", "h"] = ⟨[remark], .ok a⟩ :=
    (parse_lenient .curl _).1 _ _ hstrict
  have hfault : parse .program false ["--sslv2", "-H"] =
      ⟨[.deprecated "--sslv2 has no effect"], .error (.missingValue "-H")⟩ := by cbv
  have hunknown : parse .curl false ["-2s!X"] =
      ⟨[.deprecated "-2 has no effect"], .error (.unknown "-!")⟩ := by cbv
  obtain ⟨n, later, hnotes, hkind, hmessage⟩ := (parse_lenient .curl _).2.2.2 _ _ hunknown
  refine ⟨a, hlenient, ?_, ?_, n, later, hnotes, hkind, hmessage.trans rfl⟩
  · exact (parse_lenient .curl _).2.1 _ _ hlenient (by decide)
  · exact (parse_lenient .program _).2.2.1 _ _ hfault (by rintro _ ⟨⟩)

end Parsed

end CurlScribe.Arguments
