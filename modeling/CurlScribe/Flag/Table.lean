import CurlScribe.Flag.Basic
import CurlScribe.Text.Basic
import CurlScribe.Text.Quoted

/-!
Tables of flags. No two claims of a table's flags are the same and short names are single letters,
so a spelling belongs to at most one flag.
-/

namespace CurlScribe

namespace FlagTable

inductive Conflict
  | duplicateName (name : String)
  | long (word first second : String)
  | notALetter (name : String)
  | short (letter first second : String)
  deriving DecidableEq

def Conflict.message : Conflict → String
  | .duplicateName name => "duplicate option name: " ++ name
  | .long word first second => "--" ++ word ++ " is claimed by both " ++ first ++ " and " ++ second
  | .notALetter name => "short option must be one character: " ++ Text.shown name
  | .short letter first second =>
    "-" ++ letter ++ " is claimed by both " ++ first ++ " and " ++ second

def Conflict.between (first second : String) : Flag.Claim → Conflict
  | .name name => .duplicateName name
  | .long word => .long word first second
  | .short letter => .short letter first second

def shortFault? : Flag.Claim → Option Conflict
  | .short s => if s.length = 1 then none else some (.notALetter s)
  | _ => none

def conflictsFrom (made : List (Flag.Claim × String)) :
    List (Flag.Claim × String) → List Conflict
  | [] => []
  | (claim, owner) :: rest =>
    (shortFault? claim).toList
      ++ ((made.lookup claim).map (Conflict.between · owner claim)).toList
      ++ conflictsFrom ((claim, owner) :: made) rest

def ownedClaims (flags : List Flag) : List (Flag.Claim × String) :=
  flags.flatMap fun f => f.claims.map (·, f.name)

def conflicts (flags : List Flag) : List Conflict := conflictsFrom [] (ownedClaims flags)

theorem conflictsFrom_eq_nil {made claims : List (Flag.Claim × String)} :
    conflictsFrom made claims = [] ↔
      (∀ c ∈ claims, shortFault? c.1 = none) ∧ (∀ c ∈ claims, made.lookup c.1 = none)
        ∧ (claims.map (·.1)).Nodup := by
  induction claims generalizing made with
  | nil => simp [conflictsFrom]
  | cons c rest ih =>
    obtain ⟨claim, owner⟩ := c
    simp only [conflictsFrom, List.append_eq_nil_iff, Option.toList_eq_nil_iff,
      Option.map_eq_none_iff, ih, List.lookup_cons, List.forall_mem_cons, List.map_cons,
      List.nodup_cons]
    grind

@[simp] theorem map_fst_ownedClaims (flags : List Flag) :
    (ownedClaims flags).map (·.1) = flags.flatMap Flag.claims := by
  simp [ownedClaims, List.map_flatMap, Function.comp_def]

theorem conflicts_eq_nil {flags : List Flag} :
    conflicts flags = [] ↔
      (∀ c ∈ flags.flatMap Flag.claims, shortFault? c = none)
        ∧ (flags.flatMap Flag.claims).Nodup := by
  rw [conflicts, conflictsFrom_eq_nil, ← map_fst_ownedClaims, List.forall_mem_map]
  simp only [List.lookup_nil, implies_true, true_and]

def distinctFrom (seen : Nat) : List Nat → Bool
  | [] => true
  | n :: rest => !seen.testBit n && distinctFrom (seen ||| 1 <<< n) rest

theorem nodup_of_distinctFrom {seen : Nat} {numbers : List Nat}
    (h : distinctFrom seen numbers = true) :
    numbers.Nodup ∧ ∀ n ∈ numbers, seen.testBit n = false := by
  induction numbers generalizing seen with
  | nil => simp
  | cons n rest ih =>
    simp only [distinctFrom, Bool.and_eq_true, Bool.not_eq_true'] at h
    obtain ⟨hnodup, hseen⟩ := ih h.2
    have hrest : ∀ m ∈ rest, n ≠ m ∧ seen.testBit m = false := by
      intro m hm
      have := hseen m hm
      simp only [Nat.testBit_or, Nat.one_shiftLeft, Nat.testBit_two_pow, Bool.or_eq_false_iff,
        decide_eq_false_iff_not] at this
      exact ⟨this.2, this.1⟩
    exact ⟨List.nodup_cons.2 ⟨fun hm => (hrest n hm).1 rfl, hnodup⟩,
      List.forall_mem_cons.2 ⟨h.1, fun m hm => (hrest m hm).2⟩⟩

def hash (s : String) : Nat :=
  s.toByteArray.data.toList.foldl (fun n b => n * 256 + b.toNat) 1 % 65521

def claimHash : Flag.Claim → Nat
  | .name s => 3 * hash s
  | .long s => 3 * hash s + 1
  | .short s => 3 * hash s + 2

/-- Claims with different hashes are seen to differ without comparing each with all others. -/
theorem conflicts_eq_nil_of_hashes {flags : List Flag}
    (letters : ∀ c ∈ flags.flatMap Flag.claims, shortFault? c = none)
    (hashes : distinctFrom 0 ((flags.flatMap Flag.claims).map claimHash) = true) :
    conflicts flags = [] :=
  conflicts_eq_nil.2 ⟨letters, List.Pairwise.of_map claimHash
    (fun _ _ => mt (congrArg claimHash)) (nodup_of_distinctFrom hashes).1⟩

theorem conflicts_append {flags more : List Flag} (h : conflicts flags = [])
    (h' : conflicts more = [])
    (apart : ∀ c ∈ more.flatMap Flag.claims, c ∉ flags.flatMap Flag.claims) :
    conflicts (flags ++ more) = [] := by
  rw [conflicts_eq_nil] at *
  rw [List.flatMap_append]
  refine ⟨fun c hc => (List.mem_append.1 hc).elim (h.1 c) (h'.1 c), ?_⟩
  exact List.nodup_append.2 ⟨h.2, h'.2, fun a ha b hb e => apart b hb (e ▸ ha)⟩

end FlagTable

structure FlagTable where
  flags : List Flag
  noConflict : FlagTable.conflicts flags = []

namespace FlagTable

def ofFlags (flags : List Flag) : Except Conflict FlagTable :=
  match h : conflicts flags with
  | [] => .ok ⟨flags, h⟩
  | c :: _ => .error c

def extend (t : FlagTable) (more : List Flag) : Except Conflict FlagTable :=
  ofFlags (t.flags ++ more)

def find? (t : FlagTable) (name : String) : Option Flag := t.flags.find? (·.name = name)

def long? (t : FlagTable) (word : String) : Option Flag := t.flags.find? (·.long.contains word)

def short? (t : FlagTable) (letter : String) : Option Flag :=
  t.flags.find? (·.short.contains letter)

inductive Completion
  | none
  | unique (word : String) (flag : Flag)
  | ambiguous (candidates : List String)

def completions (t : FlagTable) (word : String) : List (String × Flag) :=
  ((t.flags.flatMap fun f => f.long.map (·, f)).filter (Text.startsWith word ·.1)).mergeSort
    (·.1 ≤ ·.1)

/-- A beginning of several names is ambiguous unless they all are names of one flag that mean the
same. -/
def complete (t : FlagTable) (word : String) : Completion :=
  if word = "" then .none
  else
    match t.completions word with
    | [] => .none
    | [(long, f)] => .unique long f
    | (long, f) :: rest =>
      if rest.any (·.2.name ≠ f.name) || f.switches ≠ [] then
        .ambiguous (long :: rest.map (·.1))
      else .unique long f

end FlagTable

end CurlScribe
