import CurlScribe.Text.Quoted
import Mathlib.Tactic.SplitIfs

namespace CurlScribe.Text

/-- Where a reader of a literal is: between two characters, behind a backslash, or in an escape of
hexadecimal digits, with how many are to come after the next one and the number so far. -/
inductive ShownMode
  | plain
  | backslash
  | digits (left value : Nat)

def digitsAfter? : Char → Option Nat
  | 'x' => some 1
  | 'u' => some 3
  | 'U' => some 7
  | _ => none

def shownEscape? : Char → Option Char
  | '\\' => some '\\'
  | '\'' => some '\''
  | '"' => some '"'
  | 't' => some '\t'
  | 'n' => some '\n'
  | 'r' => some '\r'
  | _ => none

def charOf? (n : Nat) : Option Char := if n.isValidChar then some (.ofNat n) else none

def behind (c : Char) (read : Option (List Char × List Char)) : Option (List Char × List Char) :=
  read.map fun (s, after) => (c :: s, after)

def shownFrom (q : Char) : ShownMode → List Char → Option (List Char × List Char)
  | _, [] => none
  | .plain, c :: rest =>
    if c = q then some ([], rest)
    else if c = '\\' then shownFrom q .backslash rest
    else if c = '\n' ∨ c = '\r' then none
    else behind c (shownFrom q .plain rest)
  | .backslash, c :: rest =>
    match digitsAfter? c with
    | some left => shownFrom q (.digits left 0) rest
    | none => do
      let d ← shownEscape? c
      behind d (shownFrom q .plain rest)
  | .digits left value, c :: rest => do
    let digit ← hexValue? c
    match left with
    | 0 => do
      let d ← charOf? (16 * value + digit)
      behind d (shownFrom q .plain rest)
    | left + 1 => shownFrom q (.digits left (16 * value + digit)) rest

def readShown : List Char → Option (List Char × List Char)
  | [] => none
  | q :: rest => if q = '\'' ∨ q = '"' then shownFrom q .plain rest else none

variable {q c : Char}

theorem shownFrom_escape {d : Char} (hdigits : digitsAfter? c = none)
    (hescape : shownEscape? c = some d) (rest : List Char) (hq : q ≠ '\\') :
    shownFrom q .plain ('\\' :: c :: rest) = behind d (shownFrom q .plain rest) := by
  rw [shownFrom, if_neg (Ne.symm hq), if_pos rfl, shownFrom, hdigits, hescape]
  rfl

theorem shownFrom_digits {digits : List Char} (hdigits : ∀ d ∈ digits, isHex d = true)
    (value : Nat) (h : digits ≠ []) (rest : List Char) :
    shownFrom q (.digits (digits.length - 1) value) (digits ++ rest) =
      (charOf? (digits.foldl (fun n d => 16 * n + (hexValue? d).getD 0) value)).bind
        fun d => behind d (shownFrom q .plain rest) := by
  induction digits generalizing value with
  | nil => exact absurd rfl h
  | cons d digits ih =>
    obtain ⟨n, hn⟩ := Option.isSome_iff_exists.1 (hdigits d List.mem_cons_self)
    cases digits with
    | nil => simp [shownFrom, hn]
    | cons e digits =>
      have hrest := ih (fun e he => hdigits e (List.mem_cons_of_mem _ he)) (16 * value + n) nofun
      simp only [List.length_cons, Nat.add_sub_cancel, List.cons_append, List.foldl_cons]
        at hrest ⊢
      rw [shownFrom, hn]
      simpa using hrest

theorem charOf?_toNat (c : Char) : charOf? c.toNat = some c := by
  have hvalid : c.toNat.isValidChar := c.valid
  rw [charOf?, if_pos hvalid, Char.ofNat_toNat]

theorem shownFrom_hex {letter : Char} {left : Nat} (hletter : digitsAfter? letter = some left)
    (hc : c.toNat < Nat.pow 16 (left + 1)) (hq : q ≠ '\\') (rest : List Char) :
    shownFrom q .plain ('\\' :: letter :: (hex (left + 1) c.toNat ++ rest)) =
      behind c (shownFrom q .plain rest) := by
  have hlength : left = (hex (left + 1) c.toNat).length - 1 := by simp
  have hne : hex (left + 1) c.toNat ≠ [] := by
    rw [← List.length_pos_iff, length_hex]
    omega
  have hdigits := shownFrom_digits (q := q) isHex_of_mem_hex 0 hne rest
  rw [← ofHex, ofHex_hex hc, charOf?_toNat, ← hlength] at hdigits
  rw [shownFrom, if_neg (Ne.symm hq), if_pos rfl, shownFrom, hletter]
  exact hdigits

theorem shownFrom_shownChar (hq : q = '\'' ∨ q = '"') (c : Char) (rest : List Char) :
    shownFrom q .plain (shownChar q c ++ rest) = behind c (shownFrom q .plain rest) := by
  have hbackslash : q ≠ '\\' := by rcases hq with rfl | rfl <;> decide
  unfold shownChar
  by_cases hmark : c = q ∨ c = '\\'
  · have hletter : digitsAfter? c = none ∧ shownEscape? c = some c := by
      rcases hq with rfl | rfl <;> rcases hmark with rfl | rfl <;> decide
    have hread := shownFrom_escape hletter.1 hletter.2 rest hbackslash
    simpa [hmark] using hread
  · rw [if_neg (by simpa using hmark)]
    by_cases htab : c = '\t'
    · subst htab
      exact shownFrom_escape rfl rfl rest hbackslash
    by_cases hfeed : c = '\n'
    · subst hfeed
      exact shownFrom_escape rfl rfl rest hbackslash
    by_cases hreturn : c = '\r'
    · subst hreturn
      exact shownFrom_escape rfl rfl rest hbackslash
    rw [if_neg htab, if_neg hfeed, if_neg hreturn]
    rw [not_or] at hmark
    split
    · simp [shownFrom, hmark, hfeed, hreturn]
    · have hc := toNat_lt c
      split
      · exact shownFrom_hex rfl (by omega) hbackslash rest
      · split
        · exact shownFrom_hex rfl (by omega) hbackslash rest
        · exact shownFrom_hex rfl (by simp; omega) hbackslash rest

theorem shownFrom_flatMap (hq : q = '\'' ∨ q = '"') (s rest : List Char) :
    shownFrom q .plain (s.flatMap (shownChar q) ++ q :: rest) = some (s, rest) := by
  induction s with
  | nil => simp [shownFrom]
  | cons c s ih =>
    rw [List.flatMap_cons, List.append_assoc, shownFrom_shownChar hq, ih]
    rfl

theorem quoteMark_eq (s : List Char) : quoteMark s = '\'' ∨ quoteMark s = '"' := by
  unfold quoteMark
  split <;> simp

theorem readShown_shown (s : String) (rest : List Char) :
    readShown ((shown s).toList ++ rest) = some (s.toList, rest) := by
  have hmark := quoteMark_eq s.toList
  rw [shown, String.toList_ofList, shownList, List.cons_append, List.cons_append, readShown,
    if_pos hmark, List.append_assoc]
  exact shownFrom_flatMap hmark s.toList rest

theorem newline_not_mem_shown (s : String) : '\n' ∉ (shown s).toList := by
  have hmark := quoteMark_eq s.toList
  rw [shown, String.toList_ofList, shownList]
  generalize quoteMark s.toList = q at hmark ⊢
  have hq : '\n' ≠ q := by rcases hmark with rfl | rfl <;> decide
  have hhex {k n : Nat} : '\n' ∉ hex k n := fun hmem =>
    absurd (isHex_of_mem_hex _ hmem) (by decide)
  have hchar (c : Char) : '\n' ∉ shownChar q c := by
    unfold shownChar
    split_ifs with hmarked htab hfeed <;> simp [hhex]
    · rintro rfl
      simp [hq] at hmarked
    · exact Ne.symm hfeed
  simp [hq, hchar]

end CurlScribe.Text
