import CurlScribe.Proofs.Shell.Layout
import CurlScribe.Proofs.Shell.OnePass

namespace CurlScribe.Shell

open Text

def isCoded (c : Char) : Bool :=
  c = '!' || c.toNat ≤ 0x1f || (0x7f ≤ c.toNat && c.toNat ≤ 0x9f)

/-- A character as it may be written in a `$'...'` string. The digits of a code may be of either
case. -/
inductive CharEncoded : Char → List Char → Prop
  | backslash : CharEncoded '\\' ['\\', '\\']
  | apostrophe : CharEncoded '\'' ['\\', '\'']
  | newline : CharEncoded '\n' ['\\', 'n']
  | carriageReturn : CharEncoded '\r' ['\\', 'r']
  | code {c digits} :
      isCoded c = true → c ≠ '\n' → c ≠ '\r' → digits.length = 4 →
        (∀ d ∈ digits, isHex d = true) → ofHex digits = c.toNat →
          CharEncoded c ('\\' :: 'u' :: digits)
  | plain {c} : isCoded c = false → c ≠ '\\' → c ≠ '\'' → CharEncoded c [c]

inductive Encoded : List Char → List Char → Prop
  | nil : Encoded [] []
  | cons {c piece s body} :
      CharEncoded c piece → Encoded s body → Encoded (c :: s) (piece ++ body)

def ansiStrings (bodies : List (List Char)) : List Char :=
  bodies.flatMap fun body => ' ' :: '$' :: '\'' :: (body ++ ['\''])

section Character

variable {c : Char} {piece digits body rest : List Char}

theorem exists_charEncoded (c : Char) : ∃ piece, CharEncoded c piece := by
  obtain rfl | hback := eq_or_ne c '\\'
  · exact ⟨_, .backslash⟩
  obtain rfl | hquote := eq_or_ne c '\''
  · exact ⟨_, .apostrophe⟩
  obtain rfl | hline := eq_or_ne c '\n'
  · exact ⟨_, .newline⟩
  obtain rfl | hreturn := eq_or_ne c '\r'
  · exact ⟨_, .carriageReturn⟩
  cases hcoded : isCoded c with
  | false => exact ⟨_, .plain hcoded hback hquote⟩
  | true =>
    have hsmall : c.toNat < Nat.pow 16 4 := by
      change _ < 65536
      simp only [isCoded, Bool.or_eq_true, Bool.and_eq_true, decide_eq_true_iff] at hcoded
      rcases hcoded with (rfl | h) | h
      · decide
      · omega
      · omega
    exact ⟨_, .code hcoded hline hreturn (length_hex ..) isHex_of_mem_hex (ofHex_hex hsmall)⟩

theorem ne_of_isHex {d : Char} (hc : isHex c = true) (hd : isHex d = false) : c ≠ d := by
  rintro rfl
  rw [hc] at hd
  cases hd

theorem decodeFrom_skip (s rest : List Char) : decodeFrom s.length (s ++ rest) = decodeFrom 0 rest := by
  induction s with
  | nil => rfl
  | cons c s ih => exact ih

theorem takeWhile_isHex_append (hdigits : ∀ d ∈ digits, isHex d = true) :
    ((digits ++ rest).take digits.length).takeWhile isHex = digits := by
  rw [List.take_left, List.takeWhile_eq_self_iff.2 hdigits]

theorem escape_code (hlength : digits.length = 4) (hdigits : ∀ d ∈ digits, isHex d = true)
    (hvalue : ofHex digits = c.toNat) :
    escape 'u' (digits ++ rest) = .ok ([c], digits.length) := by
  have hne : digits ≠ [] := by
    rintro rfl
    cases hlength
  have htake : ((digits ++ rest).take 4).takeWhile isHex = digits :=
    hlength ▸ takeWhile_isHex_append hdigits
  have hcode : codeEscape 'u' digits = [c] := by
    have hvalid : c.toNat.isValidChar := c.valid
    rw [codeEscape, hvalue, if_pos hvalid, Char.ofNat_toNat]
  simp only [escape, codeWidth?, htake, if_neg hne, hcode]

theorem CharEncoded.decodeFrom (h : CharEncoded c piece) (rest : List Char) :
    decodeFrom 0 (piece ++ rest) = (c :: ·) <$> decodeFrom 0 rest := by
  have hletter {d : Char} (h : escape d rest = .ok ([c], 0)) :
      Shell.decodeFrom 0 ('\\' :: d :: rest) = (c :: ·) <$> Shell.decodeFrom 0 rest :=
    decodeFrom_escape h
  cases h with
  | backslash => exact hletter rfl
  | apostrophe => exact hletter rfl
  | newline => exact hletter rfl
  | carriageReturn => exact hletter rfl
  | code hcoded hline hreturn hlength hdigits hvalue =>
    rw [List.cons_append, List.cons_append,
      decodeFrom_escape (escape_code hlength hdigits hvalue), decodeFrom_skip]
    rfl
  | plain hcoded hback hquote => exact decodeFrom_cons hback rest

theorem expandFrom_ansi_append (h : ∀ d ∈ piece, d ≠ '\'' ∧ d ≠ '\\') :
    expandFrom (.ansi body) (piece ++ rest) = expandFrom (.ansi (piece.reverse ++ body)) rest := by
  induction piece generalizing body with
  | nil => rfl
  | cons d piece ih =>
    obtain ⟨⟨hquote, hback⟩, hpiece⟩ := List.forall_mem_cons.1 h
    rw [List.cons_append, expandFrom_ansi body hquote hback, ih hpiece, List.reverse_cons,
      List.append_assoc]
    rfl

theorem expandFrom_ansi_escape (d : Char) (body rest : List Char) :
    expandFrom (.ansi body) ('\\' :: d :: rest) = expandFrom (.ansi (d :: '\\' :: body)) rest := by
  rw [expandFrom, if_pos rfl]

theorem CharEncoded.expandFrom (h : CharEncoded c piece) (body rest : List Char) :
    expandFrom (.ansi body) (piece ++ rest) = expandFrom (.ansi (piece.reverse ++ body)) rest := by
  cases h with
  | backslash => exact expandFrom_ansi_escape ..
  | apostrophe => exact expandFrom_ansi_escape ..
  | newline => exact expandFrom_ansi_escape ..
  | carriageReturn => exact expandFrom_ansi_escape ..
  | code hcoded hline hreturn hlength hdigits hvalue =>
    have hapart : ∀ d ∈ _, d ≠ '\'' ∧ d ≠ '\\' := fun d hd =>
      ⟨ne_of_isHex (hdigits d hd) (by decide), ne_of_isHex (hdigits d hd) (by decide)⟩
    rw [List.cons_append, List.cons_append, expandFrom_ansi_escape, expandFrom_ansi_append hapart]
    simp
  | plain hcoded hback hquote => exact expandFrom_ansi body hquote hback

theorem CharEncoded.not_mem_newline (h : CharEncoded c piece) : '\n' ∉ piece := by
  cases h with
  | backslash => decide
  | apostrophe => decide
  | newline => decide
  | carriageReturn => decide
  | code hcoded hline hreturn hlength hdigits hvalue =>
    simp only [List.mem_cons, not_or]
    exact ⟨by decide, by decide, fun hd => ne_of_isHex (hdigits _ hd) (by decide) rfl⟩
  | plain hcoded hback hquote =>
    rw [List.mem_singleton]
    rintro rfl
    cases hcoded

end Character

section Text

variable {s body rest : List Char}

theorem exists_encoded (s : List Char) : ∃ body, Encoded s body := by
  induction s with
  | nil => exact ⟨[], .nil⟩
  | cons c s ih =>
    obtain ⟨piece, hpiece⟩ := exists_charEncoded c
    obtain ⟨body, hbody⟩ := ih
    exact ⟨_, .cons hpiece hbody⟩

theorem Encoded.decodeFrom (h : Encoded s body) : decodeFrom 0 body = .ok s := by
  induction h with
  | nil => rfl
  | cons hpiece _ ih =>
    rw [hpiece.decodeFrom, ih]
    rfl

theorem Encoded.not_mem_newline (h : Encoded s body) : '\n' ∉ body := by
  induction h with
  | nil => exact List.not_mem_nil
  | cons hpiece _ ih => exact List.not_mem_append hpiece.not_mem_newline ih

theorem Encoded.expandFrom (h : Encoded s body) (rest : List Char) :
    expandFrom .bare ('$' :: '\'' :: (body ++ '\'' :: rest)) =
      (quoteList s ++ ·) <$> expandFrom .bare rest := by
  have hbody (before : List Char) : Shell.expandFrom (.ansi before) (body ++ '\'' :: rest) =
      Shell.expandFrom (.ansi (body.reverse ++ before)) ('\'' :: rest) := by
    induction h generalizing before with
    | nil => rfl
    | cons hpiece _ ih =>
      rw [List.append_assoc, hpiece.expandFrom, ih, List.reverse_append, List.append_assoc]
  rw [Shell.expandFrom, hbody, expandFrom_ansi_end, List.append_nil, List.reverse_reverse,
    h.decodeFrom]
  rfl

theorem joinLines_of_not_mem (h : '\n' ∉ s) : joinLines s = s := by
  induction s with
  | nil => rfl
  | cons c s ih =>
    obtain ⟨hc, hs⟩ := not_or.1 (List.mem_cons.not.1 h)
    rw [joinLines_cons, ih hs]
    intro _
    constructor
    · intro hp
      exact hs (hp.subset (by simp))
    · intro hp
      exact hs (hp.subset (by simp))

end Text

section Command

variable {arguments : List String} {bodies : List (List Char)}

theorem exists_bodies (arguments : List String) :
    ∃ bodies, List.Forall₂ (fun a body => Encoded a.toList body) arguments bodies := by
  induction arguments with
  | nil => exact ⟨[], .nil⟩
  | cons a arguments ih =>
    obtain ⟨body, hbody⟩ := exists_encoded a.toList
    obtain ⟨bodies, hbodies⟩ := ih
    exact ⟨body :: bodies, .cons hbody hbodies⟩

theorem not_mem_newline_ansiStrings
    (h : List.Forall₂ (fun a body => Encoded a.toList body) arguments bodies) :
    '\n' ∉ ansiStrings bodies := by
  induction h with
  | nil => exact List.not_mem_nil
  | cons hbody _ ih =>
    refine List.not_mem_append ?_ ih
    simp [hbody.not_mem_newline]

theorem isBlank_getLast_ansiStrings {s : List Char}
    (hs : ∀ c ∈ s.getLast?, Text.isBlank c = false) (bodies : List (List Char)) :
    ∀ c ∈ (s ++ ansiStrings bodies).getLast?, Text.isBlank c = false := by
  induction bodies generalizing s with
  | nil => simpa [ansiStrings] using hs
  | cons body bodies ih =>
    have hquote : (s ++ ' ' :: '$' :: '\'' :: (body ++ ['\''])).getLast? = some '\'' := by
      rw [← List.cons_append, ← List.cons_append, ← List.cons_append, ← List.append_assoc,
        List.getLast?_concat]
    have hlast : ∀ c ∈ (s ++ ' ' :: '$' :: '\'' :: (body ++ ['\''])).getLast?,
        Text.isBlank c = false := by
      rw [hquote]
      rintro c ⟨⟩
      decide
    simpa [ansiStrings] using ih hlast

theorem expandFrom_ansiStrings
    (h : List.Forall₂ (fun a body => Encoded a.toList body) arguments bodies) :
    expandFrom .bare (ansiStrings bodies) =
      .ok (inOneLine (arguments.map fun a => (⟨.space, []⟩, a))) := by
  induction h with
  | nil => rfl
  | @cons a body arguments bodies hbody _ ih =>
    have hspace (rest : List Char) :
        expandFrom .bare (' ' :: rest) = (' ' :: ·) <$> expandFrom .bare rest :=
      Spacing.expandFrom_blank .space rest
    have hcons : ansiStrings (body :: bodies) =
        ' ' :: '$' :: '\'' :: (body ++ '\'' :: ansiStrings bodies) := by simp [ansiStrings]
    rw [hcons, hspace, hbody.expandFrom, ih]
    rfl

/-- Every list of arguments can be encoded, and however its characters are written, a command of
`$'...'` strings is split into exactly these arguments. -/
theorem arguments_encoded (arguments : List String) :
    (∃ bodies, List.Forall₂ (fun a body => Encoded a.toList body) arguments bodies) ∧
      ∀ bodies, List.Forall₂ (fun a body => Encoded a.toList body) arguments bodies →
        Shell.arguments (.ofList ("curl".toList ++ ansiStrings bodies)) = .ok arguments := by
  refine ⟨exists_bodies arguments, fun bodies h => ?_⟩
  have hlast : ∀ c ∈ "curl".toList.getLast?, Text.isBlank c = false := by
    rintro c ⟨⟩
    decide
  have hfirst : ∀ c ∈ ("curl".toList ++ ansiStrings bodies ++ []).head?,
      Text.isBlank c = false := by
    rintro c ⟨⟩
    decide
  have htrim := Text.trim_append hfirst (isBlank_getLast_ansiStrings hlast bodies)
    (List.forall_mem_nil _)
  rw [List.append_nil] at htrim
  have hjoin : joinLines ("curl".toList ++ ansiStrings bodies) =
      "curl".toList ++ ansiStrings bodies :=
    joinLines_of_not_mem (List.not_mem_append (by decide) (not_mem_newline_ansiStrings h))
  refine arguments_eq_ok.2 ⟨"curl".toList ++ inOneLine (arguments.map fun a => (⟨.space, []⟩, a)),
    "curl".toList :: arguments.map String.toList, "curl", ?_, ?_, by simp, by decide⟩
  · rw [htrim, String.toList_ofList, hjoin, expandFrom_plain (by decide), expandFrom_ansiStrings h]
    rfl
  · have hcurl (rest : List Char) : quoteList "curl".toList ++ rest = "curl".toList ++ rest := rfl
    rw [← hcurl, wordsFrom_quoteList rfl, wordsFrom_inOneLine, List.map_map]
    rfl

theorem arguments_encoded_browser :
    Shell.arguments "curl $'' $'\\'5\\u001B5\\u0021\\n'" = .ok ["", "'5\x1b5!\n"] := by
  have hescape : CharEncoded '\x1b' ('\\' :: 'u' :: ['0', '0', '1', 'B']) :=
    .code rfl (by decide) (by decide) rfl (List.all_eq_true.1 rfl) rfl
  have hmark : CharEncoded '!' ('\\' :: 'u' :: ['0', '0', '2', '1']) :=
    .code rfl (by decide) (by decide) rfl (List.all_eq_true.1 rfl) rfl
  have hfive : CharEncoded '5' ['5'] := .plain rfl (by decide) (by decide)
  have hbody := Encoded.cons .apostrophe
    (.cons hfive (.cons hescape (.cons hfive (.cons hmark (.cons .newline .nil)))))
  have hs : "'5\x1b5!\n".toList = ['\'', '5', '\x1b', '5', '!', '\n'] := rfl
  rw [← hs] at hbody
  refine Eq.trans (congrArg Shell.arguments ?_)
    ((arguments_encoded ["", "'5\x1b5!\n"]).2 _ (.cons .nil (.cons hbody .nil)))
  rfl

end Command

end CurlScribe.Shell
