import CurlScribe.Proofs.Target.Code
import CurlScribe.Target.PhpScript
import CurlScribe.Target.RubyScript

namespace CurlScribe

/-- Reads a literal behind its first apostrophe: its value, and the text behind the last one. A
backslash stands for itself unless a backslash or an apostrophe follows, which it then stands for
together with it. -/
def apostrophedFrom : List Char → Option (List Char × List Char)
  | [] => none
  | '\'' :: rest => some ([], rest)
  | '\\' :: '\\' :: rest => (apostrophedFrom rest).map fun (s, after) => ('\\' :: s, after)
  | '\\' :: '\'' :: rest => (apostrophedFrom rest).map fun (s, after) => ('\'' :: s, after)
  | c :: rest => (apostrophedFrom rest).map fun (s, after) => (c :: s, after)

def readApostrophed : List Char → Option (List Char × List Char)
  | '\'' :: rest => apostrophedFrom rest
  | _ => none

def apostrophedChar (c : Char) : List Char := if c = '\'' || c = '\\' then ['\\', c] else [c]

theorem toList_apostrophed (s : String) :
    (apostrophed s).toList = '\'' :: (s.toList.flatMap apostrophedChar ++ ['\'']) := by
  rw [apostrophed, String.toList_ofList]
  rfl

theorem apostrophedFrom_plain {c : Char} (hq : c ≠ '\'') (hb : c ≠ '\\') (rest : List Char) :
    apostrophedFrom (c :: rest) = (apostrophedFrom rest).map fun (s, after) => (c :: s, after) := by
  rw [apostrophedFrom]
  all_goals grind

theorem apostrophedFrom_apostrophedChar (c : Char) (rest : List Char) :
    apostrophedFrom (apostrophedChar c ++ rest) =
      (apostrophedFrom rest).map fun (s, after) => (c :: s, after) := by
  unfold apostrophedChar
  by_cases hq : c = '\''
  · subst hq
    rfl
  by_cases hb : c = '\\'
  · subst hb
    rfl
  · have hplain := apostrophedFrom_plain hq hb rest
    simpa [hq, hb] using hplain

theorem apostrophedFrom_flatMap (s rest : List Char) :
    apostrophedFrom (s.flatMap apostrophedChar ++ '\'' :: rest) = some (s, rest) := by
  induction s with
  | nil => rfl
  | cons c s ih =>
    rw [List.flatMap_cons, List.append_assoc, apostrophedFrom_apostrophedChar, ih]
    rfl

theorem toList_replaceChar (c : Char) (text s : String) :
    (Text.replaceChar c text s).toList =
      s.toList.flatMap fun d => if d = c then text.toList else [d] := by
  rw [Text.replaceChar, String.toList_ofList]

/-- Backslashes have to be doubled first, for apostrophes come to have some before them. -/
theorem replaceChar_replaceChar (s : String) :
    (Text.replaceChar '\'' "\\'" (Text.replaceChar '\\' "\\\\" s)).toList =
      s.toList.flatMap apostrophedChar := by
  rw [toList_replaceChar, toList_replaceChar, List.flatMap_assoc]
  apply congrArg (List.flatMap · s.toList)
  funext c
  by_cases hq : c = '\''
  · subst hq
    rfl
  by_cases hb : c = '\\'
  · subst hb
    rfl
  · simp [apostrophedChar, hq, hb]

/-- A literal, whose backslashes and apostrophes have backslashes before them, reads back as the text
it was written for, with all that follows left over, and so does each literal in the code. -/
theorem readApostrophed_apostrophed (s : String) :
    apostrophed s =
      "'" ++ Text.replaceChar '\'' "\\'" (Text.replaceChar '\\' "\\\\" s) ++ "'" ∧
    (∀ t, readApostrophed ((apostrophed s).toList ++ t) = some (s.toList, t)) ∧
    ∀ before after : Code, ∃ rest,
      (Code.text apostrophed (before ++ Code.lit s ++ after)).toList =
        (before.text apostrophed).toList ++ rest ∧
      readApostrophed rest = some (s.toList, (after.text apostrophed).toList) := by
  have hread (t : List Char) : readApostrophed ((apostrophed s).toList ++ t) = some (s.toList, t) := by
    rw [toList_apostrophed, List.cons_append, List.append_assoc]
    exact apostrophedFrom_flatMap s.toList t
  refine ⟨?_, hread, fun before after => ⟨_, ?_, hread _⟩⟩
  · apply String.toList_inj.1
    simp [toList_apostrophed, replaceChar_replaceChar]
  · have hlit : (Code.text apostrophed (Code.lit s)).toList = (apostrophed s).toList := rfl
    rw [Code.toList_text_append, Code.toList_text_append, hlit, List.append_assoc]

end CurlScribe
