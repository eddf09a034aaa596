import CurlScribe.Proofs.Text.Case
import CurlScribe.Target.Header

namespace CurlScribe

def foldCase (name : String) : List Char := name.toList.map Char.toLower

abbrev HeaderMap := List Char → List String

namespace HeaderMap

def empty : HeaderMap := fun _ => []

def ofHeaders (headers : List (String × String)) : HeaderMap := fun key =>
  (headers.filter (foldCase ·.1 = key)).map (·.2)

def step (m : HeaderMap) : HeaderStatement → HeaderMap
  | .replace name value => Function.update m (foldCase name) [value]
  | .append name value => Function.update m (foldCase name) (m (foldCase name) ++ [value])

def run (m : HeaderMap) (statements : List HeaderStatement) : HeaderMap := statements.foldl step m

def KeepsAll (m : HeaderMap) (statements : List HeaderStatement) : Prop :=
  ∀ before name value after, statements = before ++ .replace name value :: after →
    run m before (foldCase name) = []

variable {m : HeaderMap} {seen : List String} {name value : String}
  {headers : List (String × String)} {statements : List HeaderStatement}

theorem ofHeaders_cons (key : List Char) : ofHeaders ((name, value) :: headers) key =
    (if foldCase name = key then [value] else []) ++ ofHeaders headers key := by
  rw [ofHeaders, List.filter_cons]
  split_ifs <;> simp_all [ofHeaders]

theorem step_append (m : HeaderMap) (key : List Char) : step m (.append name value) key =
    m key ++ if foldCase name = key then [value] else [] := by
  rw [step, Function.update_apply]
  split_ifs <;> simp_all

theorem step_replace (h : m (foldCase name) = []) :
    step m (.replace name value) = step m (.append name value) := by
  rw [step, step, h, List.nil_append]

theorem KeepsAll.append (h : KeepsAll (step m (.append name value)) statements) :
    KeepsAll m (.append name value :: statements) := by
  rintro (- | ⟨s, before⟩) other text after heq
  · cases heq
  · obtain ⟨rfl, htail⟩ := List.cons.inj heq
    exact h before other text after htail

theorem KeepsAll.replace (hm : m (foldCase name) = [])
    (h : KeepsAll (step m (.replace name value)) statements) :
    KeepsAll m (.replace name value :: statements) := by
  rintro (- | ⟨s, before⟩) other text after heq
  · cases heq
    exact hm
  · obtain ⟨rfl, htail⟩ := List.cons.inj heq
    exact h before other text after htail

def Within (m : HeaderMap) (seen : List String) : Prop :=
  ∀ name, m (foldCase name) ≠ [] → Text.lower name ∈ seen

theorem Within.append {all : List String} (h : Within m seen) (value : String)
    (hsub : seen ⊆ all) (hname : Text.lower name ∈ all) :
    Within (step m (.append name value)) all := by
  intro other hne
  by_cases heq : foldCase name = foldCase other
  · rwa [← Text.lower_congr heq]
  · rw [step_append, if_neg heq, List.append_nil] at hne
    exact hsub (h other hne)

theorem run_headerStatements (h : Within m seen) (headers : List (String × String)) :
    run m (headerStatements seen headers) = (fun key => m key ++ ofHeaders headers key) ∧
      KeepsAll m (headerStatements seen headers) := by
  induction headers generalizing m seen with
  | nil =>
    refine ⟨funext fun key => (List.append_nil _).symm, ?_⟩
    rintro (- | ⟨s, before⟩) other text after heq <;> cases heq
  | cons header headers ih =>
    obtain ⟨name, value⟩ := header
    rw [headerStatements]
    split_ifs with hseen
    · have hname : Text.lower name ∈ seen := List.contains_iff_mem.1 hseen
      obtain ⟨hrun, hkeeps⟩ := ih (h.append value (List.Subset.refl seen) hname)
      refine ⟨?_, hkeeps.append⟩
      rw [run, List.foldl_cons, ← run, hrun]
      funext key
      rw [step_append, ofHeaders_cons, List.append_assoc]
    · have hnone : m (foldCase name) = [] := by
        by_contra hne
        exact hseen (List.contains_iff_mem.2 (h name hne))
      have hwithin := h.append value (List.subset_cons_self (Text.lower name) seen)
        List.mem_cons_self
      rw [← step_replace hnone] at hwithin
      obtain ⟨hrun, hkeeps⟩ := ih hwithin
      refine ⟨?_, hkeeps.replace hnone⟩
      rw [run, List.foldl_cons, ← run, hrun, step_replace hnone]
      funext key
      rw [step_append, ofHeaders_cons, List.append_assoc]

end HeaderMap

end CurlScribe
