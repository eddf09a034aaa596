import CurlScribe.Proofs.Request.Location

namespace CurlScribe.Request

open Url

variable {raw : String} {l : Location}

theorem withScheme_cases {given authority rest : List Char}
    (h : Located (withScheme raw.toList) given authority rest) :
    raw.toList = given ++ "://".toList ++ authority ++ rest ∨
      hasScheme raw.toList = false ∧ given = "http".toList ∧ raw.toList = authority ++ rest := by
  have heq := h.eq
  unfold withScheme at heq
  split at heq
  · left
    simpa using heq
  · rename_i hscheme
    right
    have hcolon : ':' ∉ given := fun hm => absurd (h.scheme.isSchemeChar hm) (by decide)
    have hhttp : Text.cutList ':' ("http://".toList ++ raw.toList) =
        ("http".toList, some ('/' :: '/' :: raw.toList)) :=
      Text.cutList_eq_some.2 ⟨rfl, by decide⟩
    rw [Text.cutList_eq_some.2 ⟨heq, hcolon⟩] at hhttp
    have hbehind := Option.some.inj (congrArg Prod.snd hhttp)
    simp only [List.cons.injEq, true_and] at hbehind
    exact ⟨by simpa using hscheme, congrArg Prod.fst hhttp, hbehind.symm⟩

/-- Taking the credentials out of a URL keeps its scheme, but for the case, its host and port, and
all that is behind the authority. What is left is a location with no credentials, unless a bracket
of the host had its counterpart among them only. -/
theorem locate_projects (h : locate raw = .ok l) : ∃ given authority scheme rest,
    (raw.toList = given ++ "://".toList ++ authority ++ rest ∨
      hasScheme raw.toList = false ∧ given = "http".toList ∧ raw.toList = authority ++ rest) ∧
    Located (withScheme raw.toList) given authority rest ∧
    Located l.url.toList scheme (authorityIn l.url.toList) rest ∧
    scheme.map Char.toLower = given.map Char.toLower ∧
    authorityIn l.url.toList = hostPart authority ∧ '@' ∉ authorityIn l.url.toList ∧
    (∀ u v, Url.ofList (withScheme raw.toList) = .ok u → Url.ofString l.url = .ok v →
      v.host? = u.host? ∧ v.port? = u.port?) ∧
    (locate l.url = .ok ⟨l.url, none⟩ ↔ Paired (authorityIn l.url.toList)) := by
  obtain ⟨given, scheme, rest, hcase, hraw, hurl⟩ := locate_scheme h
  have hauthority := authorityIn_locate h
  rw [← hauthority] at hurl
  have hat : '@' ∉ authorityIn l.url.toList := hauthority ▸ Text.not_mem_snd_cutLastList '@' _
  refine ⟨given, _, scheme, rest, withScheme_cases hraw, hraw, hurl, hcase, hauthority, hat, ?_, ?_⟩
  · intro u v hu hv
    have hpart : v.authority = hostPart u.authority := by
      rw [(ofList_eq_ok hv).2, (ofList_eq_ok hu).2]
      exact hauthority
    have hhost := @host?_hostPart u.authority
    have hport := @port?_hostPart u.authority
    rw [← hpart] at hhost hport
    exact ⟨hhost, hport⟩
  · obtain ⟨-, haccepted⟩ := exists_locate_eq_ok.1 ⟨l, h⟩
    rw [locate_eq_self hurl, any_isForbidden_locate h]
    simp only [hat, not_false_eq_true, true_and, and_true]
    rw [hauthority, accepted_hostPart haccepted]

theorem locate_projects_address :
    locate "HTTP://u:p@[::1]:80/x?y#@" = .ok ⟨"http://[::1]:80/x?y#@", some ("u", "p")⟩ ∧
      locate "http://[::1]:80/x?y#@" = .ok ⟨"http://[::1]:80/x?y#@", none⟩ := by
  have h : locate "HTTP://u:p@[::1]:80/x?y#@" =
      .ok ⟨"http://[::1]:80/x?y#@", some ("u", "p")⟩ := by rfl
  obtain ⟨-, -, -, -, -, -, -, -, -, -, -, hself⟩ := locate_projects h
  have hpaired : Paired (authorityIn "http://[::1]:80/x?y#@".toList) := by
    unfold Paired
    decide
  exact ⟨h, hself.2 hpaired⟩

theorem locate_projects_bracket :
    locate "http://u]@[::1/" = .ok ⟨"http://[::1/", some ("u]", "")⟩ ∧
      ∀ l, locate "http://[::1/" ≠ .ok l := by
  refine ⟨by rfl, fun l hl => ?_⟩
  have hbrackets := (exists_locate_eq_ok.1 ⟨l, hl⟩).2.brackets
  revert hbrackets
  decide

end CurlScribe.Request
