import CurlScribe.Proofs.Request.Location

namespace CurlScribe.Request

open Url

variable {s start userinfo host rest : List Char} {raw : String} {l : Location}

/-- The text of a URL with credentials. It starts with a scheme or right with the credentials, whose
end is the last `@` that an authority may have there. -/
structure Userinfo (s start userinfo rest : List Char) : Prop where
  eq : s = start ++ (userinfo ++ '@' :: rest)
  start : start = [] ∨ ∃ scheme, IsScheme scheme ∧ start = scheme ++ [':', '/', '/']
  userinfo : ∀ c ∈ userinfo, endsAuthority c = false
  last : '@' ∉ rest.takeWhile (!endsAuthority ·)

def givenStart (start : List Char) : List Char :=
  if start = [] then "http://".toList else start.map Char.toLower

theorem hasScheme_eq_false (h : '/' ∉ userinfo) : hasScheme (userinfo ++ '@' :: rest) = false := by
  rw [Bool.eq_false_iff]
  intro hs
  rcases hcut : cutScheme (userinfo ++ '@' :: rest) with ⟨scheme, behind⟩
  simp only [hasScheme, hcut, Bool.and_eq_true, decide_eq_true_eq] at hs
  obtain ⟨behind, rfl⟩ := List.isPrefixOf_iff_prefix.1 hs.2
  obtain ⟨given, hgiven, heq, -⟩ := eq_of_cutScheme hcut hs.1
  have heq : (userinfo ++ ['@']) ++ rest = (given ++ [':', '/']) ++ ('/' :: behind) := by
    simpa using heq
  have hat : '@' ∉ given := fun hm => absurd (hgiven.isSchemeChar hm) (by decide)
  rcases List.append_eq_append_iff.1 heq with ⟨t, ht, -⟩ | ⟨t, ht, -⟩
  · have : '@' ∈ given ++ [':', '/'] := by simp [ht]
    simp [hat] at this
  · have : '/' ∈ userinfo ++ ['@'] := by simp [ht]
    simp [h] at this

namespace Userinfo

variable (h : Userinfo s start userinfo rest)

include h

theorem replace {other : List Char} (hother : ∀ c ∈ other, endsAuthority c = false) :
    Userinfo (start ++ (other ++ '@' :: rest)) start other rest :=
  ⟨rfl, h.start, hother, h.last⟩

theorem located : ∃ given, givenStart start = given.map Char.toLower ++ [':', '/', '/'] ∧
    Located (withScheme s) given (userinfo ++ '@' :: rest.takeWhile (!endsAuthority ·))
      (rest.dropWhile (!endsAuthority ·)) := by
  have hinfo : ∀ c ∈ userinfo, (!endsAuthority c) = true := by simpa using h.userinfo
  have hat : endsAuthority '@' = false := rfl
  have htake : (userinfo ++ '@' :: rest).takeWhile (!endsAuthority ·) =
      userinfo ++ '@' :: rest.takeWhile (!endsAuthority ·) := by
    rw [List.takeWhile_append_of_pos hinfo]
    simp [hat]
  have hdrop : (userinfo ++ '@' :: rest).dropWhile (!endsAuthority ·) =
      rest.dropWhile (!endsAuthority ·) := by
    rw [List.dropWhile_append_of_pos hinfo]
    simp [hat]
  rw [← htake, ← hdrop]
  rcases h.start with hstart | ⟨scheme, hscheme, hstart⟩
  · have hslash : '/' ∉ userinfo := fun hm => by simpa [endsAuthority] using h.userinfo _ hm
    have hs : withScheme s = "http://".toList ++ (userinfo ++ '@' :: rest) := by
      rw [withScheme, h.eq, hstart, List.nil_append, if_neg (by simp [hasScheme_eq_false hslash])]
    have hhttp : IsScheme "http".toList := .mk (by decide) (by decide)
    refine ⟨"http".toList, by simp [givenStart, hstart], ?_⟩
    rw [hs]
    exact located_of_scheme hhttp _
  · have hs : s = scheme ++ ':' :: '/' :: '/' :: (userinfo ++ '@' :: rest) := by
      rw [h.eq, hstart, List.append_assoc]
      rfl
    have hloc := located_of_scheme hscheme (userinfo ++ '@' :: rest)
    refine ⟨scheme, by simp [givenStart, hstart], ?_⟩
    rw [withScheme_located (hs ▸ hloc), hs]
    exact hloc

theorem cutLastList_authority {u : Url} (hs : s.any isForbidden = false)
    (hu : Url.ofList (withScheme s) = .ok u) : Text.cutLastList '@' u.authority =
      (some userinfo, rest.takeWhile (!endsAuthority ·)) := by
  obtain ⟨given, -, hloc⟩ := h.located
  refine Text.cutLastList_eq_some.2 ⟨?_, h.last⟩
  rw [(ofList_eq_ok hu).2, authorityIn, normal_eq_self (any_isForbidden_withScheme hs), hloc.eq,
    cutScheme_append hloc.scheme, cutAuthority_append hloc.host hloc.rest]

end Userinfo

theorem Userinfo.locate (h : Userinfo raw.toList start userinfo rest) (hl : locate raw = .ok l) :
    l.credentials.isSome = true ∧ l.url = .ofList (givenStart start ++ rest) := by
  obtain ⟨given, hstart, hloc⟩ := h.located
  obtain ⟨-, hraw, u, port, hu, -, -, -, rfl⟩ := locate_eq_ok.1 hl
  obtain ⟨hscheme, -⟩ := ofList_eq_ok hu
  rw [normal_eq_self (any_isForbidden_withScheme hraw), hloc.eq,
    cutScheme_append hloc.scheme] at hscheme
  have hcut := h.cutLastList_authority hraw hu
  have hsome : (credentials? u).isSome = true := by simp [credentials?, hcut]
  refine ⟨hsome, congrArg String.ofList ?_⟩
  have hauthority : u.authority = userinfo ++ '@' :: rest.takeWhile (!endsAuthority ·) :=
    (Text.cutLastList_eq_some.1 hcut).1
  rw [if_pos hsome, (located_withoutCredentials hloc hscheme hauthority).eq, hostPart, hcut, hscheme,
    hstart, List.takeWhile_append_dropWhile]
  simp

theorem Userinfo.credentials {user password : List Char}
    (h : Userinfo raw.toList start (user ++ ':' :: password) rest) (hcolon : ':' ∉ user)
    (hl : Request.locate raw = .ok l) :
    l.credentials = some (.ofList (percentDecode user), .ofList (percentDecode password)) := by
  obtain ⟨-, hraw, u, port, hu, -, -, -, rfl⟩ := locate_eq_ok.1 hl
  simp [credentials?, h.cutLastList_authority hraw hu, Text.cutList_append hcolon]

theorem exists_userinfo (hl : Request.locate raw = .ok l) :
    (∃ start userinfo rest, Userinfo raw.toList start userinfo rest) ↔
      l.credentials.isSome = true := by
  constructor
  · rintro ⟨start, userinfo, rest, h⟩
    exact (h.locate hl).1
  · intro hsome
    obtain ⟨given, scheme, rest, hloc, -⟩ := locate_parts hl
    obtain ⟨-, -, u, port, hu, -, -, -, rfl⟩ := locate_eq_ok.1 hl
    obtain ⟨userinfo, huserinfo⟩ :=
      Option.isSome_iff_exists.1 ((Option.isSome_map ..).symm.trans hsome)
    have hcut : Text.cutLastList '@' u.authority =
        (some userinfo, (Text.cutLastList '@' u.authority).2) := Prod.ext huserinfo rfl
    obtain ⟨hauthority, hlast⟩ := Text.cutLastList_eq_some.1 hcut
    generalize (Text.cutLastList '@' u.authority).2 = host at hauthority hlast
    rw [(ofList_eq_ok hu).2] at hauthority
    rw [hauthority] at hloc
    have hinfo : ∀ c ∈ userinfo, endsAuthority c = false := fun c hc =>
      hloc.host c (List.mem_append_left _ hc)
    have hhost : ∀ c ∈ host, endsAuthority c = false := fun c hc =>
      hloc.host c (List.mem_append_right _ (.tail _ hc))
    have htake : (host ++ rest).takeWhile (!endsAuthority ·) = host := by
      have := congrArg Prod.fst (cutAuthority_append hhost hloc.rest)
      rwa [cutAuthority] at this
    rw [← htake] at hlast
    by_cases hs : hasScheme raw.toList = true
    · have heq := hloc.eq
      rw [withScheme, if_pos hs] at heq
      exact ⟨given ++ [':', '/', '/'], userinfo, host ++ rest, by simp [heq],
        .inr ⟨given, hloc.scheme, rfl⟩, hinfo, hlast⟩
    · -- Without a scheme the text is what stands behind the one that is put there.
      have hhttp : IsScheme "http".toList := .mk (by decide) (by decide)
      have hbehind : cutScheme (withScheme raw.toList) =
          ("http".toList, '/' :: '/' :: raw.toList) := by
        rw [withScheme, if_neg hs]
        exact cutScheme_append hhttp ('/' :: '/' :: raw.toList)
      rw [hloc.eq, cutScheme_append hloc.scheme] at hbehind
      have heq := (List.cons.inj (List.cons.inj (Prod.mk.inj hbehind).2).2).2
      exact ⟨[], userinfo, host ++ rest, by simp [← heq], .inl rfl, hinfo, hlast⟩

end CurlScribe.Request
