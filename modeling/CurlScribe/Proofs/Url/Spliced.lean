import CurlScribe.Proofs.Url.Percent
import CurlScribe.Proofs.Url.Userinfo

namespace CurlScribe.Url

open Request

variable {s start host port : List Char} {user password : String}

def authorityOf (s : List Char) : List Char := (cutAuthority (cutScheme (withScheme s)).2).1

theorem authorityOf_located {scheme rest : List Char} (h : Located (withScheme s) scheme host rest) :
    authorityOf s = host := by
  rw [authorityOf, h.eq, cutScheme_append h.scheme, cutAuthority_append h.host h.rest]

/-- Whether a text is taken apart to a user with a password and a host with a port. -/
structure Reads (s : List Char) (user password : String) (host port : List Char) : Prop where
  user : credentials? (ofAuthority (authorityOf s)) = some (user, password)
  address : Text.cutList ':' (hostPart (authorityOf s)) = (host, some port)

/-- Whether characters stand for themselves in an authority. -/
structure StandsForItself (s : List Char) : Prop where
  within : ∀ c ∈ s, endsAuthority c = false
  escape : ¬ HasEscape s

structure IsAddress (start host port : List Char) : Prop where
  start : start = [] ∨ ∃ scheme, IsScheme scheme ∧ start = scheme ++ [':', '/', '/']
  host : ∀ c ∈ host, c ≠ '@' ∧ c ≠ ':' ∧ endsAuthority c = false
  port : ∀ c ∈ port, c ≠ '@' ∧ endsAuthority c = false

def userAtHost (user password : String) (host port : List Char) : List Char :=
  (user.toList ++ ':' :: password.toList) ++ '@' :: (host ++ ':' :: port)

theorem Reads.length_le (h : Reads s user password host port) :
    (userAtHost user password host port).length ≤ (authorityOf s).length + 1 := by
  obtain ⟨huser, haddress⟩ := h
  obtain ⟨haddress, -⟩ := Text.cutList_eq_some.1 haddress
  rcases hcut : Text.cutLastList '@' (authorityOf s) with ⟨_ | userinfo, rest⟩
  · simp [credentials?, ofAuthority, hcut] at huser
  obtain ⟨hauthority, -⟩ := Text.cutLastList_eq_some.1 hcut
  obtain rfl : rest = host ++ ':' :: port := by rw [← haddress, hostPart, hcut]
  have hlength := congrArg List.length (Text.append_elim_cutList ':' userinfo)
  simp only [credentials?, ofAuthority, hcut, Option.map_some, Option.some.injEq,
    Prod.mk.injEq] at huser
  obtain ⟨rfl, rfl⟩ := huser
  have hname := (length_percentDecode (Text.cutList ':' userinfo).1).1
  have hword := (length_percentDecode ((Text.cutList ':' userinfo).2.getD [])).1
  have hrest : ((Text.cutList ':' userinfo).2.getD []).length ≤
      ((Text.cutList ':' userinfo).2.elim [] (':' :: ·)).length := by
    cases (Text.cutList ':' userinfo).2 <;> simp
  rw [hauthority, userAtHost]
  simp only [List.length_append, List.length_cons, String.toList_ofList] at hlength ⊢
  omega

namespace IsAddress

variable (h : IsAddress start host port)

include h

theorem of_mem {c : Char} (hc : c ∈ host ++ ':' :: port) : c ≠ '@' ∧ endsAuthority c = false := by
  rcases List.mem_append.1 hc with hc | hc
  · exact ⟨(h.host c hc).1, (h.host c hc).2.2⟩
  · rcases List.mem_cons.1 hc with rfl | hc
    · decide
    · exact h.port c hc

theorem not_mem_slash : '/' ∉ host ++ ':' :: port := fun hm =>
  absurd (h.of_mem hm).2 (by decide)

theorem exists_authorityOf (hs : s = start ++ userAtHost user password host port) :
    ∃ behind, authorityOf s = behind.takeWhile (!endsAuthority ·) ∧
      (behind = userAtHost user password host port ∨
        behind.length + 3 ≤ (userAtHost user password host port).length) := by
  subst hs
  rcases h.start with rfl | ⟨scheme, hscheme, rfl⟩
  · generalize userAtHost user password host port = s
    rw [List.nil_append]
    by_cases hs : hasScheme s = true
    · rcases hcut : cutScheme s with ⟨scheme, behind⟩
      simp only [hasScheme, hcut, Bool.and_eq_true, decide_eq_true_eq] at hs
      obtain ⟨behind, rfl⟩ := List.isPrefixOf_iff_prefix.1 hs.2
      obtain ⟨given, hgiven, rfl, -⟩ := eq_of_cutScheme hcut hs.1
      have hloc := located_of_scheme hgiven behind
      refine ⟨behind, authorityOf_located ((withScheme_located hloc).symm ▸ hloc), .inr ?_⟩
      simp only [List.length_append, List.length_cons, List.length_nil]
      omega
    · have hhttp : IsScheme "http".toList := .mk (by decide) (by decide)
      have hwith : withScheme s = "http".toList ++ ':' :: '/' :: '/' :: s := by
        rw [withScheme, if_neg hs]
        rfl
      exact ⟨s, authorityOf_located (hwith ▸ located_of_scheme hhttp s), .inl rfl⟩
  · generalize userAtHost user password host port = s
    have hloc := located_of_scheme hscheme s
    rw [List.append_assoc]
    exact ⟨s, authorityOf_located ((withScheme_located hloc).symm ▸ hloc), .inl rfl⟩

theorem length_authorityOf_lt (hs : s = start ++ userAtHost user password host port)
    (hends : ∃ c ∈ user.toList ++ ':' :: password.toList, endsAuthority c = true) :
    (authorityOf s).length + 1 < (userAtHost user password host port).length := by
  obtain ⟨behind, hauthority, rfl | hshort⟩ := h.exists_authorityOf hs
  · obtain ⟨c, hc, hends⟩ := hends
    have hle := (List.takeWhile_prefix (l := user.toList ++ ':' :: password.toList)
      (!endsAuthority ·)).length_le
    rw [hauthority, userAtHost, List.takeWhile_append, if_neg]
    · simp only [List.length_append, List.length_cons] at hle ⊢
      omega
    · intro hall
      have := List.takeWhile_eq_self_iff.1 ((List.takeWhile_prefix _).eq_of_length hall) c hc
      simp [hends] at this
  · have hle := (List.takeWhile_prefix (l := behind) (!endsAuthority ·)).length_le
    rw [hauthority]
    omega

theorem authorityOf_eq (hs : s = start ++ userAtHost user password host port)
    (hwithin : ∀ c ∈ user.toList ++ ':' :: password.toList, endsAuthority c = false) :
    authorityOf s = userAtHost user password host port := by
  have haddress : (host ++ ':' :: port).takeWhile (!endsAuthority ·) = host ++ ':' :: port :=
    List.takeWhile_eq_self_iff.2 fun c hc => by simp [(h.of_mem hc).2]
  have hinfo : Userinfo s start (user.toList ++ ':' :: password.toList) (host ++ ':' :: port) := by
    refine ⟨hs, h.start, hwithin, ?_⟩
    rw [haddress]
    exact fun hat => (h.of_mem hat).1 rfl
  obtain ⟨given, -, hloc⟩ := hinfo.located
  rw [authorityOf_located hloc, haddress, userAtHost]

theorem reads_iff (hs : s = start ++ userAtHost user password host port)
    (hcolon : ':' ∉ user.toList) : Reads s user password host port ↔
      StandsForItself user.toList ∧ StandsForItself password.toList := by
  by_cases hends : ∃ c ∈ user.toList ++ ':' :: password.toList, endsAuthority c = true
  · refine iff_of_false (fun hreads => ?_) fun ⟨hname, hword⟩ => ?_
    · have := hreads.length_le
      have := h.length_authorityOf_lt hs hends
      omega
    · obtain ⟨c, hc, hends⟩ := hends
      rcases List.mem_append.1 hc with hc | hc
      · simp [hname.within c hc] at hends
      · rcases List.mem_cons.1 hc with rfl | hc
        · simp [endsAuthority] at hends
        · simp [hword.within c hc] at hends
  · have hwithin : ∀ c ∈ user.toList ++ ':' :: password.toList, endsAuthority c = false := by
      simpa only [not_exists, not_and, Bool.not_eq_true] using hends
    have hcut : Text.cutLastList '@' (authorityOf s) =
        (some (user.toList ++ ':' :: password.toList), host ++ ':' :: port) :=
      Text.cutLastList_eq_some.2
        ⟨h.authorityOf_eq hs hwithin, fun hat => (h.of_mem hat).1 rfl⟩
    have haddress : Text.cutList ':' (hostPart (authorityOf s)) = (host, some port) := by
      rw [hostPart, hcut]
      exact Text.cutList_append fun hm => (h.host _ hm).2.1 rfl
    have huser : credentials? (ofAuthority (authorityOf s)) = some (user, password) ↔
        ¬ HasEscape user.toList ∧ ¬ HasEscape password.toList := by
      rw [← percentDecode_eq_self, ← percentDecode_eq_self]
      simp only [credentials?, ofAuthority, hcut, Option.map_some, Text.cutList_append hcolon,
        Option.getD_some, Option.some.injEq, Prod.mk.injEq, ← String.toList_inj,
        String.toList_ofList]
    constructor
    · intro hreads
      obtain ⟨hname, hword⟩ := huser.1 hreads.user
      exact ⟨⟨fun c hc => hwithin c (by simp [hc]), hname⟩,
        ⟨fun c hc => hwithin c (by simp [hc]), hword⟩⟩
    · rintro ⟨hname, hword⟩
      exact ⟨huser.2 ⟨hname.escape, hword.escape⟩, haddress⟩

end IsAddress

end CurlScribe.Url
