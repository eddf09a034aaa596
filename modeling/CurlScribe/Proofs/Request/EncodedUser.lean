import CurlScribe.Proofs.Url.Encoded
import CurlScribe.Proofs.Url.Userinfo

namespace CurlScribe.Request

open Url

variable {scheme : List Char} {url raw user password : String} {behind : List Char}

def urlOf (scheme behind : List Char) : String := .ofList (scheme ++ "://".toList ++ behind)

def encodedUser (user password : String) : List Char :=
  percentEncode user.toList ++ ':' :: percentEncode password.toList

section Characters

variable {c : Char}

theorem isForbidden_of_isUnreserved (h : isUnreserved c = true) : isForbidden c = false := by
  rw [Bool.eq_false_iff]
  intro hf
  simp only [isForbidden, Bool.or_eq_true, decide_eq_true_eq] at hf
  rcases hf with hle | rfl
  · have hsmall : ∀ n ≤ 0x20, isUnreserved (Char.ofNat n) = false := by decide
    simpa [h] using hsmall c.toNat hle
  · exact absurd h (by decide)

def delimiters : List Char := ['/', '?', '#', '@', '[', ']'] ++ lookalikes

theorem not_mem_delimiters_of_isUnreserved (h : isUnreserved c = true) : c ∉ delimiters := by
  intro hm
  have hall : delimiters.all (!isUnreserved ·) = true := rfl
  have hc := List.all_eq_true.1 hall c hm
  simp [h] at hc

theorem forall_mem_encodedUser {p : Char → Prop} (hpercent : p '%') (hcolon : p ':')
    (h : ∀ c, isUnreserved c = true → p c) : ∀ c ∈ encodedUser user password, p c := by
  have hencoded (s : List Char) : ∀ c ∈ percentEncode s, p c := forall_mem_percentEncode hpercent h s
  rw [encodedUser, List.forall_mem_append, List.forall_mem_cons]
  exact ⟨hencoded _, hcolon, hencoded _⟩

theorem not_mem_delimiters (hc : c ∈ encodedUser user password) : c ∉ delimiters :=
  forall_mem_encodedUser (p := (· ∉ delimiters)) (by decide) (by decide)
    (fun _ => not_mem_delimiters_of_isUnreserved) c hc

theorem any_isForbidden_encodedUser : (encodedUser user password).any isForbidden = false := by
  rw [List.any_eq_false]
  refine forall_mem_encodedUser (by decide) (by decide) fun c hc => ?_
  simp [isForbidden_of_isUnreserved hc]

theorem endsAuthority_encodedUser :
    ∀ c ∈ encodedUser user password, endsAuthority c = false := by
  intro c hc
  have := not_mem_delimiters hc
  simp [delimiters] at this
  simp [endsAuthority, this]

end Characters

theorem located_urlOf (hscheme : IsScheme scheme) (behind : List Char) :
    Located (urlOf scheme behind).toList scheme (behind.takeWhile (!endsAuthority ·))
      (behind.dropWhile (!endsAuthority ·)) := by
  have htext : (urlOf scheme behind).toList = scheme ++ ':' :: '/' :: '/' :: behind := by
    simp [urlOf]
  exact htext ▸ located_of_scheme hscheme behind

theorem any_isForbidden_urlOf (hscheme : IsScheme scheme) :
    (urlOf scheme behind).toList.any isForbidden = behind.any isForbidden := by
  rw [any_isForbidden_located (located_urlOf hscheme behind), ← List.any_append,
    List.takeWhile_append_dropWhile]

theorem authorityIn_urlOf (hscheme : IsScheme scheme) (h : behind.any isForbidden = false) :
    authorityIn (urlOf scheme behind).toList = behind.takeWhile (!endsAuthority ·) := by
  rw [(located_urlOf hscheme behind).authorityIn, List.filter_eq_self]
  intro c hc
  have hforbidden := List.any_eq_false.1 h c ((List.takeWhile_prefix _).subset hc)
  simpa using fun hl => hforbidden (isForbidden_of_isLineOrTab hl)

theorem eq_of_locate {given host rest : List Char} (hloc : Located raw.toList given host rest)
    (h : locate raw = .ok ⟨url, none⟩) : url = raw := by
  obtain ⟨-, -, u, -, -, -, -, -, hl⟩ := locate_eq_ok.1 h
  obtain ⟨rfl, hnone⟩ := Location.mk.injEq .. ▸ hl
  rw [← hnone, withScheme_located hloc]
  simp

theorem exists_locate_urlOf (hscheme : IsScheme scheme) :
    (∃ url, locate (urlOf scheme behind) = .ok ⟨url, none⟩) ↔ behind.any isForbidden = false ∧
      Accepted (behind.takeWhile (!endsAuthority ·)) ∧ '@' ∉ behind.takeWhile (!endsAuthority ·) := by
  have hloc := located_urlOf hscheme behind
  have hself : (∃ url, locate (urlOf scheme behind) = .ok ⟨url, none⟩) ↔
      locate (urlOf scheme behind) = .ok ⟨urlOf scheme behind, none⟩ :=
    ⟨fun ⟨_, h⟩ => eq_of_locate hloc h ▸ h, fun h => ⟨_, h⟩⟩
  rw [hself, locate_eq_self hloc, any_isForbidden_urlOf hscheme]
  refine and_congr_right fun hbehind => ?_
  rw [authorityIn_urlOf hscheme hbehind]

section UserAt

variable (user password behind)

theorem any_isForbidden_userAt :
    (encodedUser user password ++ '@' :: behind).any isForbidden = behind.any isForbidden := by
  have hat : isForbidden '@' = false := rfl
  rw [List.any_append, List.any_cons, any_isForbidden_encodedUser, hat, Bool.false_or,
    Bool.false_or]

theorem takeWhile_userAt : (encodedUser user password ++ '@' :: behind).takeWhile (!endsAuthority ·) =
    encodedUser user password ++ '@' :: behind.takeWhile (!endsAuthority ·) := by
  have hinfo : ∀ c ∈ encodedUser user password, (!endsAuthority c) = true := by
    simpa using endsAuthority_encodedUser
  have hat : endsAuthority '@' = false := rfl
  rw [List.takeWhile_append_of_pos hinfo]
  simp [hat]

theorem accepted_userAt {host : List Char} (hat : '@' ∉ host) :
    Accepted (encodedUser user password ++ '@' :: host) ↔ Accepted host := by
  refine accepted_append hat fun c hc => ?_
  have := not_mem_delimiters hc
  simp_all [delimiters]

theorem userinfo_urlOf (hscheme : IsScheme scheme)
    (hat : '@' ∉ behind.takeWhile (!endsAuthority ·)) :
    Userinfo (urlOf scheme (encodedUser user password ++ '@' :: behind)).toList
      (scheme ++ [':', '/', '/']) (encodedUser user password) behind where
  eq := by simp [urlOf]
  start := .inr ⟨scheme, hscheme, rfl⟩
  userinfo := endsAuthority_encodedUser
  last := hat

end UserAt

/-- A user and a password put before a host are read as they were, and leave the URL that was there
before, just if that was a good one without a user of its own. -/
theorem locate_encodedUser (hscheme : IsScheme scheme) (hlower : scheme.map Char.toLower = scheme)
    (user password : String) (behind : List Char) :
    locate (urlOf scheme (encodedUser user password ++ '@' :: behind)) =
        .ok ⟨urlOf scheme behind, some (user, password)⟩ ↔
      ∃ url, locate (urlOf scheme behind) = .ok ⟨url, none⟩ := by
  have hwith := located_urlOf hscheme (encodedUser user password ++ '@' :: behind)
  have hforbidden := any_isForbidden_userAt user password behind
  have hexists : (∃ l, locate (urlOf scheme (encodedUser user password ++ '@' :: behind)) = .ok l) ↔
      behind.any isForbidden = false ∧
        Accepted (encodedUser user password ++ '@' :: behind.takeWhile (!endsAuthority ·)) := by
    rw [exists_locate_eq_ok, withScheme_located hwith, any_isForbidden_urlOf hscheme, hforbidden]
    refine and_congr_right fun hbehind => ?_
    rw [authorityIn_urlOf hscheme (hforbidden.trans hbehind), takeWhile_userAt]
  rw [exists_locate_urlOf hscheme]
  constructor
  · intro h
    obtain ⟨hbehind, haccepted⟩ := hexists.1 ⟨_, h⟩
    have hat : '@' ∉ behind.takeWhile (!endsAuthority ·) := by
      obtain ⟨_, host, _, hloc, hat⟩ := locate_located h
      rw [← authorityIn_urlOf hscheme hbehind, hloc.authorityIn]
      exact fun hm => hat (List.mem_filter.1 hm).1
    exact ⟨hbehind, (accepted_userAt user password hat).1 haccepted, hat⟩
  · rintro ⟨hbehind, haccepted, hat⟩
    obtain ⟨l, hl⟩ := hexists.2 ⟨hbehind, (accepted_userAt user password hat).2 haccepted⟩
    have hinfo := userinfo_urlOf user password behind hscheme hat
    have hcolon : ':' ∉ percentEncode user.toList := not_mem_percentEncode (by decide) (by decide) _
    have hurl : l.url = urlOf scheme behind := by
      rw [(hinfo.locate hl).2, urlOf]
      simp [givenStart, hlower]
    have hcredentials : l.credentials = some (user, password) := by
      rw [hinfo.credentials hcolon hl]
      simp
    rw [hl, ← hurl, ← hcredentials]

theorem locate_encodedUser_delimiters :
    locate "https://[::1]:8/p@q?r" = .ok ⟨"https://[::1]:8/p@q?r", none⟩ ∧
      locate "https://%40%5B%2F:%3A%25%C3%A9@[::1]:8/p@q?r" =
        .ok ⟨"https://[::1]:8/p@q?r", some ("@[/", ":%é")⟩ := by
  have hscheme : IsScheme "https".toList := .mk (by decide) (by decide)
  have hplain : locate "https://[::1]:8/p@q?r" = .ok ⟨"https://[::1]:8/p@q?r", none⟩ := by rfl
  have huser := locate_encodedUser hscheme (by decide) "@[/" ":%é" "[::1]:8/p@q?r".toList
  exact ⟨hplain, huser.2 ⟨_, hplain⟩⟩

end CurlScribe.Request
