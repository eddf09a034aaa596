import CurlScribe.Proofs.Url.Authority

namespace CurlScribe.Url

variable {s authority : List Char}

def ofAuthority (authority : List Char) : Url := ⟨[], authority, [], [], []⟩

/-- What is asked of an authority: that it can be read, and has a host and, if any, a good port. -/
structure Accepted (authority : List Char) : Prop where
  brackets : checkBrackets authority = .ok ()
  lookalikes : checkLookalikes authority = .ok ()
  host : (ofAuthority authority).host? ≠ none
  port : ∃ port, (ofAuthority authority).port? = .ok port

theorem exists_ofList_eq_ok : (∃ u, ofList s = .ok u) ↔
    checkBrackets (authorityIn s) = .ok () ∧ checkLookalikes (authorityIn s) = .ok () := by
  constructor
  · rintro ⟨u, h⟩
    unfold ofList at h
    simp only at h
    obtain ⟨⟨⟩, hb, h⟩ := bind_eq_ok_iff.1 h
    obtain ⟨⟨⟩, hl, -⟩ := bind_eq_ok_iff.1 h
    exact ⟨hb, hl⟩
  · rintro ⟨hb, hl⟩
    unfold ofList
    exact ⟨_, bind_eq_ok_iff.2 ⟨(), hb, bind_eq_ok_iff.2 ⟨(), hl, rfl⟩⟩⟩

theorem accepted_iff {u : Url} (h : ofList s = .ok u) :
    Accepted (authorityIn s) ↔ u.host? ≠ none ∧ ∃ port, u.port? = .ok port := by
  obtain ⟨hb, hl⟩ := exists_ofList_eq_ok.1 ⟨u, h⟩
  have hhost : (ofAuthority u.authority).host? = u.host? := rfl
  have hport : (ofAuthority u.authority).port? = u.port? := rfl
  rw [← (ofList_eq_ok h).2] at hb hl ⊢
  exact ⟨fun h => ⟨h.host, h.port⟩, fun ⟨hh, hp⟩ => ⟨hb, hl, hh, hp⟩⟩

@[simp] theorem hostPart_hostPart : hostPart (hostPart authority) = hostPart authority :=
  Text.snd_cutLastList_of_not_mem (Text.not_mem_snd_cutLastList '@' authority)

theorem hostPort_hostPart : hostPort (hostPart authority) = hostPort authority := by
  rw [hostPort, hostPart_hostPart, hostPort]

theorem bracketsFit_hostPart : bracketsFit (hostPart authority) = bracketsFit authority := by
  rw [bracketsFit, hostPart_hostPart, bracketsFit]

theorem host?_hostPart :
    (ofAuthority (hostPart authority)).host? = (ofAuthority authority).host? := by
  simp only [host?, ofAuthority, hostPort_hostPart]

theorem port?_hostPart :
    (ofAuthority (hostPart authority)).port? = (ofAuthority authority).port? := by
  simp only [port?, ofAuthority, hostPort_hostPart]

/-- A bracket of one kind comes with one of the other. -/
def Paired (s : List Char) : Prop := '[' ∈ s ↔ ']' ∈ s

theorem checkBrackets_eq_ok : checkBrackets authority = .ok () ↔ Paired authority ∧
    ('[' ∈ authority →
      bracketsFit authority = true ∧ checkAddress (hostPort authority).1 = .ok ()) := by
  unfold checkBrackets Paired
  by_cases ho : '[' ∈ authority <;> by_cases hc : ']' ∈ authority <;> simp [ho, hc]
  by_cases hf : bracketsFit authority = true <;> simp [hf]

theorem checkLookalikes_eq_ok :
    checkLookalikes authority = .ok () ↔ ∀ c ∈ authority, c ∉ lookalikes := by
  simp [checkLookalikes]

theorem mem_of_mem_hostPart {c : Char} (h : c ∈ hostPart authority) : c ∈ authority :=
  Text.mem_of_mem_snd_cutLastList h

theorem accepted_hostPart (h : Accepted authority) :
    Accepted (hostPart authority) ↔ Paired (hostPart authority) := by
  refine ⟨fun h => (checkBrackets_eq_ok.1 h.brackets).1, fun hpaired => ?_⟩
  constructor
  case brackets =>
    refine checkBrackets_eq_ok.2 ⟨hpaired, fun hm => ?_⟩
    rw [bracketsFit_hostPart, hostPort_hostPart]
    exact (checkBrackets_eq_ok.1 h.brackets).2 (mem_of_mem_hostPart hm)
  case lookalikes =>
    exact checkLookalikes_eq_ok.2 fun c hc =>
      checkLookalikes_eq_ok.1 h.lookalikes c (mem_of_mem_hostPart hc)
  case host =>
    rw [host?_hostPart]
    exact h.host
  case port =>
    rw [port?_hostPart]
    exact h.port

theorem hostPart_append {userinfo host : List Char} (hat : '@' ∉ host) :
    hostPart (userinfo ++ '@' :: host) = host := by
  rw [hostPart, Text.cutLastList_eq_some.2 ⟨rfl, hat⟩]

theorem accepted_append {userinfo host : List Char} (hat : '@' ∉ host)
    (hinfo : ∀ c ∈ userinfo, c ≠ '[' ∧ c ≠ ']' ∧ c ∉ lookalikes) :
    Accepted (userinfo ++ '@' :: host) ↔ Accepted host := by
  have hpart : hostPart (userinfo ++ '@' :: host) = host := hostPart_append hat
  have hnopen : '[' ∉ userinfo := fun hm => (hinfo _ hm).1 rfl
  have hnclose : ']' ∉ userinfo := fun hm => (hinfo _ hm).2.1 rfl
  have hopen : '[' ∈ userinfo ++ '@' :: host ↔ '[' ∈ host := by simp [hnopen]
  have hclose : ']' ∈ userinfo ++ '@' :: host ↔ ']' ∈ host := by simp [hnclose]
  have hpaired : Paired (userinfo ++ '@' :: host) ↔ Paired host := by
    rw [Paired, hopen, hclose, Paired]
  constructor
  · intro h
    have hhost := accepted_hostPart h
    rw [hpart] at hhost
    exact hhost.2 (hpaired.1 (checkBrackets_eq_ok.1 h.brackets).1)
  · intro h
    have hfit : bracketsFit (userinfo ++ '@' :: host) = bracketsFit host := by
      rw [← bracketsFit_hostPart, hpart]
    have hport : hostPort (userinfo ++ '@' :: host) = hostPort host := by
      rw [← hostPort_hostPart, hpart]
    constructor
    case brackets =>
      obtain ⟨hpair, hbrackets⟩ := checkBrackets_eq_ok.1 h.brackets
      rw [checkBrackets_eq_ok, hfit, hport, hopen]
      exact ⟨hpaired.2 hpair, hbrackets⟩
    case lookalikes =>
      have hlooks := checkLookalikes_eq_ok.1 h.lookalikes
      refine checkLookalikes_eq_ok.2 fun c hc => ?_
      rcases List.mem_append.1 hc with hc | hc
      · exact (hinfo c hc).2.2
      · rcases List.mem_cons.1 hc with rfl | hc
        · decide
        · exact hlooks c hc
    case host =>
      rw [← host?_hostPart, hpart]
      exact h.host
    case port =>
      rw [← port?_hostPart, hpart]
      exact h.port

end CurlScribe.Url
