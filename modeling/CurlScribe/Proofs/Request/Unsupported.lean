import CurlScribe.Proofs.Request.Dependence

namespace CurlScribe.Arguments

open Request

variable {a b : Arguments} {others : List String} {l : Location} {r : Request}

def handledNotices (a : Arguments) (l : Location) : List Request.Notice :=
  a.headerNotices ++ a.payloadNotices ++ a.bodyNotices ++ a.uploadNotices
    ++ a.authNotices l.credentials a.sentHeaders ++ a.methodNotices ++ a.cookieNotices
    ++ a.proxyNotices ++ a.numberNotices Numeral.integer? "max-redirs"
    ++ a.numberNotices Numeral.finite? "max-time"
    ++ a.numberNotices Numeral.finite? "connect-timeout"

theorem notes_request (h : a.request.result = .ok r) : ∃ l, a.location.result = .ok l ∧
    a.request.notes = a.location.notes ++ (a.unsupportedNotices ++ a.handledNotices l) := by
  obtain ⟨l, redirects, hl, hredirects, -⟩ := request_eq_ok.1 h
  refine ⟨l, hl, ?_⟩
  have hlocation := Noted.eq_of_result hl
  unfold request
  rw [hlocation, hredirects]
  simp [handledNotices]

theorem subset_handledFlags : methodFlags ⊆ handledFlags ∧ transferFlags ⊆ handledFlags ∧
    authFlags ⊆ handledFlags ∧ locationFlags ⊆ handledFlags := by
  decide

namespace SameOn

variable (h : SameOn handledFlags a b)

include h

theorem methodOfHandled : SameOn methodFlags a b := h.mono subset_handledFlags.1

theorem transferOfHandled : SameOn transferFlags a b := h.mono subset_handledFlags.2.1

theorem authOfHandled : SameOn authFlags a b := h.mono subset_handledFlags.2.2.1

theorem locationOfHandled : SameOn locationFlags a b := h.mono subset_handledFlags.2.2.2

theorem result_request (hlocation : a.location = b.location) :
    a.request.result = b.request.result := by
  have hmethod := h.methodOfHandled
  have htransfer := h.transferOfHandled
  have hauth (l : Location) :
      a.auth l.credentials a.sentHeaders = b.auth l.credentials b.sentHeaders := by
    rw [auth, hmethod.bodyOfMethod.sentHeaders, h.authOfHandled.flagAuth, auth]
  have hto (l : Location) : a.requestTo l = b.requestTo l := hmethod.requestTo htransfer rfl (hauth l)
  cases hb : b.request.result with
  | error f =>
    rw [request_eq_error] at hb ⊢
    rwa [hlocation, htransfer.connection.maxRedirects]
  | ok r =>
    rw [request_eq_ok] at hb ⊢
    simpa only [hlocation, htransfer.connection.maxRedirects, hto] using hb

theorem handledNotices (l : Location) : a.handledNotices l = b.handledNotices l := by
  have hmethod := h.methodOfHandled
  have htransfer := h.transferOfHandled
  have hbody := hmethod.bodyOfMethod
  have hnumber {α : Type} (read : String → Option α) {flag : String}
      (hflag : flag ∈ transferFlags) : a.numberNotices read flag = b.numberNotices read flag :=
    htransfer.numberNotices hflag
  simp only [Arguments.handledNotices, hbody.headersOfBody.headerNotices, hbody.payloadNotices,
    hbody.bodyNotices, hmethod.uploadNotices, hbody.sentHeaders, h.authOfHandled.authNotices,
    hmethod.methodNotices, htransfer.cookieNotices, htransfer.connection.proxyNotices,
    hnumber Numeral.integer? (show "max-redirs" ∈ transferFlags by decide),
    hnumber Numeral.finite? (show "max-time" ∈ transferFlags by decide),
    hnumber Numeral.finite? (show "connect-timeout" ∈ transferFlags by decide)]

end SameOn

def spokenFlags (a : Arguments) (others : List String) : List String :=
  a.names.filter fun name => others.contains name && !silentFlags.contains name

theorem unsupportedNotices_without (hothers : ∀ name ∈ others, name ∉ handledFlags) :
    (a.without others).unsupportedNotices.Sublist a.unsupportedNotices ∧
    a.unsupportedNotices.Perm ((a.without others).unsupportedNotices ++
      (a.spokenFlags others).map (.unsupported <| spelling ·)) := by
  let unhandled (name : String) : Bool := !handledFlags.contains name && !silentFlags.contains name
  have hkept : (a.without others).names.filter unhandled =
      (a.names.filter unhandled).filter (!others.contains ·) := by
    rw [names_without, List.filter_filter, List.filter_filter]
    simp only [Bool.and_comm]
  have hgone : a.spokenFlags others = (a.names.filter unhandled).filter others.contains := by
    rw [spokenFlags, List.filter_filter]
    apply List.filter_congr
    intro name _
    cases hname : others.contains name with
    | false => rfl
    | true =>
      have := hothers name (List.contains_iff_mem.1 hname)
      simp [unhandled, this]
  have hperm := List.filter_append_perm (!others.contains ·) (a.names.filter unhandled)
  simp only [Bool.not_not] at hperm
  rw [unsupportedNotices, unsupportedNotices, hkept, hgone, ← List.map_append]
  exact ⟨List.filter_sublist.map _, (hperm.map _).symm⟩

/-- Without flags that shape no request, the request or the failure is the same; the notices are the
same but for one on each of these flags that occurs and is none that is passed over in silence. -/
theorem request_without (hothers : ∀ name ∈ others, name ∉ handledFlags) (a : Arguments) :
    (a.without others).request.result = a.request.result ∧
    ∀ r, a.request.result = .ok r → ∃ removed : List String,
      removed.Nodup ∧
      (∀ name, name ∈ removed ↔ name ∈ others ∧ a.has name = true ∧ name ∉ silentFlags) ∧
      (a.without others).request.notes.Sublist a.request.notes ∧
      a.request.notes.Perm ((a.without others).request.notes ++
        removed.map (.unsupported <| spelling ·)) := by
  have hsame : SameOn handledFlags (a.without others) a :=
    .without a fun name hname hother => hothers name hother hname
  have hlocation : (a.without others).location = a.location := hsame.locationOfHandled.location rfl
  have hresult := hsame.result_request hlocation
  refine ⟨hresult, fun r hr => ⟨a.spokenFlags others, (nodup_firsts _).filter _, ?_, ?_⟩⟩
  · intro name
    simp [spokenFlags, names, mem_firsts, has, and_left_comm]
  · obtain ⟨l, hl, hnotes⟩ := notes_request hr
    obtain ⟨l', hl', hnotes'⟩ := notes_request (hresult.trans hr)
    obtain rfl : l' = l := Except.ok.inj (by rw [← hl', hlocation, hl])
    obtain ⟨hsub, hperm⟩ := unsupportedNotices_without (a := a) hothers
    rw [hnotes, hnotes', hlocation, hsame.handledNotices]
    refine ⟨((hsub.append_right _).append_left _), ?_⟩
    rw [List.append_assoc, List.append_assoc]
    refine List.Perm.append_left _ ((hperm.append_right _).trans ?_)
    rw [List.append_assoc]
    exact List.perm_append_comm.append_left _

theorem request_without_retry : ∃ a r,
    (parse .curl true ["-4v", "--retry", "1", "-Ha", "--retry=2", "http://h/"]).result = .ok a ∧
    (∀ name ∈ ["retry", "verbose", "ipv4"], name ∉ handledFlags) ∧
    a.request = ⟨[.unsupported "--ipv4", .unsupported "--retry", .malformedHeader "a"], .ok r⟩ ∧
    (a.without ["retry", "verbose", "ipv4"]).request.result = .ok r ∧
    ∃ removed : List String,
      (∀ name, name ∈ removed ↔
        name ∈ ["retry", "verbose", "ipv4"] ∧ a.has name = true ∧ name ∉ silentFlags) ∧
      a.request.notes.Perm ((a.without ["retry", "verbose", "ipv4"]).request.notes ++
        removed.map (.unsupported <| spelling ·)) := by
  let a : Arguments := ⟨[⟨"ipv4", false, .toggle true⟩, ⟨"verbose", false, .toggle true⟩,
    ⟨"retry", false, .word "1"⟩, ⟨"header", true, .word "a"⟩, ⟨"retry", false, .word "2"⟩],
    ["http://h/"]⟩
  let r : Request := { method := .get, url := "http://h/" }
  have hothers : ∀ name ∈ ["retry", "verbose", "ipv4"], name ∉ handledFlags := by decide
  have hr : a.request.result = .ok r := by decide
  have hnotes : a.request.notes =
      [.unsupported "--ipv4", .unsupported "--retry", .malformedHeader "a"] := by decide
  obtain ⟨hresult, hremoved⟩ := request_without hothers a
  obtain ⟨removed, -, hmem, -, hperm⟩ := hremoved r hr
  refine ⟨a, r, by cbv, hothers, ?_, hresult.trans hr, removed, hmem, hperm⟩
  rw [Noted.eq_of_result hr, hnotes]

end CurlScribe.Arguments
