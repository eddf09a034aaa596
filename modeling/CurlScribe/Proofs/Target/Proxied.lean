import CurlScribe.Proofs.Target.Failure

namespace CurlScribe

open Target Url

structure Url.Splits (authority : List Char) : Prop where
  paired : Paired authority
  bracketed : '[' ∈ authority →
    bracketsFit authority = true ∧ checkAddress (hostPort authority).1 = .ok ()
  plain : ∀ c ∈ authority, c ∉ lookalikes

theorem Url.exists_ofString_eq_ok {s : String} :
    (∃ u, Url.ofString s = .ok u) ↔ Splits (authorityIn s.toList) := by
  change (∃ u, Url.ofList s.toList = .ok u) ↔ _
  rw [exists_ofList_eq_ok, checkBrackets_eq_ok, checkLookalikes_eq_ok]
  constructor
  · rintro ⟨⟨paired, bracketed⟩, plain⟩
    exact ⟨paired, bracketed, plain⟩
  · rintro ⟨paired, bracketed, plain⟩
    exact ⟨⟨paired, bracketed⟩, plain⟩

def proxyAuthority (proxy : String) : List Char := authorityIn (proxyUrl proxy).toList

theorem splits_proxyAuthority_iff {proxy : String} :
    Splits (proxyAuthority proxy) ↔ ∀ reason, Url.ofString (proxyUrl proxy) ≠ .error reason := by
  rw [← exists_eq_ok_iff, exists_ofString_eq_ok, proxyAuthority]

theorem proxyUrl_of_scheme {proxy : String} {scheme rest : List Char} (h : IsScheme scheme)
    (hs : proxy.toList = scheme ++ ':' :: '/' :: '/' :: rest) : proxyUrl proxy = proxy := by
  have hcolon : ':' ∉ scheme := fun hm => absurd (h.isSchemeChar hm) (by decide)
  have hcut : Text.cutOnList "://".toList proxy.toList = (scheme, some rest) := by
    rw [hs]
    exact Text.cutOnList_append hcolon rest
  rw [proxyUrl, if_pos]
  rw [Text.contains, hcut]
  rfl

namespace Target

def Notice.IsOfProxy : Notice → Prop
  | .proxyUserAlone => True
  | .proxyPortDefault _ => True
  | .proxyPortAssumed _ => True
  | .proxyAsHttp _ => True
  | _ => False

/-- The targets that take the address of a proxy in pieces. -/
def splitsProxy : Target → Bool
  | .nodeAxios | .ruby => true
  | _ => false

end Target

variable {r : Request} {t : Target}

def Request.direct (r : Request) : Request := { r with proxy := none, proxyAuth := none }

theorem featureNotices_direct (h : t.splitsProxy = true) :
    t.featureNotices r.direct = t.featureNotices r := by
  unfold featureNotices
  congr 1
  apply List.filter_congr
  intro f _
  -- Both features that the two requests differ in are supported.
  cases f with
  | proxy => cases t <;> first | rfl | cases h
  | proxyAuth => cases t <;> first | rfl | cases h
  | _ => rfl

theorem isOfProxy_proxyUserNotices {n : Target.Notice} (h : n ∈ r.proxyUserNotices) :
    n.IsOfProxy := by
  unfold Request.proxyUserNotices at h
  split at h
  · obtain rfl := List.mem_singleton.1 h
    trivial
  · cases h

theorem RubyScript.isOfProxy_proxyNotices {address : Option ProxyAddress} {n : Target.Notice}
    (h : n ∈ RubyScript.proxyNotices r address) : n.IsOfProxy := by
  unfold RubyScript.proxyNotices RubyScript.schemeNotices at h
  split at h
  · rcases List.mem_append.1 h with h | h
    · split at h
      · cases h
      · obtain rfl := List.mem_singleton.1 h
        trivial
    · split at h
      · cases h
      · obtain rfl := List.mem_singleton.1 h
        trivial
  · exact isOfProxy_proxyUserNotices h

theorem AxiosCall.isOfProxy_portNotices {address : Option ProxyAddress} {n : Target.Notice}
    (h : n ∈ AxiosCall.portNotices r address) : n.IsOfProxy := by
  unfold AxiosCall.portNotices at h
  split at h
  · split at h
    · cases h
    · obtain rfl := List.mem_singleton.1 h
      trivial
  · cases h

theorem RubyScript.notes_write (hparts : r.checkParts = .ok ()) :
    (RubyScript.write r).notes = Target.ruby.featureNotices r ++
      match r.proxy.mapM ProxyAddress.ofString with
      | .ok address => RubyScript.proxyNotices r address
      | .error _ => [] := by
  cases h : r.proxy.mapM ProxyAddress.ofString <;> simp [RubyScript.write, hparts, h]

theorem AxiosCall.notes_write (htimeout : r.timeout = none) :
    (AxiosCall.write r).notes =
      Target.nodeAxios.featureNotices r ++ r.mergeNotices .nodeAxios ++
        match r.proxy.mapM ProxyAddress.ofString with
        | .ok address => AxiosCall.portNotices r address ++ r.proxyUserNotices
        | .error _ => [] := by
  have htime : r.timeout.mapM milliseconds = .ok none := by rw [htimeout]; rfl
  cases h : r.proxy.mapM ProxyAddress.ofString <;> simp [AxiosCall.write, htime, h]

theorem notes_write_of_direct (ht : t.splitsProxy = true) (hparts : r.checkParts = .ok ())
    (htimeout : r.timeout = none) :
    ∃ more, (t.write r).notes = (t.write r.direct).notes ++ more ∧ ∀ n ∈ more, n.IsOfProxy := by
  cases t with
  | ruby =>
    have hnone : (Target.write .ruby r.direct).notes = Target.ruby.featureNotices r := by
      rw [← featureNotices_direct ht]
      exact (RubyScript.notes_write (r := r.direct) hparts).trans (List.append_nil _)
    rw [hnone]
    refine ⟨_, RubyScript.notes_write hparts, fun n hn => ?_⟩
    split at hn
    · exact RubyScript.isOfProxy_proxyNotices hn
    · cases hn
  | nodeAxios =>
    have hnone : (Target.write .nodeAxios r.direct).notes =
        Target.nodeAxios.featureNotices r ++ r.mergeNotices .nodeAxios := by
      rw [← featureNotices_direct ht]
      exact (AxiosCall.notes_write (r := r.direct) htimeout).trans (List.append_nil _)
    rw [hnone]
    refine ⟨_, AxiosCall.notes_write htimeout, fun n hn => ?_⟩
    split at hn
    · rcases List.mem_append.1 hn with hn | hn
      · exact AxiosCall.isOfProxy_portNotices hn
      · exact isOfProxy_proxyUserNotices hn
    · cases hn
  | _ => cases ht

theorem write_eq_error_of_splitsProxy {f : Target.Fault} (ht : t.splitsProxy = true)
    (hparts : r.checkParts = .ok ()) (htimeout : r.timeout = none) :
    (t.write r).result = .error f ↔
      ∃ p ∈ r.proxy, ∃ reason, Url.ofString (proxyUrl p) = .error reason ∧
        f = .badUrl reason := by
  cases t with
  | ruby => exact RubyScript.write_eq_error hparts
  | nodeAxios =>
    refine AxiosCall.write_eq_error.trans ?_
    simp [htimeout]
  | _ => cases ht

namespace Arguments

variable {a : Arguments}

theorem checkParts_of_request (h : a.request.result = .ok r) : r.checkParts = .ok () :=
  checkParts_of_wellFormed (wellFormed_of_request h).parts

/-- Without a timeout, a request through a proxy is written exactly if the text of the proxy can be
taken apart. Whatever the proxy is, it draws no other notices than those about proxies; where its
text cannot be taken apart, the program has no words for the failure. -/
theorem write_proxied (hr : a.request.result = .ok r) (htimeout : r.timeout = none)
    (ht : t.splitsProxy = true) :
    ((∃ code, (t.write r).result = .ok code) ↔
      ∀ proxy ∈ r.proxy, Splits (proxyAuthority proxy)) ∧
    (∃ more, (t.write r).notes = (t.write r.direct).notes ++ more ∧ ∀ n ∈ more, n.IsOfProxy) ∧
    ∀ f, (t.write r).result = .error f ↔
      ∃ proxy ∈ r.proxy, ∃ reason, Url.ofString (proxyUrl proxy) = .error reason ∧
        f = .badUrl reason ∧ (Failure.target t f).isUnforeseen = true := by
  have hparts := checkParts_of_request hr
  have hwrite {f : Target.Fault} := write_eq_error_of_splitsProxy (f := f) ht hparts htimeout
  refine ⟨?_, notes_write_of_direct ht hparts htimeout, fun f => ?_⟩
  · simp only [exists_eq_ok_iff, Ne, hwrite, splits_proxyAuthority_iff]
    constructor
    · intro h proxy hproxy reason hreason
      exact h _ ⟨proxy, hproxy, reason, hreason, rfl⟩
    · rintro h f ⟨proxy, hproxy, reason, hreason, -⟩
      exact h proxy hproxy reason hreason
  · rw [hwrite]
    constructor
    · rintro ⟨proxy, hproxy, reason, hreason, rfl⟩
      exact ⟨proxy, hproxy, reason, hreason, rfl, rfl⟩
    · rintro ⟨proxy, hproxy, reason, hreason, hf, -⟩
      exact ⟨proxy, hproxy, reason, hreason, hf⟩

theorem write_proxied_port : ∃ a r,
    (parse .curl true ["-x", "h:x", "http://h/"]).result = .ok a ∧ a.request.result = .ok r ∧
    r.timeout = none ∧ r.proxy = some "h:x" ∧
    (∃ code, (Target.ruby.write r).result = .ok code) ∧
    ∃ code, (Target.nodeAxios.write r).result = .ok code := by
  let a : Arguments := ⟨[⟨"proxy", false, .word "h:x"⟩], ["http://h/"]⟩
  let r : Request := { method := .get, url := "http://h/", proxy := some "h:x" }
  have hr : a.request.result = .ok r := by decide
  have hplain : proxyAuthority "h:x" = ['h', ':', 'x'] := by decide
  have hsplits : ∀ proxy ∈ r.proxy, Splits (proxyAuthority proxy) := by
    rintro _ ⟨⟩
    rw [hplain]
    exact ⟨by simp [Paired], by simp, by simp [lookalikes]⟩
  obtain ⟨hruby, -⟩ := write_proxied (t := .ruby) hr rfl rfl
  obtain ⟨haxios, -⟩ := write_proxied (t := .nodeAxios) hr rfl rfl
  exact ⟨a, r, by cbv, hr, rfl, rfl, hruby.2 hsplits, haxios.2 hsplits⟩

theorem write_proxied_refused : ∃ a r,
    (parse .curl true ["-x", "[", "http://h/"]).result = .ok a ∧ a.request.result = .ok r ∧
    r.timeout = none ∧ r.connectTimeout = none ∧ ∀ t : Target, t.splitsProxy = true →
      (t.write r).result = .error (.badUrl .brackets) ∧
      (Failure.target t (.badUrl .brackets)).isUnforeseen = true := by
  let a : Arguments := ⟨[⟨"proxy", false, .word "["⟩], ["http://h/"]⟩
  let r : Request := { method := .get, url := "http://h/", proxy := some "[" }
  refine ⟨a, r, by cbv, by decide, rfl, rfl, fun t ht => ?_⟩
  cases t with
  | ruby => exact ⟨by decide, rfl⟩
  | nodeAxios => exact ⟨by decide, rfl⟩
  | _ => cases ht

end Arguments

end CurlScribe
