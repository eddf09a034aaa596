import CurlScribe.Proofs.Arguments.Setting
import CurlScribe.Proofs.Request.Dependence
import CurlScribe.Proofs.Url.Userinfo

namespace CurlScribe.Arguments

open Request Url

variable {a b : Arguments} {r : Request} {headers : List (String × String)}

theorem sameOn_of_without {others : List String}
    (h : (b.without others).occurrences = (a.without others).occurrences)
    (hothers : others ⊆ ["url", "user", "oauth2-bearer"]) :
    SameOn methodFlags b a ∧ SameOn transferFlags b a := by
  have happart : ∀ n ∈ methodFlags ++ transferFlags, n ∉ ["url", "user", "oauth2-bearer"] := by
    decide
  constructor
  · exact .of_without h fun n hn hother =>
      happart n (List.mem_append_left _ hn) (hothers hother)
  · exact .of_without h fun n hn hother =>
      happart n (List.mem_append_right _ hn) (hothers hother)

theorem hasAuthorization_sentHeaders (h : hasAuthorization a.customHeaders = true) :
    hasAuthorization a.sentHeaders = true := by
  obtain ⟨header, hcustom, hname⟩ := List.any_eq_true.1 h
  have hmem : header ∈ a.headers := by simp [Arguments.headers, hcustom]
  refine List.any_eq_true.2 ⟨header, ?_, hname⟩
  unfold sentHeaders
  split
  · -- A header of that name is no content type, so it stays.
    refine List.mem_filter.2 ⟨hmem, ?_⟩
    have hname : Text.lower header.1 = "authorization" := of_decide_eq_true hname
    simp [isMultipartType, hname]
  · exact hmem

theorem auth_of_given
    (h : (a.text? "user").isSome = true ∨ (a.text? "oauth2-bearer").isSome = true ∨
      hasAuthorization headers = true) (inUrl inUrl' : Option (String × String)) :
    a.auth inUrl headers = a.auth inUrl' headers := by
  rcases h with h | h | h
  · obtain ⟨user, huser⟩ := Option.isSome_iff_exists.1 h
    simp only [auth, flagAuth, userAuth, user?, huser]
  · obtain ⟨token, htoken⟩ := Option.isSome_iff_exists.1 h
    simp only [auth, flagAuth, htoken]
  · rw [auth_eq_none h, auth_eq_none h]

theorem isSome_text?_of_given {lenient : Bool} {tokens : List String}
    {notices : List Arguments.Notice} (hread : parse .curl lenient tokens = ⟨notices, .ok a⟩)
    (hgiven : a.has "user" = true ∨ a.has "oauth2-bearer" = true ∨
      hasAuthorization a.customHeaders = true) :
    (a.text? "user").isSome = true ∨ (a.text? "oauth2-bearer").isSome = true ∨
      hasAuthorization a.sentHeaders = true := by
  have hfits := fits_of_parse hread
  have huser : Flag.text "user" ["u"] ∈ FlagTable.curl.flags := by decide
  have htoken : Flag.text "oauth2-bearer" [] ∈ FlagTable.curl.flags := by decide
  exact hgiven.imp (hfits.isSome_text? FlagTable.regular_curl huser rfl)
    (.imp (hfits.isSome_text? FlagTable.regular_curl htoken rfl) hasAuthorization_sentHeaders)

theorem request_eq_of_same {l l' : Location} {r' : Request} (hmethod : SameOn methodFlags b a)
    (htransfer : SameOn transferFlags b a) (hl : a.location.result = .ok l)
    (hl' : b.location.result = .ok l') (hurl : l'.url = l.url)
    (hauth : b.auth l'.credentials b.sentHeaders = a.auth l.credentials a.sentHeaders) :
    b.request.result = .ok r' ↔ a.request.result = .ok r' := by
  rw [request_eq_ok, request_eq_ok]
  simp only [hl, hl', Except.ok.injEq, exists_and_left, exists_eq_left',
    htransfer.connection.maxRedirects, hmethod.requestTo htransfer hurl hauth]

theorem location_of_userinfo {raw raw' : String} {start userinfo other rest : List Char}
    {l l' : Location} (h : Userinfo raw.toList start userinfo rest)
    (hother : ∀ c ∈ other, endsAuthority c = false)
    (hraw' : raw' = .ofList (start ++ (other ++ '@' :: rest))) (hl : locate raw = .ok l)
    (hl' : locate raw' = .ok l') : l'.url = l.url := by
  have h' : Userinfo raw'.toList start other rest := by
    rw [hraw', String.toList_ofList]
    exact h.replace hother
  rw [(h'.locate hl').2, (h.locate hl).2]

theorem request_of_authorization (hheader : hasAuthorization a.customHeaders = true)
    (hsame : b.without ["user", "oauth2-bearer"] = a.without ["user", "oauth2-bearer"])
    (hr : a.request.result = .ok r) : b.request.result = .ok r := by
  obtain ⟨l, -, hlocation, -, -⟩ := request_eq_ok.1 hr
  have hoccurrences := congrArg Arguments.occurrences hsame
  obtain ⟨hmethod, htransfer⟩ := sameOn_of_without hoccurrences (by simp)
  have hurlFlag : SameOn ["url"] b a := .of_without hoccurrences (by decide)
  have hoperands := congrArg Arguments.operands hsame
  change b.operands = a.operands at hoperands
  have hurls : b.urls = a.urls := by
    rw [Arguments.urls, hurlFlag.texts (List.mem_singleton_self _), hoperands, Arguments.urls]
  have hlocation' : b.location.result = .ok l := by
    rw [location_eq_ok, hurls, ← location_eq_ok, hlocation]
  have hsent : b.sentHeaders = a.sentHeaders := hmethod.bodyOfMethod.sentHeaders
  have hauth : b.auth l.credentials b.sentHeaders = a.auth l.credentials a.sentHeaders := by
    have hauthorization := hasAuthorization_sentHeaders hheader
    rw [auth_eq_none hauthorization, auth_eq_none (hsent ▸ hauthorization)]
  exact (request_eq_of_same hmethod htransfer hlocation hlocation' rfl hauth).2 hr

/-- The request is the same whatever else the URL has in the place of its credentials, if a user, a
token or a header is given; and with a header, whatever user and token are given. -/
theorem request_of_losing_credentials {lenient : Bool} {tokens : List String}
    {notices : List Arguments.Notice} {url : String} {others : List String}
    (hread : parse .curl lenient tokens = ⟨notices, .ok a⟩) (hr : a.request.result = .ok r)
    (hurls : a.urls = url :: others) :
    ((∃ start userinfo rest, Userinfo url.toList start userinfo rest) ↔
      ∃ l, locate url = .ok l ∧ l.credentials.isSome = true) ∧
    (a.has "user" = true ∨ a.has "oauth2-bearer" = true ∨
        hasAuthorization a.customHeaders = true →
      ∀ start userinfo rest, Userinfo url.toList start userinfo rest →
      ∀ other, (∀ c ∈ other, endsAuthority c = false) →
      ∀ b : Arguments, (b.without ["url"]).occurrences = (a.without ["url"]).occurrences →
        b.urls = .ofList (start ++ (other ++ '@' :: rest)) :: others →
        ∀ r', b.request.result = .ok r' → r' = r) ∧
    (hasAuthorization a.customHeaders = true →
      ∀ b : Arguments, b.without ["user", "oauth2-bearer"] = a.without ["user", "oauth2-bearer"] →
        b.request.result = .ok r) := by
  obtain ⟨l, -, hlocation, -, -⟩ := request_eq_ok.1 hr
  obtain ⟨url', others', hurls', hl⟩ := location_eq_ok.1 hlocation
  obtain ⟨rfl, rfl⟩ := List.cons.inj (hurls'.symm.trans hurls)
  refine ⟨?_, ?_, fun hheader b hsame => request_of_authorization hheader hsame hr⟩
  · rw [exists_userinfo hl]
    simp [hl]
  · intro hgiven start userinfo rest huserinfo other hother b hsame hb r' hr'
    obtain ⟨hmethod, htransfer⟩ := sameOn_of_without hsame (by simp)
    obtain ⟨l', -, hlocation', -, -⟩ := request_eq_ok.1 hr'
    obtain ⟨url'', others'', hurls'', hl'⟩ := location_eq_ok.1 hlocation'
    obtain ⟨hurl', rfl⟩ := List.cons.inj (hurls''.symm.trans hb)
    have hurl : l'.url = l.url := location_of_userinfo huserinfo hother hurl' hl hl'
    have hauthFlags : SameOn authFlags b a := .of_without hsame (by decide)
    have hauth : b.auth l'.credentials b.sentHeaders = a.auth l.credentials a.sentHeaders := by
      rw [hmethod.bodyOfMethod.sentHeaders, auth, hauthFlags.flagAuth, ← auth]
      exact auth_of_given (isSome_text?_of_given hread hgiven) ..
    have hrb := (request_eq_of_same hmethod htransfer hlocation hlocation' hurl hauth).1 hr'
    exact Except.ok.inj (hrb.symm.trans hr)

theorem request_of_losing_credentials_header : ∃ a b c r,
    parse .curl true ["-ume:x", "-HAuthorization:t", "HTTP://a:b@c@h/p?q"] = ⟨[], .ok a⟩ ∧
    parse .curl true ["-ume:x", "-HAuthorization:t", "HTTP://@h/p?q"] = ⟨[], .ok b⟩ ∧
    parse .curl true ["-HAuthorization:t", "HTTP://a:b@c@h/p?q", "-uyou"] = ⟨[], .ok c⟩ ∧
    a.request.result = .ok r ∧ b.request.result = .ok r ∧ c.request.result = .ok r := by
  let given (user url : String) : Arguments :=
    ⟨[⟨"user", false, .word user⟩, ⟨"header", true, .word "Authorization:t"⟩], [url]⟩
  let a := given "me:x" "HTTP://a:b@c@h/p?q"
  let b := given "me:x" "HTTP://@h/p?q"
  let c : Arguments := ⟨[⟨"header", true, .word "Authorization:t"⟩, ⟨"user", false, .word "you"⟩],
    ["HTTP://a:b@c@h/p?q"]⟩
  let r : Request :=
    { method := .get, url := "http://h/p?q", headers := [("Authorization", "t")] }
  have hread : parse .curl true ["-ume:x", "-HAuthorization:t", "HTTP://a:b@c@h/p?q"] =
      ⟨[], .ok a⟩ := by cbv
  have hr : a.request.result = .ok r := by decide
  have huserinfo : Userinfo "HTTP://a:b@c@h/p?q".toList "HTTP://".toList "a:b@c".toList
      "h/p?q".toList :=
    ⟨rfl, .inr ⟨"HTTP".toList, .mk (by decide) (by decide), rfl⟩, by simp [endsAuthority],
      by simp [endsAuthority]⟩
  have hgiven : hasAuthorization a.customHeaders = true := by decide
  obtain ⟨-, hinUrl, hheader⟩ := request_of_losing_credentials hread hr rfl
  refine ⟨a, b, c, r, hread, by cbv, by cbv, hr, ?_, hheader hgiven c (by decide)⟩
  obtain ⟨r', hr'⟩ : ∃ r', b.request.result = .ok r' := ⟨r, by decide⟩
  obtain rfl := hinUrl (.inr (.inr hgiven)) _ _ _ huserinfo [] (by simp) b (by decide)
    (by decide) r' hr'
  exact hr'

end CurlScribe.Arguments
