import CurlScribe.Proofs.Request.Topic
import CurlScribe.Proofs.Text.Trim
import CurlScribe.Proofs.Url.Form

namespace CurlScribe

namespace Text

theorem splitList_joined_spaced {sep : Char} (hsep : sep ≠ ' ') {piece : String}
    {pieces : List String} (h : ∀ p ∈ piece :: pieces, sep ∉ p.toList) :
    splitList sep (joined (.singleton sep ++ " ") (piece :: pieces)).toList =
      piece.toList :: pieces.map fun p => ' ' :: p.toList := by
  induction pieces generalizing piece with
  | nil => exact splitList_of_not_mem (h piece List.mem_cons_self)
  | cons next pieces ih =>
    obtain ⟨hpiece, hrest⟩ := List.forall_mem_cons.1 h
    have htext : (joined (.singleton sep ++ " ") (piece :: next :: pieces)).toList =
        piece.toList ++ sep :: ' ' :: (joined (.singleton sep ++ " ") (next :: pieces)).toList := by
      simp [joined]
    rw [htext, splitList_append hpiece, splitList, if_neg hsep.symm, ih hrest]
    rfl

theorem map_trim_split_joined {sep : Char} (hsep : sep ≠ ' ') {pieces : List String}
    (hne : pieces ≠ []) (h : ∀ p ∈ pieces, sep ∉ p.toList) :
    (split sep (joined (.singleton sep ++ " ") pieces)).map trim = pieces.map trim := by
  obtain ⟨piece, pieces, rfl⟩ := List.exists_cons_of_ne_nil hne
  have hspace (p : String) : trim (.ofList (' ' :: p.toList)) = trim p := by
    rw [trim_cons (by decide), String.ofList_toList]
  rw [split, splitList_joined_spaced hsep h, List.map_cons, List.map_cons, List.map_cons,
    String.ofList_toList, List.map_map, List.map_map]
  exact congrArg _ (List.map_congr_left fun p _ => hspace p)

section Cut

variable {sep d : Char} {s : String}

theorem not_mem_fst_cut (sep : Char) (s : String) : sep ∉ (cut sep s).1.toList := by
  simpa [cut] using not_mem_fst_cutList sep s.toList

theorem mem_of_mem_fst_cut (h : d ∈ (cut sep s).1.toList) : d ∈ s.toList :=
  mem_of_mem_fst_cutList (by simpa [cut] using h)

theorem mem_of_mem_snd_cut (h : d ∈ ((cut sep s).2.getD "").toList) : d ∈ s.toList := by
  have hparts := append_elim_cutList sep s.toList
  rcases hcut : cutList sep s.toList with ⟨before, _ | after⟩ <;> rw [hcut] at hparts
  · simp [cut, hcut] at h
  · rw [← hparts]
    exact List.mem_append_right _ (List.mem_cons_of_mem _ (by simpa [cut, hcut] using h))

end Cut

end Text

namespace Request

open Text

variable {raw : String} {c : String × String} {cookies : List (String × String)}

def cookieText (c : String × String) : String := c.1 ++ "=" ++ c.2

theorem toList_cookieText (c : String × String) :
    (cookieText c).toList = c.1.toList ++ '=' :: c.2.toList := by
  simp [cookieText]

theorem cookieText_ne (c : String × String) : cookieText c ≠ "" := by
  intro h
  have hlist := toList_cookieText c
  rw [h] at hlist
  exact List.append_ne_nil_of_right_ne_nil _ (List.cons_ne_nil _ _) hlist.symm

/-- What cookies in a text are: neither the name nor the value has white space around it, or a
semicolon in it, and no equals sign is in the name. -/
structure IsCookie (c : String × String) : Prop where
  name : trim c.1 = c.1
  value : trim c.2 = c.2
  equals : '=' ∉ c.1.toList
  semicolon : ';' ∉ (cookieText c).toList

theorem isCookie_of_mem (h : c ∈ cookiesIn raw) : IsCookie c := by
  unfold cookiesIn at h
  split at h
  · simp only [List.mem_map, List.mem_filter] at h
    obtain ⟨_, ⟨⟨piece, hpiece, rfl⟩, -⟩, rfl⟩ := h
    obtain ⟨chars, hchars, rfl⟩ := List.mem_map.1 hpiece
    have hpiece : ';' ∉ (trim (.ofList chars)).toList := fun hmem =>
      not_mem_of_mem_splitList hchars (by simpa using mem_of_mem_trim hmem)
    generalize trim (.ofList chars) = text at hpiece ⊢
    have hname : ';' ∉ (trim (cut '=' text).1).toList := fun hmem =>
      hpiece (mem_of_mem_fst_cut (mem_of_mem_trim hmem))
    have hvalue : ';' ∉ (trim ((cut '=' text).2.getD "")).toList := fun hmem =>
      hpiece (mem_of_mem_snd_cut (mem_of_mem_trim hmem))
    refine ⟨trim_trim _, trim_trim _, mt mem_of_mem_trim (not_mem_fst_cut '=' text), ?_⟩
    simp [cookieText, hname, hvalue]
  · cases h

theorem trim_cookieText (h : IsCookie c) : trim (cookieText c) = cookieText c := by
  obtain ⟨hname, -⟩ := trim_eq_self.1 h.name
  obtain ⟨-, hvalue⟩ := trim_eq_self.1 h.value
  have hequals : isBlank '=' = false := by decide
  rw [trim_eq_self, toList_cookieText]
  -- Where the name or the value is empty, the text starts or ends with the equals sign.
  constructor
  · cases hchars : c.1.toList with
    | nil => simpa using hequals
    | cons d name => simpa [hchars] using hname
  · cases hchars : c.2.toList with
    | nil => simpa using hequals
    | cons d value => simpa [hchars, List.getLast?_append] using hvalue

theorem hasChar_joined (hne : cookies ≠ []) :
    hasChar '=' (joined "; " (cookies.map cookieText)) = true := by
  obtain ⟨c, cookies, rfl⟩ := List.exists_cons_of_ne_nil hne
  obtain ⟨head, tail, htext⟩ := exists_joined "; " [] (cookies.map cookieText)
  rw [List.map_cons, ← List.nil_append (_ :: _), htext]
  simp [hasChar, toList_cookieText]

theorem cookiesIn_joined (hne : cookies ≠ []) (h : ∀ c ∈ cookies, IsCookie c) :
    cookiesIn (joined "; " (cookies.map cookieText)) = cookies := by
  have hpieces : (split ';' (joined "; " (cookies.map cookieText))).map trim =
      cookies.map cookieText := by
    have hsemicolon : (';' : Char) ≠ ' ' := by decide
    refine (map_trim_split_joined hsemicolon (by simpa using hne)
      (List.forall_mem_map.2 fun c hc => (h c hc).semicolon)).trans ?_
    rw [List.map_map]
    exact List.map_congr_left fun c hc => trim_cookieText (h c hc)
  have hkept : (cookies.map cookieText).filter (· ≠ "") = cookies.map cookieText := by
    exact List.filter_eq_self.2 (List.forall_mem_map.2 fun c _ => decide_eq_true (cookieText_ne c))
  rw [cookiesIn, if_pos (hasChar_joined hne), hpieces, hkept, List.map_map]
  refine (List.map_congr_left fun c hc => ?_).trans (List.map_id cookies)
  have hcut : cut '=' (cookieText c) = (c.1, some c.2) := cut_equals (h c hc).equals c.2
  simp [hcut, (h c hc).name, (h c hc).value]

end Request

namespace Arguments

open Request

variable {a b : Arguments} {r : Request} {text : String} {l : Location} {topic : Topic}

/-- Whether arguments differ in their cookies only, all of which one flag gives in a text. -/
structure CookiesReplaced (a b : Arguments) (text : String) : Prop where
  others : b.without ["cookie"] = a.without ["cookie"]
  cookie : b.named "cookie" = [⟨"cookie", true, .word text⟩]

theorem exists_cookiesReplaced (a : Arguments) (text : String) :
    ∃ b, CookiesReplaced a b text := by
  refine ⟨⟨(a.without ["cookie"]).occurrences ++ [⟨"cookie", true, .word text⟩], a.operands⟩,
    ?_, ?_⟩
  · simp [without]
  · simp [named, without]

namespace CookiesReplaced

variable (h : CookiesReplaced a b text)

include h

theorem sameOn {names : List String} (hnames : "cookie" ∉ names) : SameOn names b a := by
  refine .of_without (congrArg occurrences h.others) fun n hn hcookie => hnames ?_
  exact List.mem_singleton.1 hcookie ▸ hn

theorem cookies : b.cookies = cookiesIn text := by
  simp [Arguments.cookies, texts, h.cookie, Setting.text?]

theorem cookieNotices (hequals : Text.hasChar '=' text = true) : b.cookieNotices = [] := by
  simp [Arguments.cookieNotices, texts, h.cookie, Setting.text?, hequals]

theorem location : b.location = a.location := by
  have hsame : SameOn locationFlags b a := h.sameOn (by decide)
  have hoperands : (b.without ["cookie"]).operands = (a.without ["cookie"]).operands := by
    rw [h.others]
  exact hsame.location hoperands

theorem unsupportedNotices : b.unsupportedNotices = a.unsupportedNotices := by
  have hnames (c : Arguments) : c.unsupportedNotices =
      ((c.without ["cookie"]).names.filter fun name =>
        !handledFlags.contains name && !silentFlags.contains name).map
          (.unsupported <| spelling ·) := by
    rw [names_without, List.filter_filter, Arguments.unsupportedNotices]
    congr 1
    refine List.filter_congr fun name _ => ?_
    -- The cookies are among the flags that shape the request.
    by_cases hcookie : name = "cookie"
    · subst hcookie
      decide
    · simp [hcookie]
  rw [hnames b, h.others, ← hnames a]

theorem auth (inUrl : Option (String × String)) (headers : List (String × String)) :
    b.auth inUrl headers = a.auth inUrl headers := by
  rw [Arguments.auth, (h.sameOn (by decide)).flagAuth, Arguments.auth]

theorem requestTo (l : Location) :
    b.requestTo l = { a.requestTo l with cookies := cookiesIn text } := by
  have hmethod : SameOn methodFlags b a := h.sameOn (by decide)
  have hauth : b.auth l.credentials b.sentHeaders = a.auth l.credentials a.sentHeaders := by
    rw [hmethod.bodyOfMethod.sentHeaders, h.auth]
  rw [hmethod.requestTo_of_connection (h.sameOn (by decide)) rfl hauth, h.cookies]

theorem result_request (hr : a.request.result = .ok r) :
    b.request.result = .ok { r with cookies := cookiesIn text } := by
  have hconnection : SameOn connectionFlags b a := h.sameOn (by decide)
  obtain ⟨l, redirects, hl, hredirects, rfl⟩ := request_eq_ok.1 hr
  refine request_eq_ok.2 ⟨l, redirects, h.location ▸ hl, ?_, ?_⟩
  · rw [hconnection.maxRedirects, hredirects]
  · rw [h.requestTo]

theorem noticesOn (l : Location) (htopic : topic ≠ .cookies) :
    b.noticesOn l topic = a.noticesOn l topic := by
  have hmethod : SameOn methodFlags b a := h.sameOn (by decide)
  have hconnection : SameOn connectionFlags b a := h.sameOn (by decide)
  have hauth : SameOn authFlags b a := h.sameOn (by decide)
  have hbody := hmethod.bodyOfMethod
  have hnumber {α : Type} (read : String → Option α) {flag : String}
      (hflag : flag ∈ connectionFlags) : b.numberNotices read flag = a.numberNotices read flag :=
    hconnection.numberNotices hflag
  cases topic with
  | location => exact congrArg Noted.notes h.location
  | unsupported => exact h.unsupportedNotices
  | headers => exact hbody.headersOfBody.headerNotices
  | payload => exact hbody.payloadNotices
  | body => exact hbody.bodyNotices
  | upload => exact hmethod.uploadNotices
  | auth =>
    simp only [Arguments.noticesOn, hbody.sentHeaders]
    exact hauth.authNotices _ _
  | method => exact hmethod.methodNotices
  | cookies => exact absurd rfl htopic
  | proxy => exact hconnection.proxyNotices
  | number =>
    simp only [Arguments.noticesOn, hnumber Numeral.integer? (show "max-redirs" ∈ _ by decide),
      hnumber Numeral.finite? (show "max-time" ∈ _ by decide),
      hnumber Numeral.finite? (show "connect-timeout" ∈ _ by decide)]

theorem notes_request (hequals : Text.hasChar '=' text = true) (hr : a.request.result = .ok r) :
    b.request.notes = a.request.notes.filter (·.topic ≠ .cookies) := by
  obtain ⟨l, hl, hnotes⟩ := notes_eq_flatMap hr
  obtain ⟨l', hl', hnotes'⟩ := notes_eq_flatMap (h.result_request hr)
  obtain rfl : l' = l := by
    rw [h.location, hl] at hl'
    exact (Except.ok.inj hl').symm
  rw [hnotes, hnotes', List.filter_flatMap]
  congr 1
  funext topic
  by_cases htopic : topic = .cookies
  · subst htopic
    have hnone : (a.noticesOn l' .cookies).filter (·.topic ≠ .cookies) = [] :=
      List.filter_eq_nil_iff.2 fun n hn => by simp [about_noticesOn a l' .cookies n hn]
    rw [hnone]
    exact h.cookieNotices hequals
  · rw [h.noticesOn l' htopic, List.filter_eq_self.2]
    exact fun n hn => by simpa [about_noticesOn a l' topic n hn] using htopic

end CookiesReplaced

/-- The cookies of a request, written as the one text that they are sent as, are read as the same
cookies, wherever the flag for them stands: the request is the same, and so are the notices but for
those on files of cookies, of which there are none. -/
theorem cookies_normal (hr : a.request.result = .ok r) (hne : r.cookies ≠ []) :
    (∃ b, CookiesReplaced a b r.cookieHeader) ∧
    ∀ b, CookiesReplaced a b r.cookieHeader →
      b.request.result = .ok r ∧
      b.request.notes = a.request.notes.filter (·.topic ≠ .cookies) ∧
      ∀ raw, .cookiesFromFile raw ∉ b.request.notes := by
  have hcookies : ∀ c ∈ r.cookies, IsCookie c := by
    obtain ⟨l, redirects, -, -, rfl⟩ := request_eq_ok.1 hr
    intro c hc
    obtain ⟨raw, -, hraw⟩ := List.mem_flatMap.1 hc
    exact isCookie_of_mem hraw
  refine ⟨exists_cookiesReplaced a _, fun b hb => ?_⟩
  have hnotes := hb.notes_request (hasChar_joined hne) hr
  refine ⟨?_, hnotes, fun raw hraw => ?_⟩
  · rw [hb.result_request hr]
    exact congrArg (fun cookies => Except.ok { r with cookies }) (cookiesIn_joined hne hcookies)
  · rw [hnotes] at hraw
    simpa [Notice.topic] using (List.mem_filter.1 hraw).2

theorem cookies_normal_spaced : ∃ a r b,
    (parse .curl true ["-b", " a = b=c ;; =d;e f", "-b", "file", "-L", "--cookie", "g=\u00a0",
      "http://h/"]).result = .ok a ∧
    a.request = ⟨[.cookiesFromFile "file"], .ok r⟩ ∧
    r.cookies = [("a", "b=c"), ("", "d"), ("e f", ""), ("g", "")] ∧
    (parse .curl true ["-L", "-b", "a=b=c; =d; e f=; g=", "http://h/"]).result = .ok b ∧
    b.request = ⟨[], .ok r⟩ := by
  let a : Arguments := ⟨[⟨"cookie", true, .word " a = b=c ;; =d;e f"⟩,
    ⟨"cookie", true, .word "file"⟩, ⟨"location", false, .toggle true⟩,
    ⟨"cookie", true, .word "g=\u00a0"⟩], ["http://h/"]⟩
  let b : Arguments := ⟨[⟨"location", false, .toggle true⟩,
    ⟨"cookie", true, .word "a=b=c; =d; e f=; g="⟩], ["http://h/"]⟩
  let r : Request :=
    { method := .get, url := "http://h/",
      cookies := [("a", "b=c"), ("", "d"), ("e f", ""), ("g", "")],
      followRedirects := true }
  have hr : a.request.result = .ok r := by decide
  have hnotes : a.request.notes = [.cookiesFromFile "file"] := by decide
  have hheader : r.cookieHeader = "a=b=c; =d; e f=; g=" := by decide
  have hreplaced : CookiesReplaced a b r.cookieHeader := by
    rw [hheader]
    exact ⟨by decide, by decide⟩
  obtain ⟨hresult, hkept, -⟩ := (cookies_normal hr (by decide)).2 b hreplaced
  rw [hnotes] at hkept
  refine ⟨a, r, b, by cbv, ?_, rfl, by cbv, ?_⟩
  · rw [Noted.eq_of_result hr, hnotes]
  · rw [Noted.eq_of_result hresult, hkept]
    rfl

end Arguments

end CurlScribe
