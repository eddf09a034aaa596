import CurlScribe.Proofs.Target.ContentType
import CurlScribe.Proofs.Target.Proxied
import CurlScribe.Proofs.Url.Spliced

namespace CurlScribe

open Code (lit)
open Url

variable {r : Request} {t : Target} {proxy user password text : String}
  {start host port : List Char}

namespace Target

/-- A text is code that sends the request through the proxy of a URL. -/
inductive PassesProxy (url : String) : Target → String → Prop
  | python {c : Code} :
      RequestsScript.Passes c "proxies" (RequestsScript.literals [("http", url), ("https", url)]) →
      PassesProxy url .python (c.text Text.shown)
  | go {c : Code} :
      Code.lines (GoProgram.step "proxyURL" (Code.call "url.Parse" [lit url])) <:+: c →
      ([.code "\t\tProxy: http.ProxyURL(proxyURL),"] : Code) <:+: c →
      PassesProxy url .go (c.text (Json.quoted false))

end Target

namespace RequestsScript

theorem passes_proxies {url : String} (h : proxyUrl? r = some url) :
    Passes (code r) "proxies" (literals [("http", url), ("https", url)]) := by
  constructor
  · refine (Code.infix_joined ?_).trans (List.prefix_append ..).isInfix
    have hassigned : proxies url ∈ (proxyUrl? r).toList.map proxies := by
      rw [h]
      exact List.mem_singleton_self _
    exact List.mem_append_left _ (List.mem_append_right _ hassigned)
  · apply infix_code_of_argument
    simp [arguments, Code.when, h]

theorem exists_proxyUrl? (h : IsAddress start host port) (hproxy : r.proxy = some proxy)
    (hs : proxy.toList = start ++ (host ++ ':' :: port))
    (hauth : r.proxyAuth = some (user, password)) :
    ∃ url, proxyUrl? r = some url ∧
      url.toList = start ++ userAtHost user password host port := by
  have hfilled : filled? r.proxy = some proxy := by
    have hne : proxy ≠ "" := by
      rintro rfl
      simp at hs
    rw [hproxy, filled?]
    simp [hne]
  have hslash : '/' ∉ (host ++ ':' :: port).reverse := fun hm =>
    h.not_mem_slash (List.mem_reverse.1 hm)
  have hsep : "://".toList.reverse = '/' :: ['/', ':'] := rfl
  rcases h.start with rfl | ⟨scheme, -, rfl⟩
  · have hcut : Text.cutLastOn "://" proxy = (none, .ofList (host ++ ':' :: port)) := by
      rw [Text.cutLastOn, hs, hsep, List.nil_append,
        Text.cutOnList_of_not_mem List.mem_cons_self hslash]
      simp
    refine ⟨user ++ ":" ++ password ++ "@" ++ .ofList (host ++ ':' :: port), ?_, ?_⟩
    · rw [proxyUrl?, hfilled, Option.map_some, hauth]
      simp only [hcut]
    · simp [userAtHost]
  · have hreverse : (scheme ++ [':', '/', '/'] ++ (host ++ ':' :: port)).reverse =
        (host ++ ':' :: port).reverse ++ ('/' :: ['/', ':'] ++ scheme.reverse) := by
      simp
    have hcut : Text.cutLastOn "://" proxy =
        (some (.ofList scheme), .ofList (host ++ ':' :: port)) := by
      rw [Text.cutLastOn, hs, hsep, hreverse, Text.cutOnList_append hslash]
      simp
    refine ⟨.ofList scheme ++ "://" ++ user ++ ":" ++ password ++ "@"
      ++ .ofList (host ++ ':' :: port), ?_, ?_⟩
    · rw [proxyUrl?, hfilled, Option.map_some, hauth]
      simp only [hcut]
    · simp [userAtHost]

end RequestsScript

namespace GoProgram

theorem infix_code_of_client {l : List Code} {ms : Option Int} (h : l <:+: clientLines r ms) :
    Code.lines l <:+: code r ms := by
  apply infix_code_of_main
  simp only [List.append_assoc]
  exact h.trans (List.prefix_append _ _).isInfix

theorem passesProxy {ms : Option Int} (h : r.proxy = some proxy) :
    Target.go.PassesProxy (proxyText proxy r.proxyAuth)
      ((code r ms).text (Json.quoted false)) := by
  refine .go (infix_code_of_client ?_) ?_
  · have hlines : proxyLines r =
        step "proxyURL" (Code.call "url.Parse" [lit (proxyText proxy r.proxyAuth)]) := by
      rw [proxyLines, h]
    rw [← hlines, clientLines, List.append_assoc]
    exact (List.prefix_append _ _).isInfix
  · have hfield : ([.code "\t\tProxy: http.ProxyURL(proxyURL),"] : Code) ∈ transportFields r := by
      simp [transportFields, Code.when, h]
    have htransport : transportFields r <:+: clientLines r ms := by
      rw [clientLines, transportLines, if_neg (List.ne_nil_of_mem hfield)]
      simp only [List.append_assoc]
      exact (List.prefix_append _ _).isInfix.trans
        ((List.suffix_append _ _).isInfix.trans (List.suffix_append _ _).isInfix)
    exact (Code.infix_joined hfield).trans (infix_code_of_client htransport)

theorem exists_proxyUrl (h : IsAddress start host port)
    (hs : proxy.toList = start ++ (host ++ ':' :: port)) : ∃ scheme, IsScheme scheme ∧
      (proxyUrl proxy).toList = scheme ++ (':' :: ['/', '/'] ++ (host ++ ':' :: port)) := by
  rcases h.start with rfl | ⟨scheme, hscheme, rfl⟩
  · have hnone : Text.contains "://" proxy = false := by
      rw [Text.contains, hs, List.nil_append,
        Text.cutOnList_of_not_mem (c := '/') (by decide) h.not_mem_slash]
      rfl
    refine ⟨"http".toList, .mk (by decide) (by decide), ?_⟩
    rw [proxyUrl, hnone, if_neg Bool.false_ne_true, String.toList_append, hs]
    rfl
  · have heq : proxy.toList = scheme ++ ':' :: '/' :: '/' :: (host ++ ':' :: port) := by
      rw [hs, List.append_assoc]
      rfl
    exact ⟨scheme, hscheme, by rw [proxyUrl_of_scheme hscheme heq, heq]; rfl⟩

theorem exists_proxyText (user password : String) (h : IsAddress start host port)
    (hs : proxy.toList = start ++ (host ++ ':' :: port)) :
    ∃ given, IsAddress given host port ∧ (proxyText proxy (some (user, password))).toList =
      given ++ userAtHost user password host port := by
  obtain ⟨scheme, hscheme, hurl⟩ := exists_proxyUrl h hs
  have hcolon : ':' ∉ scheme := fun hm => absurd (hscheme.isSchemeChar hm) (by decide)
  have hsep : "://".toList = ':' :: ['/', '/'] := rfl
  refine ⟨scheme ++ [':', '/', '/'], ⟨.inr ⟨scheme, hscheme, rfl⟩, h.host, h.port⟩, ?_⟩
  simp only [proxyText, Text.cutOn, hurl, hsep, Text.cutOnList_append hcolon]
  simp [userAtHost]

end GoProgram

namespace Arguments

variable {a : Arguments}

theorem not_mem_colon_of_proxyAuth (hr : a.request.result = .ok r)
    (hauth : r.proxyAuth = some (user, password)) : ':' ∉ user.toList := by
  obtain ⟨l, redirects, -, -, rfl⟩ := request_eq_ok.1 hr
  obtain ⟨given, -, huser⟩ := Option.map_eq_some_iff.1 hauth
  obtain ⟨rfl, -⟩ := Prod.mk.inj huser
  rw [String.toList_ofList]
  exact Text.not_mem_fst_cutList ':' given.toList

/-- A proxy that is a host with a port is passed as a URL with the user before the host. The user, the
host and the port are found there again exactly if neither the name nor the password ends the
authority or has an escape in it. -/
theorem proxyUser_spliced (hr : a.request.result = .ok r) (hproxy : r.proxy = some proxy)
    (hauth : r.proxyAuth = some (user, password)) (haddress : IsAddress start host port)
    (hs : proxy.toList = start ++ (host ++ ':' :: port)) (ht : t = .python ∨ t = .go)
    (hwrite : (t.write r).result = .ok text) :
    ∃ url, t.PassesProxy url text ∧ (Reads url.toList user password host port ↔
      StandsForItself user.toList ∧ StandsForItself password.toList) := by
  have hcolon := not_mem_colon_of_proxyAuth hr hauth
  rcases ht with rfl | rfl
  · cases hwrite
    obtain ⟨url, hurl, hlist⟩ := RequestsScript.exists_proxyUrl? haddress hproxy hs hauth
    exact ⟨url, .python (RequestsScript.passes_proxies hurl), haddress.reads_iff hlist hcolon⟩
  · obtain ⟨ms, rfl⟩ := GoProgram.write_eq_ok hwrite
    obtain ⟨given, hgiven, hlist⟩ := GoProgram.exists_proxyText user password haddress hs
    rw [← hauth] at hlist
    exact ⟨_, GoProgram.passesProxy hproxy, hgiven.reads_iff hlist hcolon⟩

theorem proxyUser_spliced_at : ∃ a r url text,
    (parse .curl true ["-U", "u:p@w", "-x", "h:1", "http://h/"]).result = .ok a ∧
    a.request.result = .ok r ∧ r.proxy = some "h:1" ∧ r.proxyAuth = some ("u", "p@w") ∧
    IsAddress [] ['h'] ['1'] ∧ "h:1".toList = [] ++ (['h'] ++ ':' :: ['1']) ∧
    (Target.go.write r).result = .ok text ∧ Target.go.PassesProxy url text ∧
    Reads url.toList "u" "p@w" ['h'] ['1'] := by
  let a : Arguments := ⟨[⟨"proxy-user", false, .word "u:p@w"⟩, ⟨"proxy", false, .word "h:1"⟩],
    ["http://h/"]⟩
  let r : Request :=
    { method := .get, url := "http://h/", proxy := some "h:1", proxyAuth := some ("u", "p@w") }
  have hr : a.request.result = .ok r := by decide
  have haddress : IsAddress [] ['h'] ['1'] :=
    ⟨.inl rfl, by simp [endsAuthority], by simp [endsAuthority]⟩
  have hlist : "h:1".toList = [] ++ (['h'] ++ ':' :: ['1']) := by decide
  have hwrite : (Target.go.write r).result =
      .ok ((GoProgram.code r none).text (Json.quoted false)) := rfl
  obtain ⟨url, hpasses, hreads⟩ :=
    proxyUser_spliced (t := .go) hr rfl rfl haddress hlist (.inr rfl) hwrite
  refine ⟨a, r, url, _, by cbv, hr, rfl, rfl, haddress, hlist, hwrite, hpasses,
    hreads.2 ⟨?_, ?_⟩⟩
  · exact ⟨by simp [endsAuthority], percentDecode_eq_self.1 (by decide)⟩
  · exact ⟨by simp [endsAuthority], percentDecode_eq_self.1 (by decide)⟩

theorem proxyUser_spliced_slash : ∃ a r,
    (parse .curl true ["-U", "u:p/w", "-x", "h:1", "http://h/"]).result = .ok a ∧
    a.request.result = .ok r ∧ r.proxy = some "h:1" ∧ r.proxyAuth = some ("u", "p/w") ∧
    (Target.python.write r).result = .ok ("import requests\n\nproxies = \x7b\n"
      ++ "    'http': 'u:p/w@h:1',\n    'https': 'u:p/w@h:1',\n\x7d\n\n"
      ++ "response = requests.get('http://h/', proxies=proxies)\n") ∧
    (∃ text, (Target.go.write r).result = .ok text ∧
      Target.go.PassesProxy "http://u:p/w@h:1" text) ∧
    ∀ url ∈ ["u:p/w@h:1", "http://u:p/w@h:1"],
      ¬ Reads url.toList "u" "p/w" ['h'] ['1'] ∧
      Text.cutList ':' (hostPart (authorityOf url.toList)) = (['u'], some ['p']) := by
  let a : Arguments := ⟨[⟨"proxy-user", false, .word "u:p/w"⟩, ⟨"proxy", false, .word "h:1"⟩],
    ["http://h/"]⟩
  let r : Request :=
    { method := .get, url := "http://h/", proxy := some "h:1", proxyAuth := some ("u", "p/w") }
  have hgo : GoProgram.proxyText "h:1" (some ("u", "p/w")) = "http://u:p/w@h:1" := by decide
  refine ⟨a, r, by cbv, by decide, rfl, rfl, by decide,
    ⟨_, rfl, hgo ▸ GoProgram.passesProxy (r := r) rfl⟩, ?_⟩
  simp only [List.forall_mem_cons, List.not_mem_nil, false_implies, implies_true, and_true]
  have hfirst : Text.cutList ':' (hostPart (authorityOf "u:p/w@h:1".toList)) =
      (['u'], some ['p']) := by decide
  have hsecond : Text.cutList ':' (hostPart (authorityOf "http://u:p/w@h:1".toList)) =
      (['u'], some ['p']) := by decide
  refine ⟨⟨fun hreads => ?_, hfirst⟩, fun hreads => ?_, hsecond⟩
  · exact absurd (hfirst.symm.trans hreads.address) (by decide)
  · exact absurd (hsecond.symm.trans hreads.address) (by decide)

end Arguments

end CurlScribe
