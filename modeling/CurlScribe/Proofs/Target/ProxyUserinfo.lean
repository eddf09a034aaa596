import CurlScribe.Proofs.Target.JsonDocument
import CurlScribe.Proofs.Target.PartLabel
import CurlScribe.Proofs.Target.PhpOptions
import CurlScribe.Proofs.Target.Proxied
import CurlScribe.Proofs.Url.Userinfo

namespace CurlScribe

open Code (lit)
open Target (Notice)
open Request (Userinfo)
open Url

variable {r : Request} {t : Target} {proxy other text text' : String}
  {notes notes' : List Target.Notice}

def Request.through (r : Request) (proxy : String) : Request := { r with proxy := some proxy }

theorem Code.eq_of_text_eq {quote : String → String}
    {read : List Char → Option (List Char × List Char)}
    (hread : ∀ s t, read ((quote s).toList ++ t) = some (s.toList, t)) {before after after' : Code}
    {s s' : String} (h : Code.text quote (before ++ lit s ++ after) =
      Code.text quote (before ++ lit s' ++ after')) : s = s' := by
  obtain ⟨rest, htext, hrest⟩ := exists_literal (hread s) before after
  obtain ⟨rest', htext', hrest'⟩ := exists_literal (hread s') before after'
  rw [h, htext'] at htext
  rw [List.append_cancel_left htext] at hrest'
  exact String.toList_inj.1 (Prod.mk.inj (Option.some.inj (hrest.symm.trans hrest'))).1

namespace RequestsScript

theorem text_proxies_eq_iff :
    (proxies proxy).text Text.shown = (proxies other).text Text.shown ↔ proxy = other := by
  have hfirst (url : String) : ∃ after, proxies url = ([.code "proxies", .code " = \x7b\n",
      .code "    ", .literal "http", .code ": "] : Code) ++ lit url ++ after := ⟨_, rfl⟩
  obtain ⟨after, hproxy⟩ := hfirst proxy
  obtain ⟨after', hother⟩ := hfirst other
  refine ⟨fun h => ?_, fun h => by rw [h]⟩
  rw [hproxy, hother] at h
  exact Code.eq_of_text_eq Text.readShown_shown h

theorem text_code_through (hnone : r.proxyAuth = none) (hproxy : proxy ≠ "") (hother : other ≠ "") :
    (code (r.through proxy)).text Text.shown = (code (r.through other)).text Text.shown ↔
      proxy = other := by
  have hurl {url : String} (h : url ≠ "") : proxyUrl? (r.through url) = some url := by
    simp [proxyUrl?, Request.through, filled?, h, hnone]
  have hcall : call (r.through proxy) = call (r.through other) := by
    rw [call, call, arguments, arguments, hurl hproxy, hurl hother]
    rfl
  have hblocks (url : String) (h : url ≠ "") : code (r.through url) =
      Code.blocks (([imports r] ++ Code.when (r.cookies ≠ []) (dict "cookies" (literals r.cookies))
        ++ Code.when (headers r ≠ []) (dict "headers" (literals (headers r)))
        ++ dataBlock (data r)) ++ proxies url :: [call (r.through url)]) ++ "\n" := by
    rw [code, hurl h]
    simp only [List.append_assoc]
    rfl
  rw [hblocks proxy hproxy, hblocks other hother, hcall, (Code.around_right _).eq_iff]
  exact (Code.around_joined _ ⟨_, _, rfl, rfl⟩).eq_iff.trans text_proxies_eq_iff

end RequestsScript

namespace GoProgram

theorem code_through (hnone : r.proxyAuth = none) (ms : Option Int) :
    ∃ before after behind, ∀ url, proxyUrl url = url → code (r.through url) ms =
      before ++ Code.lines (step "proxyURL" (Code.call "url.Parse" [lit url]) ++ after)
        ++ behind := by
  refine ⟨"package main\n\nimport (\n" ++ Code.lines ((imports (r.through "")).map importLine)
      ++ "\n)\n\nfunc main() \x7b\n",
    transportLines (r.through "")
      ++ ["\tclient := &http.Client\x7b"
        ++ Code.joined ", " (clientFields (r.through "") ms) ++ "\x7d"]
      ++ contentLines (content r) ++ requestLines r ++ responseLines, "\n\x7d\n",
    fun url hurl => ?_⟩
  have hlines : proxyLines (r.through url) =
      step "proxyURL" (Code.call "url.Parse" [lit url]) := by
    simp only [proxyLines, Request.through, hnone, proxyText, hurl]
  rw [code, clientLines, hlines]
  simp only [List.append_assoc]
  rfl

theorem text_code_through {ms : Option Int} (hnone : r.proxyAuth = none)
    (hproxy : proxyUrl proxy = proxy) (hother : proxyUrl other = other) :
    (code (r.through proxy) ms).text (Json.quoted false) =
        (code (r.through other) ms).text (Json.quoted false) ↔ proxy = other := by
  obtain ⟨before, after, behind, hcode⟩ := code_through hnone ms
  rw [hcode proxy hproxy, hcode other hother, (Code.around_append _ _).eq_iff,
    (around_step _ _).eq_iff]
  exact (Code.around_call _ ⟨[], [], rfl, rfl⟩).eq_iff.trans
    (Code.text_lit_injective (quoted_injective false)).eq_iff

end GoProgram

namespace PhpScript

theorem text_code_through {ms connectMs : Option Int} :
    (code (r.through proxy) ms connectMs).text apostrophed =
        (code (r.through other) ms connectMs).text apostrophed ↔ proxy = other := by
  have hplace : Replaced (option "PROXY" (lit proxy)) (option "PROXY" (lit other))
      (options (r.through proxy) ms connectMs) (options (r.through other) ms connectMs) := by
    simp only [options, transferOptions, List.append_assoc]
    refine .append_left _ (.append_left _ (.append_left _ (.append_left _ (.append_left _
      (.append_left _ (.append_left _ ?_))))))
    exact ⟨[], _, rfl, rfl⟩
  have hvalue : Replaced (lit proxy) (lit other) ["$ch", "CURLOPT_PROXY", lit proxy]
      ["$ch", "CURLOPT_PROXY", lit other] := ⟨[_, _], [], rfl, rfl⟩
  refine (Code.around_joined_map "" setLine _ _ hplace).eq_iff.trans ?_
  refine ((Code.around_call _ hvalue).trans (Code.around_right _)).eq_iff.trans ?_
  exact (Code.text_lit_injective apostrophed_injective).eq_iff

end PhpScript

theorem ProxyAddress.ofString_eq_ok {address : ProxyAddress}
    (h : ProxyAddress.ofString proxy = .ok address) : address =
      { scheme := .ofList (cutScheme (normal (proxyUrl proxy).toList)).1
        host := (ofAuthority (hostPart (proxyAuthority proxy))).host?.getD ""
        port := (ofAuthority (hostPart (proxyAuthority proxy))).port?.toOption.join.filter (· ≠ 0)
        goodPort := (ofAuthority (hostPart (proxyAuthority proxy))).port?.isOk } := by
  obtain ⟨u, hu, hok⟩ := bind_eq_ok_iff.1 h
  obtain ⟨hscheme, hauthority⟩ := ofList_eq_ok (mapError_eq_ok_iff.1 hu)
  have hhost : (ofAuthority (proxyAuthority proxy)).host? = u.host? := by
    rw [proxyAuthority, ← hauthority]
    rfl
  have hport : (ofAuthority (proxyAuthority proxy)).port? = u.port? := by
    rw [proxyAuthority, ← hauthority]
    rfl
  rw [host?_hostPart, port?_hostPart, hhost, hport, ← hscheme]
  exact (Except.ok.inj hok).symm

/-- Two texts of URLs have the same scheme and the same behind it, except for credentials in the
first one. -/
inductive DiffersInUserinfo (proxy other : String) : Prop
  | mk (scheme userinfo rest : List Char) : IsScheme scheme →
      Userinfo proxy.toList (scheme ++ [':', '/', '/']) userinfo rest →
      other.toList = scheme ++ [':', '/', '/'] ++ rest → DiffersInUserinfo proxy other

namespace DiffersInUserinfo

variable (h : DiffersInUserinfo proxy other)

include h

theorem ne : proxy ≠ other := by
  obtain ⟨scheme, userinfo, rest, -, hinfo, hother⟩ := h
  rintro rfl
  have hlength := congrArg List.length (hinfo.eq.symm.trans hother)
  simp only [List.length_append, List.length_cons] at hlength
  omega

theorem proxyUrl_eq : proxyUrl proxy = proxy ∧ proxyUrl other = other := by
  obtain ⟨scheme, userinfo, rest, hscheme, hinfo, hother⟩ := h
  have hproxy : proxy.toList = scheme ++ ':' :: '/' :: '/' :: (userinfo ++ '@' :: rest) := by
    rw [hinfo.eq, List.append_assoc]
    rfl
  have hplain : other.toList = scheme ++ ':' :: '/' :: '/' :: rest := by
    rw [hother, List.append_assoc]
    rfl
  exact ⟨proxyUrl_of_scheme hscheme hproxy, proxyUrl_of_scheme hscheme hplain⟩

theorem cutScheme_eq : (cutScheme (normal proxy.toList)).1 = (cutScheme (normal other.toList)).1 := by
  obtain ⟨scheme, userinfo, rest, hscheme, hinfo, hother⟩ := h
  have hcut (behind : List Char) :
      (cutScheme (normal (scheme ++ [':', '/', '/'] ++ behind))).1 = scheme.map Char.toLower := by
    rw [List.append_assoc, normal_append hscheme]
    exact congrArg Prod.fst (cutScheme_append hscheme _)
  rw [hinfo.eq, hother, hcut, hcut]

theorem hostPart_eq : hostPart (proxyAuthority proxy) = hostPart (proxyAuthority other) := by
  obtain ⟨hproxy, hother⟩ := h.proxyUrl_eq
  rw [proxyAuthority, proxyAuthority, hproxy, hother]
  obtain ⟨scheme, userinfo, rest, hscheme, hinfo, hrest⟩ := h
  obtain ⟨given, -, hloc⟩ := hinfo.located
  have hplain := located_of_scheme hscheme (userinfo ++ '@' :: rest)
  have heq : proxy.toList = scheme ++ ':' :: '/' :: '/' :: (userinfo ++ '@' :: rest) := by
    rw [hinfo.eq, List.append_assoc]
    rfl
  rw [← heq] at hplain
  have hlast : '@' ∉ (rest.takeWhile (!endsAuthority ·)).filter (!isLineOrTab ·) := fun hm =>
    hinfo.last (List.mem_of_mem_filter hm)
  have hauthority : authorityIn proxy.toList = userinfo.filter (!isLineOrTab ·)
      ++ '@' :: (rest.takeWhile (!endsAuthority ·)).filter (!isLineOrTab ·) := by
    rw [← Request.withScheme_located hplain, hloc.authorityIn, List.filter_append]
    rfl
  have hbare : authorityIn other.toList =
      (rest.takeWhile (!endsAuthority ·)).filter (!isLineOrTab ·) := by
    have hgiven := located_of_scheme hscheme rest
    rw [hrest, List.append_assoc]
    exact hgiven.authorityIn
  rw [hauthority, hbare, hostPart, hostPart, Text.snd_cutLastList_of_not_mem hlast,
    Text.cutLastList_eq_some.2 ⟨rfl, hlast⟩]

theorem address_eq {address address' : ProxyAddress}
    (hproxy : ProxyAddress.ofString proxy = .ok address)
    (hother : ProxyAddress.ofString other = .ok address') : address = address' := by
  rw [ProxyAddress.ofString_eq_ok hproxy, ProxyAddress.ofString_eq_ok hother, h.hostPart_eq,
    h.proxyUrl_eq.1, h.proxyUrl_eq.2, h.cutScheme_eq]

end DiffersInUserinfo

section Told

variable (hdiffers : DiffersInUserinfo proxy other) (hnone : r.proxyAuth = none)

def HasGoodPort (proxy : String) : Prop :=
  ∃ port, (ofAuthority (proxyAuthority proxy)).port? = .ok port

theorem goodPort_iff {address : ProxyAddress} (h : ProxyAddress.ofString proxy = .ok address) :
    address.goodPort = true ↔ HasGoodPort proxy := by
  rw [ProxyAddress.ofString_eq_ok h, port?_hostPart, HasGoodPort]
  cases (ofAuthority (proxyAuthority proxy)).port? <;> simp [Except.isOk, Except.toBool]

theorem map_message_ite {notices : List Notice} {notice : String → Notice} {good : Bool}
    {before after : String} (hnotice : ∀ url, (notice url).message = before ++ url ++ after)
    (hne : proxy ≠ other) :
    (notices ++ if good then [] else [notice proxy]).map Notice.message =
      (notices ++ if good then [] else [notice other]).map Notice.message ↔ good = true := by
  cases good <;> simp [hnotice, hne]

theorem mapM_ofString_through {address : Option ProxyAddress}
    (h : (r.through proxy).proxy.mapM ProxyAddress.ofString = .ok address) :
    ∃ p, ProxyAddress.ofString proxy = .ok p ∧ address = some p := by
  change some <$> ProxyAddress.ofString proxy = .ok address at h
  cases hp : ProxyAddress.ofString proxy with
  | error f =>
    rw [hp] at h
    cases h
  | ok p =>
    rw [hp] at h
    cases h
    exact ⟨p, rfl, rfl⟩

include hdiffers

theorem RubyScript.told_through (h : write (r.through proxy) = ⟨notes, .ok text⟩)
    (h' : write (r.through other) = ⟨notes', .ok text'⟩) : text = text' ∧
      (notes.map Notice.message = notes'.map Notice.message ↔ HasGoodPort other) := by
  simp only [write, Noted.note_bind_eq_ok, Noted.ofExcept_bind_eq_ok, Noted.pure_eq,
    Noted.mk.injEq, Except.ok.injEq] at h h'
  obtain ⟨_, ⟨-, -, _, haddress, _, ⟨rfl, rfl⟩, rfl⟩, rfl⟩ := h
  obtain ⟨_, ⟨-, -, _, haddress', _, ⟨rfl, rfl⟩, rfl⟩, rfl⟩ := h'
  obtain ⟨p, hp, rfl⟩ := mapM_ofString_through haddress
  obtain ⟨p', hp', rfl⟩ := mapM_ofString_through haddress'
  obtain rfl := hdiffers.address_eq hp hp'
  have hnotes (url : String) : Target.ruby.featureNotices (r.through url)
      ++ (proxyNotices (r.through url) (some p) ++ []) =
        Target.ruby.featureNotices (r.through other) ++ schemeNotices p
          ++ if p.goodPort then [] else [.proxyPortAssumed url] := by
    rw [List.append_nil, List.append_assoc]
    rfl
  rw [hnotes, hnotes]
  exact ⟨rfl, (map_message_ite (fun _ => rfl) hdiffers.ne).trans (goodPort_iff hp')⟩

theorem AxiosCall.told_through (h : write (r.through proxy) = ⟨notes, .ok text⟩)
    (h' : write (r.through other) = ⟨notes', .ok text'⟩) : text = text' ∧
      (notes.map Notice.message = notes'.map Notice.message ↔ HasGoodPort other) := by
  simp only [write, Noted.note_bind_eq_ok, Noted.ofExcept_bind_eq_ok, Noted.pure_eq,
    Noted.mk.injEq, Except.ok.injEq] at h h'
  obtain ⟨_, ⟨ms, hms, _, haddress, _, ⟨rfl, rfl⟩, rfl⟩, rfl⟩ := h
  obtain ⟨_, ⟨ms', hms', _, haddress', _, ⟨rfl, rfl⟩, rfl⟩, rfl⟩ := h'
  obtain rfl := Except.ok.inj (hms.symm.trans hms')
  obtain ⟨p, hp, rfl⟩ := mapM_ofString_through haddress
  obtain ⟨p', hp', rfl⟩ := mapM_ofString_through haddress'
  obtain rfl := hdiffers.address_eq hp hp'
  have hnotes (url : String) : Target.nodeAxios.featureNotices (r.through url)
      ++ (r.through url).mergeNotices .nodeAxios
      ++ (portNotices (r.through url) (some p) ++ (r.through url).proxyUserNotices ++ []) =
        Target.nodeAxios.featureNotices (r.through other) ++ r.mergeNotices .nodeAxios
          ++ if p.goodPort then [] else [.proxyPortDefault url] := by
    have huser : (r.through url).proxyUserNotices = [] := rfl
    rw [huser, List.append_nil, List.append_nil]
    rfl
  rw [hnotes, hnotes]
  exact ⟨rfl, (map_message_ite (fun _ => rfl) hdiffers.ne).trans (goodPort_iff hp')⟩

include hnone in
theorem GoProgram.told_through (h : write (r.through proxy) = ⟨notes, .ok text⟩)
    (h' : write (r.through other) = ⟨notes', .ok text'⟩) : text ≠ text' := by
  simp only [write, Noted.note_bind_eq_ok, Noted.ofExcept_bind_eq_ok, Noted.pure_eq,
    Noted.mk.injEq, Except.ok.injEq] at h h'
  obtain ⟨_, ⟨ms, hms, _, ⟨-, rfl⟩, -⟩, -⟩ := h
  obtain ⟨_, ⟨ms', hms', _, ⟨-, rfl⟩, -⟩, -⟩ := h'
  obtain rfl := Except.ok.inj (hms.symm.trans hms')
  obtain ⟨hproxy, hother⟩ := hdiffers.proxyUrl_eq
  exact fun heq => hdiffers.ne ((text_code_through hnone hproxy hother).1 heq)

theorem PhpScript.told_through (h : write (r.through proxy) = ⟨notes, .ok text⟩)
    (h' : write (r.through other) = ⟨notes', .ok text'⟩) : text ≠ text' := by
  simp only [write, Noted.note_bind_eq_ok, Noted.ofExcept_bind_eq_ok, Noted.pure_eq,
    Noted.mk.injEq, Except.ok.injEq] at h h'
  obtain ⟨_, ⟨-, -, ms, hms, connectMs, hconnect, -, rfl⟩, -⟩ := h
  obtain ⟨_, ⟨-, -, ms', hms', connectMs', hconnect', -, rfl⟩, -⟩ := h'
  obtain rfl := Except.ok.inj (hms.symm.trans hms')
  obtain rfl := Except.ok.inj (hconnect.symm.trans hconnect')
  exact fun heq => hdiffers.ne (text_code_through.1 heq)

include hnone in
theorem RequestsScript.told_through (h : write (r.through proxy) = ⟨notes, .ok text⟩)
    (h' : write (r.through other) = ⟨notes', .ok text'⟩) : text ≠ text' := by
  cases h
  cases h'
  have hproxy : proxy ≠ "" := by
    rintro rfl
    obtain ⟨scheme, userinfo, rest, -, hinfo, -⟩ := hdiffers
    simpa using hinfo.eq
  have hother : other ≠ "" := by
    rintro rfl
    obtain ⟨scheme, userinfo, rest, -, -, hrest⟩ := hdiffers
    simp at hrest
  exact fun heq => hdiffers.ne ((text_code_through hnone hproxy hother).1 heq)

end Told

namespace Arguments

variable {a b : Arguments}

theorem document_through (hr : a.request.result = .ok (r.through proxy))
    (hr' : b.request.result = .ok (r.through other))
    (h : (JsonDocument.write (r.through proxy)).result = .ok text)
    (h' : (JsonDocument.write (r.through other)).result = .ok text) : proxy = other := by
  obtain ⟨query, hread⟩ := ofString_write hr h
  obtain ⟨query', hread'⟩ := ofString_write hr' h'
  have hsame := JsonDocument.sameSettings_of_document_eq (Except.ok.inj (hread.symm.trans hread'))
  exact Option.some.inj hsame.proxy

/-- Credentials in the URL of a proxy are told, by the code or by a notice, except by targets that
take the URL in pieces and find its port good. -/
theorem proxyUserinfo_told (hr : a.request.result = .ok (r.through proxy))
    (hr' : b.request.result = .ok (r.through other)) (hdiffers : DiffersInUserinfo proxy other)
    (hnone : r.proxyAuth = none) (ht : .proxy ∈ t.supported)
    (hwrite : t.write (r.through proxy) = ⟨notes, .ok text⟩)
    (hwrite' : t.write (r.through other) = ⟨notes', .ok text'⟩) :
    (text, notes.map Notice.message) = (text', notes'.map Notice.message) ↔
      t.splitsProxy = true ∧ HasGoodPort other := by
  have hsplits (htold : text = text' ∧
      (notes.map Notice.message = notes'.map Notice.message ↔ HasGoodPort other)) :
      (text, notes.map Notice.message) = (text', notes'.map Notice.message) ↔
        true = true ∧ HasGoodPort other := by
    rw [Prod.mk.injEq, and_iff_right htold.1, htold.2, and_iff_right rfl]
  have hpasses (htold : text ≠ text') :
      (text, notes.map Notice.message) = (text', notes'.map Notice.message) ↔
        false = true ∧ HasGoodPort other :=
    iff_of_false (fun h => htold (Prod.mk.inj h).1) fun h => Bool.false_ne_true h.1
  cases t with
  | ruby => exact hsplits (RubyScript.told_through hdiffers hwrite hwrite')
  | nodeAxios => exact hsplits (AxiosCall.told_through hdiffers hwrite hwrite')
  | go => exact hpasses (GoProgram.told_through hdiffers hnone hwrite hwrite')
  | php => exact hpasses (PhpScript.told_through hdiffers hwrite hwrite')
  | python => exact hpasses (RequestsScript.told_through hdiffers hnone hwrite hwrite')
  | json =>
    have hresult : (JsonDocument.write (r.through proxy)).result = .ok text :=
      congrArg Noted.result hwrite
    have hresult' : (JsonDocument.write (r.through other)).result = .ok text' :=
      congrArg Noted.result hwrite'
    exact hpasses fun heq => hdiffers.ne (document_through hr hr' hresult (heq ▸ hresult'))
  | ansible | javascript | node | strest => exact absurd ht (by decide)

theorem proxyUserinfo_told_port : ∃ a b, ∃ r : Request, ∃ notes notes' text text',
    (parse .curl true ["-x", "http://u:p@h:x", "http://h/"]).result = .ok a ∧
    (parse .curl true ["-x", "http://h:x", "http://h/"]).result = .ok b ∧
    a.request.result = .ok (r.through "http://u:p@h:x") ∧
    b.request.result = .ok (r.through "http://h:x") ∧
    DiffersInUserinfo "http://u:p@h:x" "http://h:x" ∧ r.proxyAuth = none ∧
    Feature.proxy ∈ Target.ruby.supported ∧
    Target.ruby.write (r.through "http://u:p@h:x") = ⟨notes, .ok text⟩ ∧
    Target.ruby.write (r.through "http://h:x") = ⟨notes', .ok text'⟩ ∧
    (text, notes.map Notice.message) ≠ (text', notes'.map Notice.message) := by
  let a : Arguments := ⟨[⟨"proxy", false, .word "http://u:p@h:x"⟩], ["http://h/"]⟩
  let b : Arguments := ⟨[⟨"proxy", false, .word "http://h:x"⟩], ["http://h/"]⟩
  let r : Request := { method := .get, url := "http://h/" }
  have hr : a.request.result = .ok (r.through "http://u:p@h:x") := by decide
  have hr' : b.request.result = .ok (r.through "http://h:x") := by decide
  have hdiffers : DiffersInUserinfo "http://u:p@h:x" "http://h:x" := by
    have hscheme : IsScheme "http".toList := .mk (by decide) (by decide)
    exact ⟨"http".toList, "u:p".toList, "h:x".toList, hscheme,
      ⟨by decide, .inr ⟨_, hscheme, rfl⟩, by simp [endsAuthority], by decide⟩, by decide⟩
  have hport : ¬ HasGoodPort "http://h:x" := by
    have hfault : (ofAuthority (proxyAuthority "http://h:x")).port? =
        .error (.portNotNumber "x") := by decide
    rintro ⟨port, hport⟩
    rw [hfault] at hport
    cases hport
  have htold := proxyUserinfo_told (t := .ruby) hr hr' hdiffers rfl (by decide) rfl rfl
  exact ⟨a, b, r, _, _, _, _, by cbv, by cbv, hr, hr', hdiffers, rfl, by decide, rfl, rfl,
    fun heq => hport (htold.1 heq).2⟩

theorem proxyUserinfo_told_lost : ∃ a b, ∃ r : Request,
    (parse .curl true ["-x", "http://u:p@h:1", "http://h/"]).result = .ok a ∧
    (parse .curl true ["-x", "http://h:1", "http://h/"]).result = .ok b ∧
    a.request.result = .ok (r.through "http://u:p@h:1") ∧
    b.request.result = .ok (r.through "http://h:1") ∧ r.proxyAuth = none ∧
    Feature.proxy ∈ Target.ruby.supported ∧ Feature.proxy ∈ Target.nodeAxios.supported ∧
    ∀ url ∈ ["http://u:p@h:1", "http://h:1"],
      (Target.ruby.write (r.through url)).notes = [] ∧
      (Target.ruby.write (r.through url)).result = .ok ("require 'net/http'\n\n"
        ++ "uri = URI('http://h/')\nreq = Net::HTTP::Get.new(uri)\n\n"
        ++ "req_options = \x7b\n  use_ssl: uri.scheme == 'https',\n\x7d\n"
        ++ "res = Net::HTTP.start(uri.hostname, uri.port, 'h', 1, req_options) do |http|\n"
        ++ "  http.request(req)\nend\n") ∧
      (Target.nodeAxios.write (r.through url)).notes = [] ∧
      (Target.nodeAxios.write (r.through url)).result = .ok ("import axios from 'axios';\n\n"
        ++ "const response = await axios(\x7b\n    method: \"get\",\n"
        ++ "    url: \"http://h/\",\n    proxy: \x7b\n        protocol: \"http\",\n"
        ++ "        host: \"h\",\n        port: 1\n    \x7d\n\x7d);\n") := by
  let a : Arguments := ⟨[⟨"proxy", false, .word "http://u:p@h:1"⟩], ["http://h/"]⟩
  let b : Arguments := ⟨[⟨"proxy", false, .word "http://h:1"⟩], ["http://h/"]⟩
  let r : Request := { method := .get, url := "http://h/" }
  refine ⟨a, b, r, by cbv, by cbv, by decide, by decide, rfl, by decide, by decide, ?_⟩
  decide +kernel

end Arguments

end CurlScribe
