import CurlScribe.Proofs.Arguments.Dependence
import CurlScribe.Proofs.Request.WellFormed

/-!
Which flags the parts of a request depend on. Arguments that are the same on these flags give the
same part, with the same notices.
-/

namespace CurlScribe.Arguments

open Request

def headerFlags : List String := ["header", "user-agent", "referer", "json"]

def payloadFlags : List String := dataFlags ++ formFlags

def bodyFlags : List String := "get" :: headerFlags ++ payloadFlags

def methodFlags : List String := ["upload-file", "request", "head"] ++ bodyFlags

def transferFlags : List String :=
  ["cookie", "cookie-jar", "insecure", "cert", "key", "cacert", "proxy-user", "location",
   "location-trusted", "max-redirs", "max-time", "connect-timeout", "compressed", "http-version"]
    ++ proxyFlags

def connectionFlags : List String :=
  ["cookie-jar", "insecure", "cert", "key", "cacert", "proxy-user", "location", "location-trusted",
   "max-redirs", "max-time", "connect-timeout", "compressed", "http-version"] ++ proxyFlags

def authFlags : List String := ["user", "auth-scheme", "oauth2-bearer"]

def locationFlags : List String := ["url", "user", "globoff"]

variable {a b : Arguments} {names : List String}

namespace SameOn

theorem headerLines (h : SameOn headerFlags a b) : a.headerLines = b.headerLines := by
  rw [Arguments.headerLines, h.texts (by decide), Arguments.headerLines]

theorem customHeaders (h : SameOn headerFlags a b) : a.customHeaders = b.customHeaders := by
  rw [Arguments.customHeaders, h.headerLines, Arguments.customHeaders]

theorem unlessSpokenOf (h : SameOn headerFlags a b) (name : String) (value : Option String) :
    a.unlessSpokenOf name value = b.unlessSpokenOf name value := by
  have hspoken : a.spokenOf (Text.lower name) = b.spokenOf (Text.lower name) := by
    rw [spokenOf, h.headerLines, spokenOf]
  rw [Arguments.unlessSpokenOf, hspoken, Arguments.unlessSpokenOf]

theorem headers (h : SameOn headerFlags a b) : a.headers = b.headers := by
  have hagent := h.text? (show "user-agent" ∈ headerFlags by decide)
  have hreferer : a.referer? = b.referer? := by
    rw [referer?, h.text? (by decide), referer?]
  have hjson : a.jsonType? = b.jsonType? := by
    rw [jsonType?, h.has (by decide), jsonType?]
  simp only [Arguments.headers, h.unlessSpokenOf, h.customHeaders, hagent, hreferer, hjson]

theorem headerNotices (h : SameOn headerFlags a b) : a.headerNotices = b.headerNotices := by
  rw [Arguments.headerNotices, h.texts (by decide), Arguments.headerNotices]

theorem dataTexts (h : SameOn payloadFlags a b) : a.textsOf dataFlags = b.textsOf dataFlags :=
  (h.mono (List.subset_append_left ..)).textsOf

theorem formTexts (h : SameOn payloadFlags a b) : a.textsOf formFlags = b.textsOf formFlags :=
  (h.mono (List.subset_append_right ..)).textsOf

theorem payload (h : SameOn payloadFlags a b) : a.payload = b.payload := by
  have hlast : a.lastOf? (dataFlags ++ formFlags) = b.lastOf? (dataFlags ++ formFlags) := h.lastOf?
  rw [Arguments.payload, hlast, h.dataTexts, h.formTexts, Arguments.payload]

section Body

variable (h : SameOn bodyFlags a b)

include h

theorem headersOfBody : SameOn headerFlags a b :=
  h.mono (List.Subset.trans (List.subset_append_left ..) (List.subset_cons_self ..))

theorem payloadOfBody : SameOn payloadFlags a b :=
  h.mono (List.Subset.trans (List.subset_append_right ..) (List.subset_cons_self ..))

theorem isOnGet : a.isOn "get" = b.isOn "get" := h.isOn (List.mem_cons_self ..)

theorem sentHeaders : a.sentHeaders = b.sentHeaders := by
  rw [Arguments.sentHeaders, h.payloadOfBody.payload, h.headersOfBody.headers,
    Arguments.sentHeaders]

theorem body : a.body = b.body := by
  rw [Arguments.body, h.payloadOfBody.payload, h.headersOfBody.headers, h.isOnGet, Arguments.body]

theorem sentUrl (url : String) : a.sentUrl url = b.sentUrl url := by
  rw [Arguments.sentUrl, h.payloadOfBody.payload, h.isOnGet, Arguments.sentUrl]

theorem payloadNotices : a.payloadNotices = b.payloadNotices := by
  rw [Arguments.payloadNotices, h.payloadOfBody.payload, h.payloadOfBody.dataTexts,
    h.payloadOfBody.formTexts, h.isOnGet, Arguments.payloadNotices]

theorem bodyNotices : a.bodyNotices = b.bodyNotices := by
  rw [Arguments.bodyNotices, h.payloadOfBody.payload, h.headersOfBody.headers, h.isOnGet,
    Arguments.bodyNotices]

end Body

section Method

variable (h : SameOn methodFlags a b)

include h

theorem bodyOfMethod : SameOn bodyFlags a b := h.mono (List.subset_append_right ..)

theorem uploadFile : a.uploadFile = b.uploadFile := by
  rw [Arguments.uploadFile, h.bodyOfMethod.body, h.text? (by decide), Arguments.uploadFile]

theorem uploadNotices : a.uploadNotices = b.uploadNotices := by
  rw [Arguments.uploadNotices, h.bodyOfMethod.body, h.text? (by decide), Arguments.uploadNotices]

theorem explicitMethod : a.explicitMethod = b.explicitMethod := by
  rw [Arguments.explicitMethod, h.text? (by decide), Arguments.explicitMethod]

theorem getsData : a.getsData = b.getsData := by
  rw [Arguments.getsData, h.bodyOfMethod.isOnGet, h.bodyOfMethod.body, Arguments.getsData]

theorem method : a.method = b.method := by
  have hhead := h.isOn (show "head" ∈ methodFlags by decide)
  simp only [Arguments.method, impliedMethod, h.explicitMethod, h.getsData, h.uploadFile,
    h.bodyOfMethod.body, hhead]

theorem methodNotices : a.methodNotices = b.methodNotices := by
  have hhead := h.isOn (show "head" ∈ methodFlags by decide)
  simp only [Arguments.methodNotices, h.explicitMethod, h.getsData, h.bodyOfMethod.body, hhead]

end Method

section Transfer

variable (h : SameOn transferFlags a b)

include h

theorem cookies : a.cookies = b.cookies := by
  rw [Arguments.cookies, h.texts (by decide), Arguments.cookies]

theorem cookieNotices : a.cookieNotices = b.cookieNotices := by
  rw [Arguments.cookieNotices, h.texts (by decide), Arguments.cookieNotices]

theorem connection : SameOn connectionFlags a b := h.mono (by decide)

end Transfer

section Connection

variable (h : SameOn connectionFlags a b)

include h

theorem proxies : SameOn proxyFlags a b := h.mono (List.subset_append_right ..)

theorem proxy : a.proxy = b.proxy := by
  unfold Arguments.proxy
  rw [h.proxies.lastOf?]
  cases hflag : b.lastOf? proxyFlags with
  | none => rfl
  | some flag =>
    -- What was given last is one of the flags.
    have hmem : flag ∈ proxyFlags := by
      have := (List.mem_filter.1 (List.mem_of_getLast? hflag)).2
      exact List.contains_iff_mem.1 this
    simp only [Option.bind_some, h.proxies.text? hmem]

theorem proxyNotices : a.proxyNotices = b.proxyNotices := by
  have hhas : proxyFlags.filter a.has = proxyFlags.filter b.has :=
    List.filter_congr fun _ hmem => h.proxies.has hmem
  rw [Arguments.proxyNotices, h.proxies.lastOf?, hhas, Arguments.proxyNotices]

theorem proxyAuth : a.proxyAuth = b.proxyAuth := by
  rw [Arguments.proxyAuth, h.text? (by decide), Arguments.proxyAuth]

theorem tls : a.tls = b.tls := by
  have hinsecure := h.isOn (show "insecure" ∈ connectionFlags by decide)
  have hcert := h.text? (show "cert" ∈ connectionFlags by decide)
  have hkey := h.text? (show "key" ∈ connectionFlags by decide)
  have hcacert := h.text? (show "cacert" ∈ connectionFlags by decide)
  simp only [Arguments.tls, hinsecure, hcert, hkey, hcacert]

theorem maxRedirects : a.maxRedirects = b.maxRedirects := by
  unfold Arguments.maxRedirects number?
  rw [h.text? (by decide)]

end Connection

theorem number? {α : Type} {read : String → Option α} {flag : String} (h : SameOn names a b)
    (hflag : flag ∈ names) : a.number? read flag = b.number? read flag := by
  rw [Arguments.number?, h.text? hflag, Arguments.number?]

theorem numberNotices {α : Type} {read : String → Option α} {flag : String}
    (h : SameOn names a b) (hflag : flag ∈ names) :
    a.numberNotices read flag = b.numberNotices read flag := by
  rw [Arguments.numberNotices, h.text? hflag, Arguments.numberNotices]

section Auth

variable (h : SameOn authFlags a b) (inUrl : Option (String × String))

include h

theorem userAuth : a.userAuth inUrl = b.userAuth inUrl := by
  have huser := h.text? (show "user" ∈ authFlags by decide)
  have hscheme := h.text? (show "auth-scheme" ∈ authFlags by decide)
  simp only [Arguments.userAuth, user?, huser, hscheme]

theorem flagAuth : a.flagAuth inUrl = b.flagAuth inUrl := by
  rw [Arguments.flagAuth, h.text? (by decide), h.userAuth, Arguments.flagAuth]

theorem authNotices (headers : List (String × String)) :
    a.authNotices inUrl headers = b.authNotices inUrl headers := by
  have huser := h.text? (show "user" ∈ authFlags by decide)
  have hscheme := h.text? (show "auth-scheme" ∈ authFlags by decide)
  have htoken := h.text? (show "oauth2-bearer" ∈ authFlags by decide)
  simp only [Arguments.authNotices, userNotices, schemeNotices, user?, huser, hscheme, htoken,
    h.userAuth, h.flagAuth]

end Auth

theorem location (h : SameOn locationFlags a b) (hoperands : a.operands = b.operands) :
    a.location = b.location := by
  have hurls : a.urls = b.urls := by
    rw [urls, h.texts (by decide), hoperands, urls]
  have huser := h.text? (show "user" ∈ locationFlags by decide)
  have hglob := h.isOn (show "globoff" ∈ locationFlags by decide)
  simp only [Arguments.location, locationNotices, hurls, huser, hglob]

theorem requestTo_of_connection {l l' : Location} (hmethod : SameOn methodFlags a b)
    (hconnection : SameOn connectionFlags a b) (hurl : l.url = l'.url)
    (hauth : a.auth l.credentials a.sentHeaders = b.auth l'.credentials b.sentHeaders) :
    a.requestTo l = { b.requestTo l' with cookies := a.cookies } := by
  have hbody := hmethod.bodyOfMethod
  have hjar := hconnection.text? (show "cookie-jar" ∈ connectionFlags by decide)
  have hlocation := hconnection.isOn (show "location" ∈ connectionFlags by decide)
  have htrusted := hconnection.isOn (show "location-trusted" ∈ connectionFlags by decide)
  have htimeout : a.number? Numeral.finite? "max-time" = b.number? Numeral.finite? "max-time" :=
    hconnection.number? (by decide)
  have hconnect : a.number? Numeral.finite? "connect-timeout" =
      b.number? Numeral.finite? "connect-timeout" := hconnection.number? (by decide)
  have hcompressed := hconnection.isOn (show "compressed" ∈ connectionFlags by decide)
  have hversion := hconnection.text? (show "http-version" ∈ connectionFlags by decide)
  rw [hbody.sentHeaders] at hauth
  simp only [Arguments.requestTo, hmethod.method, hbody.sentUrl, hurl, hbody.sentHeaders,
    hbody.body, hauth, hjar, hconnection.tls, hconnection.proxy, hconnection.proxyAuth, hlocation,
    htrusted, htimeout, hconnect, hcompressed, hversion, hmethod.uploadFile]

theorem requestTo {l l' : Location} (hmethod : SameOn methodFlags a b)
    (htransfer : SameOn transferFlags a b) (hurl : l.url = l'.url)
    (hauth : a.auth l.credentials a.sentHeaders = b.auth l'.credentials b.sentHeaders) :
    a.requestTo l = b.requestTo l' := by
  rw [hmethod.requestTo_of_connection htransfer.connection hurl hauth, htransfer.cookies]
  rfl

end SameOn

end CurlScribe.Arguments
