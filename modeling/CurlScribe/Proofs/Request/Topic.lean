import CurlScribe.Proofs.Noted
import CurlScribe.Proofs.Request.Unsupported

/-!
What the notices on a request are about. They are taken part by part, so those that are about one part
can be told from all others, and stand together.
-/

namespace CurlScribe

namespace Request

/-- The parts of a request, and the flags that are in none of them, in the order that they are spoken
of. -/
inductive Topic
  | location
  | unsupported
  | headers
  | payload
  | body
  | upload
  | auth
  | method
  | cookies
  | proxy
  | number
  deriving DecidableEq

namespace Topic

def all : List Topic :=
  [location, unsupported, headers, payload, body, upload, auth, method, cookies, proxy, number]

theorem nodup_all : all.Nodup := by decide

theorem mem_all (topic : Topic) : topic ∈ all := by
  cases topic <;> decide

end Topic

def Notice.topic : Notice → Topic
  | severalUrls _ _ | credentialsRemoved | credentialsMoved | globbing => .location
  | unsupported _ => .unsupported
  | headersFromFile _ | malformedHeader _ => .headers
  | formOverData | dataOverForm | formOverGet => .payload
  | fileNotEncoded _ | fileNotInQuery _ | fileDropped _ => .body
  | malformedPart _ _ | unsupportedParameter _ | boundaryDropped => .body
  | bodyOverUpload => .upload
  | noPassword _ | schemeAsBasic _ | bearerOverUser | headerOverAuth => .auth
  | bodyOverHead => .method
  | cookiesFromFile _ => .cookies
  | severalProxies _ => .proxy
  | notANumber _ _ => .number

def About (topic : Topic) (notices : List Notice) : Prop := ∀ n ∈ notices, n.topic = topic

namespace About

variable {α : Type} {topic : Topic} {notices more : List Notice} {n : Notice}

theorem nil : About topic [] := List.forall_mem_nil _

theorem singleton (h : n.topic = topic) : About topic [n] := List.forall_mem_singleton.2 h

theorem append (h : About topic notices) (h' : About topic more) : About topic (notices ++ more) :=
  List.forall_mem_append.2 ⟨h, h'⟩

theorem map {notice : α → Notice} (xs : List α)
    (h : ∀ x, (notice x).topic = topic := by intro x; rfl) : About topic (xs.map notice) :=
  List.forall_mem_map.2 fun x _ => h x

theorem ite {p : Prop} [Decidable p] (h : About topic notices) (h' : About topic more) :
    About topic (if p then notices else more) := by
  split
  · exact h
  · exact h'

theorem filter_eq (h : About topic notices) (other : Topic) :
    notices.filter (·.topic = other) = if topic = other then notices else [] := by
  split
  · rename_i heq
    exact List.filter_eq_self.2 fun n hn => decide_eq_true ((h n hn).trans heq)
  · rename_i hne
    exact List.filter_eq_nil_iff.2 fun n hn => by simpa [h n hn] using hne

end About

theorem about_partNotices (given : String × String) : About .body (partNotices given) := by
  obtain ⟨flag, text⟩ := given
  exact .ite (.singleton rfl) (.ite .nil (.map _))

theorem about_formNotices (values : List (String × String)) : About .body (formNotices values) := by
  intro n hn
  obtain ⟨given, -, hn⟩ := List.mem_flatMap.1 hn
  exact about_partNotices given n hn

theorem about_dataNotices (pieces : List (String × String)) : About .body (dataNotices pieces) :=
  .append (.map _) (.ite .nil (.map _))

theorem about_queryNotices (pieces : List (String × String)) : About .body (queryNotices pieces) :=
  .append (.map _) (.map _)

end Request

namespace Arguments

open Request

variable {a : Arguments} {r : Request} {n : Request.Notice}

theorem about_location : About .location a.location.notes := by
  have hnote {notices : List Request.Notice} (h : About .location notices) :
      (Noted.note notices : Noted Request.Notice Request.Fault Unit).Ensures (·.topic = .location)
        fun _ => True := .note h trivial
  have hlocation (l : Location) : About .location (a.locationNotices l) :=
    .append (.ite (.singleton (by split <;> rfl)) .nil) (.ite (.singleton rfl) .nil)
  have hensures : a.location.Ensures (·.topic = .location) fun _ => True := by
    unfold location
    split
    · exact .fail _
    · refine .bind (hnote (.ite .nil (.singleton rfl))) fun _ _ => ?_
      refine .bind (.ofExcept (R := fun _ => True) fun _ _ => trivial) fun l _ => ?_
      exact .bind (hnote (hlocation l)) fun _ _ => .pure trivial
  exact hensures.1

theorem about_headerNotices : About .headers a.headerNotices := by
  intro n hn
  obtain ⟨raw, -, hraw⟩ := List.mem_filterMap.1 hn
  unfold HeaderLine.notice? at hraw
  split at hraw <;> cases hraw <;> rfl

theorem about_payloadNotices : About .payload a.payloadNotices := by
  unfold payloadNotices
  split
  · exact .nil
  · exact .ite (.singleton rfl) .nil
  · exact .append (.ite (.singleton rfl) .nil) (.ite (.singleton rfl) .nil)

theorem about_bodyNotices : About .body a.bodyNotices := by
  unfold bodyNotices
  split
  · exact .nil
  · exact .ite (about_queryNotices _) (about_dataNotices _)
  · exact .append (about_formNotices _) (.map _)

theorem about_authNotices (inUrl : Option (String × String)) (headers : List (String × String)) :
    About .auth (a.authNotices inUrl headers) := by
  have huser : About .auth a.userNotices := by
    unfold userNotices
    split
    · exact .ite .nil (.singleton rfl)
    · exact .nil
  have hscheme : About .auth (a.schemeNotices inUrl) := by
    unfold schemeNotices
    split
    · exact .ite (.singleton rfl) .nil
    · exact .nil
  exact .append (.append (.append huser hscheme) (.ite (.singleton rfl) .nil))
    (.ite (.singleton rfl) .nil)

theorem about_proxyNotices : About .proxy a.proxyNotices := by
  unfold proxyNotices
  split
  · exact .ite (.singleton rfl) .nil
  · exact .nil

theorem about_numberNotices {α : Type} (read : String → Option α) (flag : String) :
    About .number (a.numberNotices read flag) := by
  unfold numberNotices
  split
  · exact .ite (.singleton rfl) .nil
  · exact .nil

def noticesOn (a : Arguments) (l : Location) : Topic → List Request.Notice
  | .location => a.location.notes
  | .unsupported => a.unsupportedNotices
  | .headers => a.headerNotices
  | .payload => a.payloadNotices
  | .body => a.bodyNotices
  | .upload => a.uploadNotices
  | .auth => a.authNotices l.credentials a.sentHeaders
  | .method => a.methodNotices
  | .cookies => a.cookieNotices
  | .proxy => a.proxyNotices
  | .number => a.numberNotices Numeral.integer? "max-redirs"
      ++ a.numberNotices Numeral.finite? "max-time"
      ++ a.numberNotices Numeral.finite? "connect-timeout"

theorem about_noticesOn (a : Arguments) (l : Location) (topic : Topic) :
    About topic (a.noticesOn l topic) := by
  cases topic with
  | location => exact about_location
  | unsupported => exact .map _
  | headers => exact about_headerNotices
  | payload => exact about_payloadNotices
  | body => exact about_bodyNotices
  | upload => exact .ite (.singleton rfl) .nil
  | auth => exact about_authNotices _ _
  | method => exact .ite (.singleton rfl) .nil
  | cookies => exact .map _
  | proxy => exact about_proxyNotices
  | number =>
    exact .append (.append (about_numberNotices _ _) (about_numberNotices _ _))
      (about_numberNotices _ _)

theorem notes_eq_flatMap (hr : a.request.result = .ok r) : ∃ l, a.location.result = .ok l ∧
    a.request.notes = Topic.all.flatMap (a.noticesOn l) := by
  obtain ⟨l, hl, hnotes⟩ := notes_request hr
  refine ⟨l, hl, hnotes.trans ?_⟩
  simp [handledNotices, Topic.all, noticesOn]

theorem filter_notes_topic (hr : a.request.result = .ok r) : ∃ l, a.location.result = .ok l ∧
    ∀ topic, a.request.notes.filter (·.topic = topic) = a.noticesOn l topic := by
  obtain ⟨l, hl, hnotes⟩ := notes_eq_flatMap hr
  have honly (topic : Topic) (topics : List Topic) (hnodup : topics.Nodup) :
      (topics.flatMap (a.noticesOn l)).filter (·.topic = topic) =
        if topic ∈ topics then a.noticesOn l topic else [] := by
    induction topics with
    | nil => rfl
    | cons first topics ih =>
      obtain ⟨hnew, hnodup⟩ := List.nodup_cons.1 hnodup
      rw [List.flatMap_cons, List.filter_append, (about_noticesOn a l first).filter_eq, ih hnodup]
      by_cases heq : first = topic
      · subst heq
        simp [hnew]
      · simp [heq, Ne.symm heq]
  refine ⟨l, hl, fun topic => ?_⟩
  rw [hnotes, honly topic _ Topic.nodup_all, if_pos topic.mem_all]

end Arguments

end CurlScribe
