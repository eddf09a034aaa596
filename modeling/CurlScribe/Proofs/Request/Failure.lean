import CurlScribe.Conversion
import CurlScribe.Proofs.Number.Overflow
import CurlScribe.Proofs.Request.WellFormed

namespace CurlScribe

open Request Url

theorem Request.exists_of_locate_eq_error {raw : String} {f : Fault} (h : locate raw = .error f) :
    ∃ reason, f = .malformedUrl raw reason := by
  unfold locate at h
  simp only at h
  split at h
  · cases h
    exact ⟨none, rfl⟩
  rcases bind_eq_error_iff.1 h with h | ⟨u, -, h⟩
  · obtain ⟨reason, -, rfl⟩ := mapError_eq_error_iff.1 h
    exact ⟨some reason, rfl⟩
  rcases bind_eq_error_iff.1 h with h | ⟨port, -, h⟩
  · obtain ⟨reason, -, rfl⟩ := mapError_eq_error_iff.1 h
    exact ⟨some reason, rfl⟩
  split at h
  · cases h
    exact ⟨none, rfl⟩
  · split at h <;> cases h

theorem Request.isTooLarge_iff {n : Int} : isTooLarge n = true ↔ Binary64.overflow ≤ |(n : ℚ)| := by
  rw [isTooLarge, Option.isNone_iff_eq_none, Binary64.ofRatio?_eq_none_iff Nat.one_pos,
    Nat.cast_one, div_one, Nat.cast_natAbs, Int.cast_abs]

namespace Arguments

variable {a b : Arguments} {f : Request.Fault} {n : Int}

def HasLocation (a : Arguments) : Prop :=
  ∃ url ∈ a.urls.head?,
    url.toList.any isForbidden = false ∧ Accepted (authorityIn (withScheme url.toList))

def RedirectsFit (a : Arguments) : Prop :=
  ∀ n ∈ a.number? Numeral.integer? "max-redirs", |(n : ℚ)| < Binary64.overflow

theorem hasLocation_iff : a.HasLocation ↔ ∃ l, a.location.result = .ok l := by
  simp only [HasLocation, location_eq_ok, ← exists_locate_eq_ok]
  cases a.urls with
  | nil => simp
  | cons url others => simp

theorem location_eq_error : a.location.result = .error f ↔
    a.urls = [] ∧ f = .noUrl ∨ ∃ url ∈ a.urls.head?, locate url = .error f := by
  unfold location
  split
  · rename_i hnil
    simp [hnil, eq_comm]
  · rename_i url others hurls
    cases hlocate : locate url <;> simp [hurls, hlocate]

theorem maxRedirects_eq_error : a.maxRedirects = .error f ↔
    ∃ n ∈ a.number? Numeral.integer? "max-redirs", Binary64.overflow ≤ |(n : ℚ)| ∧
      f = .tooLarge n := by
  unfold maxRedirects
  cases a.number? Numeral.integer? "max-redirs" with
  | none => simp
  | some n =>
    by_cases hlarge : isTooLarge n = true
    · simp [hlarge, isTooLarge_iff.1 hlarge, eq_comm]
    · simp [hlarge, mt isTooLarge_iff.2 hlarge]

theorem redirectsFit_iff : a.RedirectsFit ↔ ∀ f, a.maxRedirects ≠ .error f := by
  constructor
  · intro h f hf
    obtain ⟨n, hn, hlarge, -⟩ := maxRedirects_eq_error.1 hf
    exact (h n hn).not_ge hlarge
  · intro h n hn
    by_contra hlarge
    exact h _ (maxRedirects_eq_error.2 ⟨n, hn, not_lt.1 hlarge, rfl⟩)

theorem exists_request_eq_ok :
    (∃ r, a.request.result = .ok r) ↔ a.HasLocation ∧ a.RedirectsFit := by
  simp only [request_eq_ok, hasLocation_iff, redirectsFit_iff]
  constructor
  · rintro ⟨r, l, redirects, hl, hredirects, -⟩
    exact ⟨⟨l, hl⟩, by simp [hredirects]⟩
  · rintro ⟨⟨l, hl⟩, hredirects⟩
    cases h : a.maxRedirects with
    | error f => exact absurd h (hredirects f)
    | ok redirects => exact ⟨_, l, redirects, hl, rfl, rfl⟩

theorem isUnforeseen_of_location (h : a.location.result = .error f) :
    (Failure.request f).isUnforeseen = false := by
  rcases location_eq_error.1 h with ⟨-, rfl⟩ | ⟨url, -, hurl⟩
  · rfl
  · obtain ⟨reason, rfl⟩ := exists_of_locate_eq_error hurl
    rfl

theorem location_eq_error_congr (h : b.urls = a.urls) :
    b.location.result = .error f ↔ a.location.result = .error f := by
  rw [location_eq_error, h, ← location_eq_error]

theorem request_eq_error_of_redirectsFit (h : a.RedirectsFit) :
    a.request.result = .error f ↔ a.location.result = .error f := by
  rw [request_eq_error]
  exact or_iff_left fun ⟨_, _, hf⟩ => redirectsFit_iff.1 h f hf

theorem request_eq_tooLarge : a.request.result = .error (.tooLarge n) ↔
    a.HasLocation ∧ a.number? Numeral.integer? "max-redirs" = some n ∧
      Binary64.overflow ≤ |(n : ℚ)| := by
  rw [request_eq_error, hasLocation_iff, maxRedirects_eq_error]
  constructor
  · rintro (h | ⟨l, hl, m, hm, hlarge, ⟨⟩⟩)
    · exact absurd (isUnforeseen_of_location h) nofun
    · exact ⟨⟨l, hl⟩, hm, hlarge⟩
  · rintro ⟨⟨l, hl⟩, hn, hlarge⟩
    exact .inr ⟨l, hl, n, hn, hlarge, rfl⟩

/-- Arguments describe a request if the first URL is a good one and the number of redirects fits.
The program has words for the failure exactly if it is that of the URL; then it is the same whatever
else the arguments are. -/
theorem request_fails_without_location (a : Arguments) :
    ((∃ r, a.request.result = .ok r) ↔ a.HasLocation ∧ a.RedirectsFit) ∧
    ((∃ f, a.request.result = .error f ∧ (Failure.request f).isUnforeseen = false) ↔
      ¬ a.HasLocation) ∧
    (∀ f, a.request.result = .error f →
      a.urls = [] ∧ f = .noUrl ∨
      ¬ a.HasLocation ∧ (∃ url ∈ a.urls.head?, ∃ reason, f = .malformedUrl url reason) ∨
      a.HasLocation ∧ ∃ n ∈ a.number? Numeral.integer? "max-redirs",
        Binary64.overflow ≤ |(n : ℚ)| ∧ f = .tooLarge n) ∧
    ∀ b : Arguments, b.urls = a.urls → a.RedirectsFit → b.RedirectsFit →
      ∀ f, b.request.result = .error f ↔ a.request.result = .error f := by
  refine ⟨exists_request_eq_ok, ⟨?_, fun h => ?_⟩, fun f h => ?_, fun b hb ha hb' f => ?_⟩
  · rintro ⟨f, hf, hforeseen⟩ hlocation
    obtain ⟨l, hl⟩ := hasLocation_iff.1 hlocation
    rcases request_eq_error.1 hf with hf | ⟨-, -, hf⟩
    · simp [hl] at hf
    · obtain ⟨n, -, -, rfl⟩ := maxRedirects_eq_error.1 hf
      cases hforeseen
  · cases hl : a.location.result with
    | ok l => exact absurd (hasLocation_iff.2 ⟨l, hl⟩) h
    | error f => exact ⟨f, request_eq_error.2 (.inl hl), isUnforeseen_of_location hl⟩
  · rcases request_eq_error.1 h with hl | ⟨l, hl, hf⟩
    · have hlocation : ¬ a.HasLocation := fun hlocation => by
        obtain ⟨l, hl'⟩ := hasLocation_iff.1 hlocation
        simp [hl] at hl'
      rcases location_eq_error.1 hl with hnil | ⟨url, hurl, hlocate⟩
      · exact .inl hnil
      · exact .inr (.inl ⟨hlocation, url, hurl, exists_of_locate_eq_error hlocate⟩)
    · exact .inr (.inr ⟨hasLocation_iff.2 ⟨l, hl⟩, maxRedirects_eq_error.1 hf⟩)
  · rw [request_eq_error_of_redirectsFit ha, request_eq_error_of_redirectsFit hb',
      location_eq_error_congr hb]

theorem request_fails_with_location : ∃ a,
    (parse .curl false ["--max-redirs", .ofList ('1' :: List.replicate 400 '0'),
      "http://h/"]).result = .ok a ∧
    a.HasLocation ∧ a.request.result = .error (.tooLarge (10 ^ 400)) ∧
    (Failure.request (.tooLarge (10 ^ 400))).isUnforeseen = true := by
  have hread (number : String) :
      (parse .curl false ["--max-redirs", number, "http://h/"]).result =
        .ok ⟨[⟨"max-redirs", false, .word number⟩], ["http://h/"]⟩ := by cbv
  have hnumber : Numeral.integer? (.ofList ('1' :: List.replicate 400 '0')) = some (10 ^ 400) := by
    simp only [Numeral.integer?, Numeral.plain?, String.toList_ofList]
    decide +kernel
  let a : Arguments :=
    ⟨[⟨"max-redirs", false, .word (.ofList ('1' :: List.replicate 400 '0'))⟩], ["http://h/"]⟩
  have htext : a.text? "max-redirs" = some (.ofList ('1' :: List.replicate 400 '0')) := rfl
  have hredirects : a.number? Numeral.integer? "max-redirs" = some (10 ^ 400) := by
    rw [number?, htext, Option.bind_some, hnumber]
  -- Without the flag there is a request to this URL.
  have hplain : (⟨[], ["http://h/"]⟩ : Arguments).request.result =
      .ok { method := .get, url := "http://h/" } := by decide
  have hlocation : a.HasLocation := (exists_request_eq_ok.1 ⟨_, hplain⟩).1
  have hlarge : Binary64.overflow ≤ |((10 ^ 400 : Int) : ℚ)| :=
    isTooLarge_iff.1 (by decide +kernel)
  exact ⟨a, hread _, hlocation, request_eq_tooLarge.2 ⟨hlocation, hredirects, hlarge⟩, rfl⟩

end Arguments

end CurlScribe
