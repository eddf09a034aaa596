import CurlScribe.Proofs.Noted
import CurlScribe.Proofs.Request.WellFormed
import CurlScribe.Proofs.Target.PartPlace
import CurlScribe.Proofs.Target.PartPlaybook

namespace CurlScribe

open Target.Notice (message)

variable {r : Request} {p : Part} {value : Option String} {l : Part.Label} {parts more : List Part}
  {notes notes' : List Target.Notice} {text text' : String}

namespace Target

theorem warns_of_ne {t : Target} (hgo : t ≠ go) (hphp : t ≠ php) (p : Part) :
    t.warns p = false := by
  cases t with
  | go => exact absurd rfl hgo
  | php => exact absurd rfl hphp
  | _ => cases hsource : p.source <;> simp [warns, announces, hsource]

theorem written_eq_none {t : Target} (ht : t ∈ [javascript, json, strest]) (p : Part)
    (l : Part.Label) : t.written p l = none := by
  cases l with
  | contentType =>
    have hwrites : t.writesType p.source = false := by
      cases p.source <;> fin_cases ht <;> rfl
    rw [written, hwrites, if_neg Bool.false_ne_true]
  | filename =>
    cases hsource : p.source <;> fin_cases ht <;> simp [written, writtenName, hsource]

theorem featureNotices_withParts (t : Target) (parts : List Part) :
    t.featureNotices (r.withParts parts) = t.featureNotices r := rfl

end Target

theorem Request.proxyUserNotices_withParts (parts : List Part) :
    (r.withParts parts).proxyUserNotices = r.proxyUserNotices := rfl

section Replaced

variable (hupload : r.uploadFile = none)
  (hparts : Replaced p (p.relabelled value l) parts more)

include hupload hparts

theorem RequestsScript.told (h : write (r.withParts parts) = ⟨notes, .ok text⟩)
    (h' : write (r.withParts more) = ⟨notes', .ok text'⟩) : notes = notes' ∧ (text = text' ↔
      Target.python.written p l = Target.python.written (p.relabelled value l) l) := by
  simp only [write, Noted.note_bind_eq_ok, Noted.pure_eq, Noted.mk.injEq, Except.ok.injEq] at h h'
  obtain ⟨_, ⟨rfl, rfl⟩, rfl⟩ := h
  obtain ⟨_, ⟨rfl, rfl⟩, rfl⟩ := h'
  exact ⟨rfl, text_code_eq_iff hupload hparts⟩

theorem FetchCall.notices_withParts (platform : Platform) :
    notices platform (r.withParts parts) = notices platform (r.withParts more) := by
  have hfiles : files (.form parts) = files (.form more) :=
    hparts.filterMap_eq (by rw [partFile?, partFile?, Part.source_relabelled])
  rw [notices, notices, browserNotices, browserNotices, content_withParts hupload,
    content_withParts hupload, hfiles]
  rfl

theorem FetchCall.told {platform : Platform}
    (h : write platform (r.withParts parts) = ⟨notes, .ok text⟩)
    (h' : write platform (r.withParts more) = ⟨notes', .ok text'⟩) : notes = notes' ∧
      (text = text' ↔ (partValue platform p).text (Json.quoted true) =
        (partValue platform (p.relabelled value l)).text (Json.quoted true)) := by
  simp only [write, Noted.note_bind_eq_ok, Noted.ofExcept_bind_eq_ok, Noted.pure_eq,
    Noted.mk.injEq, Except.ok.injEq] at h h'
  obtain ⟨_, ⟨ms, hms, rfl, rfl⟩, rfl⟩ := h
  obtain ⟨_, ⟨ms', hms', rfl, rfl⟩, rfl⟩ := h'
  obtain rfl := Except.ok.inj (hms.symm.trans hms')
  rw [notices_withParts hupload hparts]
  exact ⟨rfl, text_code_eq_iff hupload hparts platform ms⟩

theorem AxiosCall.told (h : write (r.withParts parts) = ⟨notes, .ok text⟩)
    (h' : write (r.withParts more) = ⟨notes', .ok text'⟩) : notes = notes' ∧ (text = text' ↔
      Target.nodeAxios.written p l = Target.nodeAxios.written (p.relabelled value l) l) := by
  simp only [write, Noted.note_bind_eq_ok, Noted.ofExcept_bind_eq_ok, Noted.pure_eq,
    Noted.mk.injEq, Except.ok.injEq] at h h'
  obtain ⟨_, ⟨ms, hms, address, haddress, _, ⟨rfl, rfl⟩, rfl⟩, rfl⟩ := h
  obtain ⟨_, ⟨ms', hms', address', haddress', _, ⟨rfl, rfl⟩, rfl⟩, rfl⟩ := h'
  obtain rfl := Except.ok.inj (hms.symm.trans hms')
  obtain rfl := Except.ok.inj (haddress.symm.trans haddress')
  exact ⟨rfl, text_code_eq_iff hupload hparts ms address⟩

theorem RubyScript.told (h : write (r.withParts parts) = ⟨notes, .ok text⟩)
    (h' : write (r.withParts more) = ⟨notes', .ok text'⟩) : notes = notes' ∧ (text = text' ↔
      Target.ruby.written p l = Target.ruby.written (p.relabelled value l) l) := by
  simp only [write, Noted.note_bind_eq_ok, Noted.ofExcept_bind_eq_ok, Noted.pure_eq,
    Noted.mk.injEq, Except.ok.injEq] at h h'
  obtain ⟨_, ⟨-, -, address, haddress, _, ⟨rfl, rfl⟩, rfl⟩, rfl⟩ := h
  obtain ⟨_, ⟨-, -, address', haddress', _, ⟨rfl, rfl⟩, rfl⟩, rfl⟩ := h'
  obtain rfl := Except.ok.inj (haddress.symm.trans haddress')
  exact ⟨rfl, text_code_eq_iff hupload hparts address⟩

omit hupload in
theorem JsonDocument.write_withParts : write (r.withParts parts) = write (r.withParts more) := by
  have huploads : uploads parts = uploads more :=
    hparts.filterMap_eq (by rw [Part.source_relabelled, Part.name_relabelled])
  have hfields : (parts.filter (!·.isUpload)).map (fun p => (p.name, partValue p)) =
      (more.filter (!·.isUpload)).map fun p => (p.name, partValue p) :=
    hparts.filter_map_eq (by rw [Part.isUpload_relabelled])
      (by rw [partValue, partValue, Part.name_relabelled, Part.file_relabelled,
        Part.value_relabelled])
  have hbody : bodyFields (r.withParts parts) = bodyFields (r.withParts more) := by
    change partFields parts = partFields more
    rw [partFields, partFields, huploads, hfields]
  have hdocument (query : String) :
      document (r.withParts parts) query = document (r.withParts more) query := by
    rw [document, document, hbody]
    rfl
  simp only [write, hdocument]
  rfl

theorem StrestFile.write_withParts : write (r.withParts parts) = write (r.withParts more) := by
  have hpart : partValue (p.relabelled value l) = partValue p := by
    rw [partValue, partValue, Part.file_relabelled, Part.name_relabelled, Part.value_relabelled]
  have hparams : parts.mapM partValue = more.mapM partValue := by
    obtain ⟨before, after, rfl, rfl⟩ := hparts
    simp only [List.mapM_append, List.mapM_cons, hpart]
  have hdata : postData (r.withParts parts) = postData (r.withParts more) := by
    simp only [postData, Request.withParts, hupload, hparams]
  simp only [write, hdata]
  rfl

end Replaced

namespace PhpScript

def typeNotices (p : Part) : List Target.Notice :=
  if Target.php.warns p then [.partTypeInPhp p.name] else []

theorem partNotices_cons (seen : List String) (p : Part) (rest : List Part) :
    partNotices seen (p :: rest) =
      (if seen.contains p.name then [.fieldTwiceInPhp p.name] else []) ++ typeNotices p
        ++ partNotices (p.name :: seen) rest := by
  cases hsource : p.source <;> simp [partNotices, typeNotices, Target.warns,
    Target.announces, hsource]

theorem mem_partNotices {seen : List String} {name : String} (hseen : name ∈ seen)
    (h : name ∈ parts.map (·.name)) : .fieldTwiceInPhp name ∈ partNotices seen parts := by
  induction parts generalizing seen with
  | nil => cases h
  | cons p parts ih =>
    rw [partNotices_cons]
    by_cases hp : p.name = name
    · simp [hp, hseen]
    · have hrest := (List.mem_cons.1 h).resolve_left (Ne.symm hp)
      exact List.mem_append_right _ (ih (List.mem_cons_of_mem _ hseen) hrest)

theorem mem_partNotices_append (seen : List String) (before : List Part) {after : List Part}
    (h : p.name ∈ after.map (·.name)) :
    .fieldTwiceInPhp p.name ∈ partNotices seen (before ++ p :: after) := by
  induction before generalizing seen with
  | nil =>
    rw [List.nil_append, partNotices_cons]
    exact List.mem_append_right _ (mem_partNotices List.mem_cons_self h)
  | cons q before ih =>
    rw [List.cons_append, partNotices_cons]
    exact List.mem_append_right _ (ih _)

theorem exists_partNotices (seen : List String) (name : String) (before after : List Part) :
    ∃ start rest, ∀ p : Part, p.name = name →
      partNotices seen (before ++ p :: after) = start ++ typeNotices p ++ rest := by
  induction before generalizing seen with
  | nil =>
    refine ⟨if seen.contains name then [.fieldTwiceInPhp name] else [],
      partNotices (name :: seen) after, ?_⟩
    rintro p rfl
    exact partNotices_cons seen p after
  | cons q before ih =>
    obtain ⟨start, rest, hrest⟩ := ih (q.name :: seen)
    refine ⟨(if seen.contains q.name then [.fieldTwiceInPhp q.name] else []) ++ typeNotices q
      ++ start, rest, fun p hp => ?_⟩
    rw [List.cons_append, partNotices_cons, hrest p hp]
    simp only [List.append_assoc]

end PhpScript

namespace GoProgram

def typeNotices (p : Part) : List Target.Notice :=
  if Target.go.warns p then [.partTypeInGo p.name] else []

theorem partNotices_append_cons (before after : List Part) (p : Part) :
    partNotices (.form (before ++ p :: after)) =
      partNotices (.form before) ++ typeNotices p ++ partNotices (.form after) := by
  have hwarns : (p.isUpload && (filled? p.contentType).isSome) = Target.go.warns p := by
    cases hsource : p.source <;> simp [Target.warns, Target.announces, Part.isUpload, hsource]
  rw [partNotices, partNotices, partNotices, List.filter_append, List.filter_cons, hwarns,
    typeNotices]
  split <;> simp

end GoProgram

theorem map_message_eq_iff (start rest : List Target.Notice) (n : Target.Notice) (c d : Bool) :
    (start ++ (if c then [n] else []) ++ rest).map message =
      (start ++ (if d then [n] else []) ++ rest).map message ↔ c = d := by
  cases c <;> cases d <;> simp

section Place

variable {before after : List Part} (hupload : r.uploadFile = none)

include hupload

theorem PhpScript.told (h : write (r.withParts (before ++ p :: after)) = ⟨notes, .ok text⟩)
    (h' : write (r.withParts (before ++ p.relabelled value l :: after)) = ⟨notes', .ok text'⟩) :
    (text = text' ↔ Target.php.written p l = Target.php.written (p.relabelled value l) l ∨
      p.name ∈ after.map (·.name)) ∧
    (notes.map message = notes'.map message ↔
      Target.php.warns p = Target.php.warns (p.relabelled value l)) := by
  have hnotices (parts : List Part) : bodyNotices (r.withParts parts) = partNotices [] parts := by
    rw [bodyNotices, Request.withParts, hupload]
  obtain ⟨start, rest, hrest⟩ := exists_partNotices [] p.name before after
  simp only [write, Noted.note_bind_eq_ok, Noted.ofExcept_bind_eq_ok, Noted.pure_eq,
    Noted.mk.injEq, Except.ok.injEq, hnotices] at h h'
  obtain ⟨_, ⟨-, -, ms, hms, connectMs, hconnect, rfl, rfl⟩, rfl⟩ := h
  obtain ⟨_, ⟨-, -, ms', hms', connectMs', hconnect', rfl, rfl⟩, rfl⟩ := h'
  obtain rfl := Except.ok.inj (hms.symm.trans hms')
  obtain rfl := Except.ok.inj (hconnect.symm.trans hconnect')
  refine ⟨(text_script_eq_iff hupload ms connectMs).trans (text_multipart_eq_iff before after), ?_⟩
  rw [hrest p rfl, hrest _ (p.name_relabelled value l), typeNotices, typeNotices,
    Part.name_relabelled]
  refine Iff.trans ?_ (map_message_eq_iff start rest (.partTypeInPhp p.name) _ _)
  simp only [Target.featureNotices_withParts, List.map_append, List.append_assoc,
    List.append_right_inj, List.append_nil]

theorem GoProgram.told (h : write (r.withParts (before ++ p :: after)) = ⟨notes, .ok text⟩)
    (h' : write (r.withParts (before ++ p.relabelled value l :: after)) = ⟨notes', .ok text'⟩) :
    (text = text' ↔ Target.go.written p l = Target.go.written (p.relabelled value l) l) ∧
    (notes.map message = notes'.map message ↔
      Target.go.warns p = Target.go.warns (p.relabelled value l)) := by
  simp only [write, Noted.note_bind_eq_ok, Noted.ofExcept_bind_eq_ok, Noted.pure_eq,
    Noted.mk.injEq, Except.ok.injEq, content_withParts hupload] at h h'
  obtain ⟨_, ⟨ms, hms, _, ⟨rfl, rfl⟩, rfl⟩, rfl⟩ := h
  obtain ⟨_, ⟨ms', hms', _, ⟨rfl, rfl⟩, rfl⟩, rfl⟩ := h'
  obtain rfl := Except.ok.inj (hms.symm.trans hms')
  refine ⟨text_code_eq_iff hupload ⟨before, after, rfl, rfl⟩ ms, ?_⟩
  rw [partNotices_append_cons, partNotices_append_cons, typeNotices, typeNotices,
    Part.name_relabelled]
  refine Iff.trans ?_ (map_message_eq_iff (partNotices (.form before)) (partNotices (.form after))
    (.partTypeInGo p.name) _ _)
  simp only [Target.featureNotices_withParts, Request.proxyUserNotices_withParts, List.map_append,
    List.append_assoc, List.append_right_inj, List.append_nil]

theorem AnsiblePlaybook.write_withParts (parts : List Part) : write (r.withParts parts) = (do
    .note (Target.ansible.featureNotices r ++ r.mergeNotices .ansible)
    .note (partNotices (r.withParts parts))
    let u ← .ofExcept ((Url.ofString r.url).mapError .badUrl)
    return Yaml.listDocument [task (r.withParts parts) u.host?]) := by
  unfold write
  simp only [Request.withParts, hupload]
  rfl

theorem AnsiblePlaybook.told (h : write (r.withParts (before ++ p :: after)) = ⟨notes, .ok text⟩)
    (h' : write (r.withParts (before ++ p.relabelled value l :: after)) = ⟨notes', .ok text'⟩) :
    (text = text' ↔ Target.ansible.written p l = Target.ansible.written (p.relabelled value l) l ∨
      p.name ∈ after.map (·.name)) ∧ notes = notes' := by
  have hnotices (q : Part) : partNotices (r.withParts (before ++ q :: after)) =
      (Fields.repeated [] (before.map (·.name) ++ q.name :: after.map (·.name))).map
        .fieldTwiceInAnsible := by
    simp [partNotices, Request.withParts]
  rw [write_withParts hupload] at h h'
  simp only [Noted.note_bind_eq_ok, Noted.ofExcept_bind_eq_ok, Noted.pure_eq,
    Noted.mk.injEq, Except.ok.injEq, hnotices, Part.name_relabelled] at h h'
  obtain ⟨_, ⟨_, ⟨u, hu, rfl, rfl⟩, rfl⟩, rfl⟩ := h
  obtain ⟨_, ⟨_, ⟨u', hu', rfl, rfl⟩, rfl⟩, rfl⟩ := h'
  obtain rfl := Except.ok.inj (hu.symm.trans hu')
  refine ⟨?_, rfl⟩
  exact (around_multipart hupload u.host? _ _).eq_iff.trans
    (value_multipart_eq_iff (by decide) before after)

theorem Target.told {t : Target}
    (h : t.write (r.withParts (before ++ p :: after)) = ⟨notes, .ok text⟩)
    (h' : t.write (r.withParts (before ++ p.relabelled value l :: after)) = ⟨notes', .ok text'⟩) :
    (text = text' ↔ t.written p l = t.written (p.relabelled value l) l ∨ t.Overwrites p after) ∧
    (notes.map message = notes'.map message ↔ t.warns p = t.warns (p.relabelled value l)) := by
  have hparts : Replaced p (p.relabelled value l) (before ++ p :: after)
      (before ++ p.relabelled value l :: after) := ⟨before, after, rfl, rfl⟩
  have hquiet (hgo : t ≠ go) (hphp : t ≠ php) (hnotes : notes = notes') :
      notes.map message = notes'.map message ↔ t.warns p = t.warns (p.relabelled value l) :=
    iff_of_true (hnotes ▸ rfl) ((warns_of_ne hgo hphp p).trans (warns_of_ne hgo hphp _).symm)
  have hmute (ht : t ∈ [javascript, json, strest]) (htext : text = text') :
      text = text' ↔ t.written p l = t.written (p.relabelled value l) l ∨ t.Overwrites p after :=
    iff_of_true htext (.inl ((written_eq_none ht p l).trans (written_eq_none ht _ l).symm))
  cases t with
  | ansible =>
    obtain ⟨htext, hnotes⟩ := AnsiblePlaybook.told hupload h h'
    exact ⟨by simpa only [Overwrites, or_true, true_and] using htext, hquiet (by decide) (by decide) hnotes⟩
  | go =>
    obtain ⟨htext, hnotes⟩ := GoProgram.told hupload h h'
    exact ⟨by simpa [Overwrites] using htext, hnotes⟩
  | javascript =>
    obtain ⟨hnotes, htext⟩ := FetchCall.told hupload hparts h h'
    have hvalue : FetchCall.partValue .browser (p.relabelled value l) =
        FetchCall.partValue .browser p := by
      rw [FetchCall.partValue, FetchCall.partValue, Part.source_relabelled]
      rfl
    exact ⟨hmute (by decide) (htext.2 (by rw [hvalue])), hquiet (by decide) (by decide) hnotes⟩
  | json =>
    rw [write, JsonDocument.write_withParts hparts] at h
    obtain ⟨hnotes, htext⟩ := (Noted.mk.injEq ..).mp (h.symm.trans h')
    exact ⟨hmute (by decide) (Except.ok.inj htext), hquiet (by decide) (by decide) hnotes⟩
  | node =>
    obtain ⟨hnotes, htext⟩ := FetchCall.told hupload hparts h h'
    refine ⟨?_, hquiet (by decide) (by decide) hnotes⟩
    simpa [Overwrites] using htext.trans FetchCall.text_partValue_eq_iff
  | nodeAxios =>
    obtain ⟨hnotes, htext⟩ := AxiosCall.told hupload hparts h h'
    exact ⟨by simpa [Overwrites] using htext, hquiet (by decide) (by decide) hnotes⟩
  | php =>
    obtain ⟨htext, hnotes⟩ := PhpScript.told hupload h h'
    exact ⟨by simpa only [Overwrites, true_or, true_and] using htext, hnotes⟩
  | python =>
    obtain ⟨hnotes, htext⟩ := RequestsScript.told hupload hparts h h'
    exact ⟨by simpa [Overwrites] using htext, hquiet (by decide) (by decide) hnotes⟩
  | ruby =>
    obtain ⟨hnotes, htext⟩ := RubyScript.told hupload hparts h h'
    exact ⟨by simpa [Overwrites] using htext, hquiet (by decide) (by decide) hnotes⟩
  | strest =>
    rw [write, StrestFile.write_withParts hupload hparts] at h
    obtain ⟨hnotes, htext⟩ := (Noted.mk.injEq ..).mp (h.symm.trans h')
    exact ⟨hmute (by decide) (Except.ok.inj htext), hquiet (by decide) (by decide) hnotes⟩

theorem PhpScript.twice_mem (h : write (r.withParts (before ++ p :: after)) = ⟨notes, .ok text⟩)
    (hmem : p.name ∈ after.map (·.name)) : .fieldTwiceInPhp p.name ∈ notes := by
  have hnotices (parts : List Part) : bodyNotices (r.withParts parts) = partNotices [] parts := by
    rw [bodyNotices, Request.withParts, hupload]
  rw [write, Noted.note_bind_eq_ok, hnotices] at h
  obtain ⟨rest, -, rfl⟩ := h
  simp [mem_partNotices_append [] before hmem]

theorem AnsiblePlaybook.twice_mem
    (h : write (r.withParts (before ++ p :: after)) = ⟨notes, .ok text⟩)
    (hmem : p.name ∈ after.map (·.name)) : .fieldTwiceInAnsible p.name ∈ notes := by
  have hnotice : .fieldTwiceInAnsible p.name ∈
      partNotices (r.withParts (before ++ p :: after)) := by
    change _ ∈ (Fields.repeated [] ((before ++ p :: after).map (·.name))).map _
    rw [List.map_append, List.map_cons]
    exact List.mem_map_of_mem (Fields.mem_repeated_append [] _ hmem)
  rw [write_withParts hupload, Noted.note_bind_eq_ok] at h
  obtain ⟨rest, h, rfl⟩ := h
  rw [Noted.note_bind_eq_ok] at h
  obtain ⟨rest, -, rfl⟩ := h
  exact List.mem_append_right _ (List.mem_append_left _ hnotice)

theorem Target.exists_twiceNotice {t : Target}
    (h : t.write (r.withParts (before ++ p :: after)) = ⟨notes, .ok text⟩)
    (hlost : t.Overwrites p after) : ∃ n ∈ notes, t.twiceNotice? p.name = some n := by
  obtain ⟨rfl | rfl, hmem⟩ := hlost
  · exact ⟨_, PhpScript.twice_mem hupload h hmem, rfl⟩
  · exact ⟨_, AnsiblePlaybook.twice_mem hupload h hmem, rfl⟩

end Place

namespace Arguments

variable {a : Arguments} {t : Target} {before after : List Part}

/-- Where a target has a place for a label, requests that differ in it have the same code just if the
same is written of both labels, or a later part replaces this one, of which there is a notice. Where
it has a notice instead, they have the same notices just if both labels are there or neither is, for
the notice does not say what the label is. -/
theorem part_label_told (hr : a.request.result = .ok (r.withParts (before ++ p :: after)))
    (hwrite : t.write (r.withParts (before ++ p :: after)) = ⟨notes, .ok text⟩)
    (hwrite' : t.write (r.withParts (before ++ p.relabelled value l :: after)) =
      ⟨notes', .ok text'⟩) :
    (t.writes p.source l = true → (text = text' ↔
      t.written p l = t.written (p.relabelled value l) l ∨ t.Overwrites p after)) ∧
    (t.Overwrites p after → ∃ n ∈ notes, n ∈ notes' ∧ t.twiceNotice? p.name = some n) ∧
    (t.announces p.source l = true → (notes.map message = notes'.map message ↔
      (filled? (p.label l)).isSome = (filled? value).isSome)) := by
  have hupload : r.uploadFile = none := by
    by_contra hsome
    have hnobody := (wellFormed_of_request hr).upload (Option.isSome_iff_ne_none.2 hsome)
    cases hnobody
  obtain ⟨htext, hnotes⟩ := Target.told hupload hwrite hwrite'
  refine ⟨fun _ => htext, fun hlost => ?_, fun hannounces => ?_⟩
  · have hlost' : t.Overwrites (p.relabelled value l) after := by
      simpa only [Target.Overwrites, Part.name_relabelled] using hlost
    obtain ⟨n, hn, hname⟩ := Target.exists_twiceNotice hupload hwrite hlost
    obtain ⟨n', hn', hname'⟩ := Target.exists_twiceNotice hupload hwrite' hlost'
    rw [Part.name_relabelled, hname] at hname'
    cases hname'
    exact ⟨n, hn, hn', hname⟩
  · cases l with
    | filename => cases hsource : p.source <;> simp [Target.announces, hsource] at hannounces
    | contentType =>
      rw [hnotes, Target.warns, Target.warns, Part.source_relabelled, hannounces]
      rfl

theorem part_label_told_type : ∃ a, ∃ r : Request, ∃ text text' notes notes' other other',
    (parse .curl true ["-F", "a=@f;type=x/y", "http://h/"]).result = .ok a ∧
    a.request.result = .ok r ∧
    Target.python.write r = ⟨[], .ok text⟩ ∧
    Target.python.write (r.withParts [{ name := "a", file := some "f" }]) = ⟨[], .ok text'⟩ ∧
    text ≠ text' ∧
    Target.go.write r = ⟨notes, .ok other⟩ ∧
    Target.go.write (r.withParts [{ name := "a", file := some "f" }]) = ⟨notes', .ok other'⟩ ∧
    notes.map message ≠ notes'.map message := by
  let a : Arguments := ⟨[⟨"form", true, .word "a=@f;type=x/y"⟩], ["http://h/"]⟩
  let p : Part := { name := "a", file := some "f", contentType := some "x/y" }
  let r : Request := { method := .post, url := "http://h/", body := .multipart [p] }
  have hr : a.request.result = .ok (r.withParts [p]) := by decide
  obtain ⟨hpython, -, -⟩ :=
    @part_label_told r p none .contentType _ _ _ _ a .python [] [] hr rfl rfl
  obtain ⟨-, -, hgo⟩ := @part_label_told r p none .contentType _ _ _ _ a .go [] [] hr rfl rfl
  refine ⟨a, r, _, _, _, _, _, _, by cbv, hr, rfl, rfl, fun heq => ?_, rfl, rfl, fun heq => ?_⟩
  · have hwritten : Target.python.written p .contentType ≠
        Target.python.written (p.relabelled none .contentType) .contentType := by decide
    cases (hpython rfl).1 heq with
    | inl hsame => exact hwritten hsame
    | inr hlost => exact absurd hlost.1 (by decide)
  · exact absurd ((hgo rfl).1 heq) (by decide)

theorem part_label_told_same :
    (∃ a b, ∃ r : Request, ∃ p : Part,
      (parse .curl true ["-F", "a=@f", "http://h/"]).result = .ok a ∧
      (parse .curl true ["-F", "a=@f;filename=f", "http://h/"]).result = .ok b ∧
      a.request.result = .ok (r.withParts [p]) ∧
      b.request.result = .ok (r.withParts [p.relabelled (some "f") .filename]) ∧
      p.filename = none ∧
      ∀ q ∈ [p, p.relabelled (some "f") .filename], Target.python.write (r.withParts [q]) =
        ⟨[], .ok ("import requests\n\nfiles = \x7b\n    'a': ('f', open('f', 'rb')),\n\x7d\n\n"
          ++ "response = requests.post('http://h/', files=files)\n")⟩) ∧
    ∃ a b, ∃ r : Request, ∃ p : Part, ∃ text,
      (parse .curl true ["-F", "a=@f;type=x/y", "http://h/"]).result = .ok a ∧
      (parse .curl true ["-F", "a=@f;type=v/w", "http://h/"]).result = .ok b ∧
      a.request.result = .ok (r.withParts [p]) ∧
      b.request.result = .ok (r.withParts [p.relabelled (some "v/w") .contentType]) ∧
      p.contentType = some "x/y" ∧
      ∀ q ∈ [p, p.relabelled (some "v/w") .contentType],
        Target.go.write (r.withParts [q]) = ⟨[.partTypeInGo "a"], .ok text⟩ := by
  let r : Request := { method := .post, url := "http://h/" }
  let p : Part := { name := "a", file := some "f" }
  let typed : Part := { p with contentType := some "x/y" }
  let arguments (form : String) : Arguments := ⟨[⟨"form", true, .word form⟩], ["http://h/"]⟩
  constructor
  · refine ⟨arguments "a=@f", arguments "a=@f;filename=f", r, p, by cbv, by cbv, by decide,
      by decide, rfl, ?_⟩
    simp only [List.forall_mem_cons, List.not_mem_nil, false_imp_iff, implies_true, and_true]
    constructor <;> cbv
  · have hwrite : ∃ text, Target.go.write (r.withParts [typed]) =
          ⟨[.partTypeInGo "a"], .ok text⟩ ∧
        Target.go.write (r.withParts [typed.relabelled (some "v/w") .contentType]) =
          ⟨[.partTypeInGo "a"], .ok text⟩ := ⟨_, rfl, rfl⟩
    obtain ⟨text, htyped, hother⟩ := hwrite
    refine ⟨arguments "a=@f;type=x/y", arguments "a=@f;type=v/w", r, typed, text, by cbv, by cbv,
      by decide, by decide +kernel, rfl, ?_⟩
    simp only [List.forall_mem_cons, List.not_mem_nil, false_imp_iff, implies_true, and_true]
    exact ⟨htyped, hother⟩

end Arguments

end CurlScribe
