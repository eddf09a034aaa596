import CurlScribe.Conversion
import CurlScribe.Proofs.Target.Apostrophed
import CurlScribe.Proofs.Target.Quoted
import CurlScribe.Proofs.Text.Shown

namespace CurlScribe

open Code (lit)

namespace Part

inductive Label
  | contentType
  | filename
  deriving DecidableEq

def label (p : Part) : Label → Option String
  | .contentType => p.contentType
  | .filename => p.filename

def relabelled (p : Part) (value : Option String) : Label → Part
  | .contentType => { p with contentType := value }
  | .filename => { p with filename := value }

variable (p : Part) (value : Option String) (l : Label)

@[simp] theorem name_relabelled : (p.relabelled value l).name = p.name := by cases l <;> rfl

@[simp] theorem source_relabelled : (p.relabelled value l).source = p.source := by
  cases l <;> rfl

@[simp] theorem file_relabelled : (p.relabelled value l).file = p.file := by cases l <;> rfl

@[simp] theorem fromFile_relabelled : (p.relabelled value l).fromFile = p.fromFile := by
  cases l <;> rfl

@[simp] theorem value_relabelled : (p.relabelled value l).value = p.value := by cases l <;> rfl

@[simp] theorem isUpload_relabelled : (p.relabelled value l).isUpload = p.isUpload := by
  cases l <;> rfl

@[simp] theorem contentType_relabelled :
    (p.relabelled value .contentType).contentType = value := rfl

@[simp] theorem filename_relabelled : (p.relabelled value .filename).filename = value := rfl

@[simp] theorem filename_relabelled_contentType :
    (p.relabelled value .contentType).filename = p.filename := rfl

@[simp] theorem contentType_relabelled_filename :
    (p.relabelled value .filename).contentType = p.contentType := rfl

end Part

def Request.withParts (r : Request) (parts : List Part) : Request :=
  { r with body := .multipart parts }

namespace Target

def writesType (t : Target) : Part.Source → Bool
  | .text _ => [python, ruby, ansible].contains t
  | .upload _ => [python, ruby, ansible, node, nodeAxios, php].contains t
  | .contents _ => t = python

def writesName (t : Target) : Part.Source → Bool
  | .upload _ => [python, go, node, nodeAxios, php, ruby].contains t
  | _ => false

def writes (t : Target) (s : Part.Source) : Part.Label → Bool
  | .contentType => t.writesType s
  | .filename => t.writesName s

/-- The name of a file as it is written. Two targets write the last part of the path if none is
given. -/
def writtenName (t : Target) (p : Part) : Option String :=
  match p.source, t with
  | .upload path, .python => some (p.filename.getD (baseName path))
  | .upload path, .go => some ((filled? p.filename).getD (baseName path))
  | .upload _, t => if [node, nodeAxios, php, ruby].contains t then filled? p.filename else none
  | _, _ => none

def written (t : Target) (p : Part) : Part.Label → Option String
  | .contentType => if t.writesType p.source then filled? p.contentType else none
  | .filename => t.writtenName p

/-- Whether there is a notice that a label of a part with this source is not written. -/
def announces (t : Target) : Part.Source → Part.Label → Bool
  | .upload _, .contentType => t = go
  | .text _, .contentType => t = php
  | _, _ => false

def warns (t : Target) (p : Part) : Bool :=
  t.announces p.source .contentType && (filled? p.contentType).isSome

/-- Whether a part is replaced by a later one of the same name. -/
def Overwrites (t : Target) (p : Part) (after : List Part) : Prop :=
  (t = php ∨ t = ansible) ∧ p.name ∈ after.map (·.name)

def twiceNotice? (t : Target) (name : String) : Option Notice :=
  match t with
  | php => some (.fieldTwiceInPhp name)
  | ansible => some (.fieldTwiceInAnsible name)
  | _ => none

end Target

namespace Code

variable {quote : String → String} {α β : Type}

section Last

variable {f : α → Code} (hf : Function.Injective fun a => text quote (f a))

include hf

theorem text_joined_last {sep : String} (hsep : sep ≠ "") {l : List Code} (h : l ≠ [])
    (x y : Option α) :
    text quote (joined sep (l ++ (x.map f).toList)) =
      text quote (joined sep (l ++ (y.map f).toList)) ↔ x = y := by
  simpa using text_joined_option hf hsep l [] (by simpa using h) x y

theorem text_call_last (function : String) {l : List Code} (h : l ≠ []) (x y : Option α) :
    text quote (call function (l ++ (x.map f).toList)) =
      text quote (call function (l ++ (y.map f).toList)) ↔ x = y :=
  (around_append _ _).eq_iff.trans (text_joined_last hf (by decide) h x y)

end Last

theorem text_joined_when {sep inner : String} {f : α → β} {entry : β → Code} {wrap : List β → Code}
    (hf : Function.Injective fun a => text quote (entry (f a)))
    (hwrap : ∀ entries more, entries ≠ [] → more ≠ [] →
      (text quote (wrap entries) = text quote (wrap more) ↔
        text quote (joined inner (entries.map entry)) =
          text quote (joined inner (more.map entry))))
    (hsep : sep ≠ "") (hinner : inner ≠ "") {l : List Code} (hl : l ≠ [])
    (before after : List β) (x y : Option α) :
    text quote (joined sep (l ++ when (before ++ (x.map f).toList ++ after ≠ [])
        (wrap (before ++ (x.map f).toList ++ after)))) =
      text quote (joined sep (l ++ when (before ++ (y.map f).toList ++ after ≠ [])
        (wrap (before ++ (y.map f).toList ++ after)))) ↔ x = y := by
  by_cases hempty : before ++ after = []
  · obtain ⟨rfl, rfl⟩ := List.append_eq_nil_iff.1 hempty
    have hwhen (z : Option α) : when ([] ++ (z.map f).toList ++ [] ≠ [])
        (wrap ([] ++ (z.map f).toList ++ [])) = (z.map fun a => wrap [f a]).toList := by
      cases z <;> rfl
    have hone : Function.Injective fun a => text quote (wrap [f a]) :=
      fun a b hab => hf ((hwrap [f a] [f b] nofun nofun).1 hab)
    rw [hwhen, hwhen]
    exact text_joined_last hone hsep hl x y
  · have hne (z : Option α) : before ++ (z.map f).toList ++ after ≠ [] := by
      intro h
      simp only [List.append_eq_nil_iff] at h
      exact hempty (List.append_eq_nil_iff.2 ⟨h.1.1, h.2⟩)
    have hentries : before.map entry ++ after.map entry ≠ [] := by
      rw [← List.map_append, ne_eq, List.map_eq_nil_iff]
      exact hempty
    have hmap (z : Option α) : (before ++ (z.map f).toList ++ after).map entry =
        before.map entry ++ (z.map fun a => entry (f a)).toList ++ after.map entry := by
      cases z <;> simp
    have hwhen (z : Option α) (c : Code) :
        when (before ++ (z.map f).toList ++ after ≠ []) c = [c] := if_pos (decide_eq_true (hne z))
    rw [hwhen, hwhen, (around_joined sep ⟨l, [], rfl, rfl⟩).eq_iff, hwrap _ _ (hne x) (hne y), hmap,
      hmap]
    exact text_joined_option hf hinner _ _ hentries x y

end Code

theorem quoted_injective (ascii : Bool) : Function.Injective (Json.quoted ascii) :=
  Code.injective_of_read (@readQuoted_of_ascii .paired ascii fun _ => rfl)

theorem apostrophed_injective : Function.Injective apostrophed := by
  have hread (s : String) (t : List Char) :
      readApostrophed ((apostrophed s).toList ++ t) = some (s.toList, t) := by
    rw [toList_apostrophed, List.cons_append, List.append_assoc]
    exact apostrophedFrom_flatMap s.toList t
  exact Code.injective_of_read hread

theorem filled?_eq_filled? {x y : Option String} :
    filled? x = filled? y ↔ x.getD "" = y.getD "" := by
  have hgetD (x : Option String) : (filled? x).getD "" = x.getD "" := by
    cases x with
    | none => rfl
    | some s => by_cases h : s = "" <;> simp [filled?, Option.filter, h]
  have hfilled (x : Option String) : filled? x = filled? (some (x.getD "")) := by
    cases x <;> rfl
  constructor
  · intro h
    rw [← hgetD, h, hgetD]
  · intro h
    rw [hfilled, h, ← hfilled]

theorem getD_of_filled? {x : Option String} {s : String} (h : filled? x = some s) :
    x.getD "" = s := by
  have hfilled : filled? (some s) = some s := by
    obtain ⟨-, hs⟩ := Option.filter_eq_some_iff.1 h
    exact Option.filter_eq_some_iff.2 ⟨rfl, hs⟩
  exact filled?_eq_filled?.1 (h.trans hfilled.symm)

variable {p : Part} {value : Option String} {l : Part.Label}

namespace RequestsScript

theorem text_part_eq_iff :
    (part p).text Text.shown = (part (p.relabelled value l)).text Text.shown ↔
      Target.python.written p l = Target.python.written (p.relabelled value l) l := by
  have hlit := Code.text_lit_injective (Code.injective_of_read Text.readShown_shown)
  cases l with
  | contentType =>
    have hwrites : Target.python.writesType p.source = true := by cases p.source <;> rfl
    simp only [Target.written, Part.source_relabelled, hwrites, if_true]
    exact Code.text_call_last hlit "" (List.cons_ne_nil _ _) _ _
  | filename =>
    have hplace : Replaced (filename p) (filename (p.relabelled value .filename))
        ([filename p, content p] ++ Code.literal? (filled? p.contentType))
        ([filename (p.relabelled value .filename), content p]
          ++ Code.literal? (filled? p.contentType)) := ⟨[], _, rfl, rfl⟩
    refine (Code.around_call "" hplace).eq_iff.trans ?_
    rw [filename, filename, Part.source_relabelled]
    cases hsource : p.source with
    | upload path => simp [Target.written, Target.writtenName, hsource, hlit.eq_iff]
    | _ => simp [Target.written, Target.writtenName, hsource]

end RequestsScript

namespace FetchCall

theorem text_partValue_eq_iff : (partValue .node p).text (Json.quoted true) =
      (partValue .node (p.relabelled value l)).text (Json.quoted true) ↔
    Target.node.written p l = Target.node.written (p.relabelled value l) l := by
  have hlit := Code.text_lit_injective (quoted_injective true)
  rw [partValue, partValue, Part.source_relabelled]
  cases hsource : p.source with
  | upload path =>
    cases l with
    | contentType =>
      have hcall := Code.text_call_last hlit "fileFromSync" (List.cons_ne_nil (lit path) [])
        (filled? p.contentType) (filled? value)
      have hplace := (Code.around_joined ", "
        ⟨[], Code.literal? (filled? p.filename), rfl, rfl⟩).eq_iff.trans hcall
      simpa [Target.written, Target.writesType, hsource, partUpload, Code.literal?] using hplace
    | filename =>
      have hname := Code.text_joined_last hlit (show ", " ≠ "" by decide)
        (List.cons_ne_nil
          (Code.call "fileFromSync" (lit path :: Code.literal? (filled? p.contentType))) [])
        (filled? p.filename) (filled? value)
      simpa [Target.written, Target.writtenName, hsource, partUpload, Code.literal?] using hname
  | _ => cases l <;> simp [Target.written, Target.writesType, Target.writtenName, hsource, fileText]

end FetchCall

namespace AxiosCall

def uploadOption (name : String) (value : Option String) : List (String × Code) :=
  (value.map fun v => (name, lit v)).toList

def uploadCode (path : String) (options : List (String × Code)) : Code :=
  Code.joined ", " ([readStream path] ++ Code.when (options ≠ []) (ObjectLiteral.object 1 options))

theorem text_uploadCode_eq_iff (path name : String) (before after : List (String × Code))
    (x y : Option String) :
    (uploadCode path (before ++ uploadOption name x ++ after)).text (Json.quoted true) =
      (uploadCode path (before ++ uploadOption name y ++ after)).text (Json.quoted true) ↔
    x = y := by
  have hentry : Function.Injective fun v =>
      (ObjectLiteral.entry 1 (name, lit v)).text (Json.quoted true) :=
    fun a b hab => quoted_injective true ((Code.around_left _).eq_iff.1 hab)
  have hobject (entries more : List (String × Code)) (hentries : entries ≠ []) (hmore : more ≠ []) :
      (ObjectLiteral.object 1 entries).text (Json.quoted true) =
          (ObjectLiteral.object 1 more).text (Json.quoted true) ↔
        (Code.joined ",\n" (entries.map (ObjectLiteral.entry 1))).text (Json.quoted true) =
          (Code.joined ",\n" (more.map (ObjectLiteral.entry 1))).text (Json.quoted true) := by
    rw [ObjectLiteral.object, ObjectLiteral.object, if_neg hentries, if_neg hmore,
      (Code.around_right _).eq_iff, (Code.around_right _).eq_iff, (Code.around_append _ _).eq_iff]
  exact Code.text_joined_when hentry hobject (by decide) (by decide) (List.cons_ne_nil _ _)
    before after x y

theorem partValue_of_upload {path : String} (h : p.source = .upload path) :
    partValue p = uploadCode path
      (uploadOption "filename" (filled? p.filename)
        ++ uploadOption "contentType" (filled? p.contentType)) := by
  unfold Part.source at h
  split at h
  case isTrue => cases h
  case isFalse hfile =>
    split at h <;> cases h
    case _ hpath =>
      rw [partValue, hpath]
      exact if_neg hfile

theorem partValue_of_source (h : ∀ path, p.source ≠ .upload path) :
    partValue (p.relabelled value l) = partValue p := by
  cases hfile : p.file with
  | none => simp [partValue, hfile]
  | some path =>
    cases hfrom : p.fromFile with
    | true => simp [partValue, hfile, hfrom]
    | false => exact absurd (by simp [Part.source, hfile, hfrom]) (h path)

theorem text_partValue_eq_iff : (partValue p).text (Json.quoted true) =
      (partValue (p.relabelled value l)).text (Json.quoted true) ↔
    Target.nodeAxios.written p l = Target.nodeAxios.written (p.relabelled value l) l := by
  cases hsource : p.source with
  | upload path =>
    rw [partValue_of_upload hsource,
      partValue_of_upload ((p.source_relabelled value l).trans hsource)]
    cases l with
    | contentType =>
      have htype := text_uploadCode_eq_iff path "contentType"
        (uploadOption "filename" (filled? p.filename)) [] (filled? p.contentType) (filled? value)
      simpa [Target.written, Target.writesType, hsource] using htype
    | filename =>
      have hname := text_uploadCode_eq_iff path "filename" []
        (uploadOption "contentType" (filled? p.contentType)) (filled? p.filename) (filled? value)
      simpa [Target.written, Target.writtenName, hsource] using hname
  | _ =>
    rw [partValue_of_source (by simp [hsource])]
    cases l <;> simp [Target.written, Target.writesType, Target.writtenName, hsource]

end AxiosCall

namespace PhpScript

theorem upload_of_unnamed {path : String} (h : filled? p.filename = none) : upload p path =
    "new " ++ Code.call "CURLFile" ([lit path] ++ Code.literal? (filled? p.contentType)) := by
  unfold upload
  rw [h]
  cases htype : filled? p.contentType with
  | none => rfl
  | some type =>
    rw [getD_of_filled? htype]
    rfl

theorem upload_of_named {path name : String} (h : filled? p.filename = some name) :
    upload p path = "new " ++ Code.call "CURLFile"
      [lit path, lit (p.contentType.getD ""), lit name] := by
  unfold upload
  rw [h]
  cases filled? p.contentType <;> rfl

theorem upload_of_typed {path type : String} (h : filled? p.contentType = some type) :
    upload p path = "new " ++ Code.call "CURLFile"
      ([lit path, lit type] ++ Code.literal? (filled? p.filename)) := by
  unfold upload
  rw [h, getD_of_filled? h]
  cases filled? p.filename <;> rfl

theorem upload_of_untyped {path : String} (h : filled? p.contentType = none) :
    upload p path = "new " ++ Code.call "CURLFile" ([lit path] ++
      ((filled? p.filename).map fun name => Code.joined ", " [lit "", lit name]).toList) := by
  have hempty : p.contentType.getD "" = "" := filled?_eq_filled?.1 (h.trans rfl : _ = filled? none)
  unfold upload
  rw [h, hempty]
  cases filled? p.filename <;> rfl

theorem text_upload_eq_iff {path : String} : (upload p path).text apostrophed =
      (upload (p.relabelled value l) path).text apostrophed ↔
    filled? (p.label l) = filled? value := by
  have hlit := Code.text_lit_injective apostrophed_injective
  cases l with
  | contentType =>
    cases hname : filled? p.filename with
    | none =>
      rw [upload_of_unnamed hname, @upload_of_unnamed (p.relabelled value .contentType) _ hname,
        (Code.around_left _).eq_iff]
      exact Code.text_call_last hlit _ (List.cons_ne_nil _ _) _ _
    | some name =>
      have htype : Replaced (lit (p.contentType.getD "")) (lit (value.getD ""))
          [lit path, lit (p.contentType.getD ""), lit name]
          [lit path, lit (value.getD ""), lit name] := ⟨[lit path], [lit name], rfl, rfl⟩
      rw [upload_of_named hname, @upload_of_named (p.relabelled value .contentType) _ _ hname,
        Part.contentType_relabelled, (Code.around_left _).eq_iff, (Code.around_call _ htype).eq_iff]
      exact hlit.eq_iff.trans filled?_eq_filled?.symm
  | filename =>
    cases htype : filled? p.contentType with
    | some type =>
      rw [upload_of_typed htype, @upload_of_typed (p.relabelled value .filename) _ _ htype,
        (Code.around_left _).eq_iff]
      exact Code.text_call_last hlit _ (List.cons_ne_nil _ _) _ _
    | none =>
      have hpair : Function.Injective fun name =>
          (Code.joined ", " [lit "", lit name]).text apostrophed :=
        fun a b h => hlit ((Code.around_joined ", " ⟨[lit ""], [], rfl, rfl⟩).eq_iff.1 h)
      rw [upload_of_untyped htype, @upload_of_untyped (p.relabelled value .filename) _ htype,
        (Code.around_left _).eq_iff]
      exact Code.text_call_last hpair _ (List.cons_ne_nil _ _) _ _

theorem text_partValue_eq_iff : (partValue p).text apostrophed =
      (partValue (p.relabelled value l)).text apostrophed ↔
    Target.php.written p l = Target.php.written (p.relabelled value l) l := by
  rw [partValue, partValue, Part.source_relabelled]
  cases hsource : p.source with
  | upload path =>
    rw [text_upload_eq_iff]
    cases l <;> simp [Part.label, Target.written, Target.writesType, Target.writtenName, hsource]
  | _ => cases l <;> simp [Target.written, Target.writesType, Target.writtenName, hsource]

end PhpScript

namespace RubyScript

theorem text_hash_eq_iff (c d : Code) (name : String) (before after : List Code)
    (x y : Option String) :
    (Code.joined ", " ([c, d] ++ hash (before ++ entry name x ++ after))).text apostrophed =
      (Code.joined ", " ([c, d] ++ hash (before ++ entry name y ++ after))).text apostrophed ↔
    x = y := by
  have hentry : Function.Injective fun v =>
      Code.text apostrophed (id (name ++ ": " ++ lit v : Code)) :=
    fun a b h => apostrophed_injective ((Code.around_left _).eq_iff.1 h)
  have hhash (entries more : List Code) (_ : entries ≠ []) (_ : more ≠ []) :
      Code.text apostrophed ("\x7b " ++ Code.joined ", " entries ++ " \x7d") =
          Code.text apostrophed ("\x7b " ++ Code.joined ", " more ++ " \x7d") ↔
        (Code.joined ", " (entries.map id)).text apostrophed =
          (Code.joined ", " (more.map id)).text apostrophed := by
    rw [List.map_id, List.map_id]
    exact (Code.around_append _ _).eq_iff
  exact Code.text_joined_when hentry hhash (by decide) (by decide) (List.cons_ne_nil _ _)
    before after x y

theorem text_part_eq_iff : (part p).text apostrophed =
      (part (p.relabelled value l)).text apostrophed ↔
    Target.ruby.written p l = Target.ruby.written (p.relabelled value l) l := by
  rw [part, part, (Code.around_append _ _).eq_iff]
  simp only [Part.source_relabelled, Part.name_relabelled]
  cases hsource : p.source with
  | upload path =>
    cases l with
    | contentType =>
      have htype := text_hash_eq_iff (lit p.name) (openFile path) "content_type"
        (entry "filename" (filled? p.filename)) [] (filled? p.contentType) (filled? value)
      simpa [Target.written, Target.writesType, hsource] using htype
    | filename =>
      have hname := text_hash_eq_iff (lit p.name) (openFile path) "filename" []
        (entry "content_type" (filled? p.contentType)) (filled? p.filename) (filled? value)
      simpa [Target.written, Target.writtenName, hsource] using hname
  | text text =>
    cases l with
    | contentType =>
      have htype := text_hash_eq_iff (lit p.name) (Code.orNull "nil" text) "content_type" [] []
        (filled? p.contentType) (filled? value)
      simpa [Target.written, Target.writesType, hsource] using htype
    | filename => simp [Target.written, Target.writtenName, hsource]
  | contents => cases l <;> simp [Target.written, Target.writesType, Target.writtenName, hsource]

end RubyScript

namespace GoProgram

theorem partLines_ne_nil (p : Part) (n : Nat) : partLines p n ≠ [] := by
  unfold partLines
  cases p.source <;> simp [guarded, step]

theorem around_step (name : String) {c d : Code} (after : List Code) :
    Around (c.text (Json.quoted false)) (d.text (Json.quoted false))
      ((Code.lines (step name c ++ after)).text (Json.quoted false))
      ((Code.lines (step name d ++ after)).text (Json.quoted false)) :=
  (Code.around_left _).trans (Code.around_joined "\n" ⟨[], fatal ++ after, rfl, rfl⟩)

theorem text_partLines_eq_iff (n : Nat) : (Code.lines (partLines p n)).text (Json.quoted false) =
      (Code.lines (partLines (p.relabelled value l) n)).text (Json.quoted false) ↔
    Target.go.written p l = Target.go.written (p.relabelled value l) l := by
  have hlit := Code.text_lit_injective (quoted_injective false)
  unfold partLines
  simp only [Part.source_relabelled, Part.name_relabelled]
  cases hsource : p.source with
  | upload path =>
    cases l with
    | contentType => simp [Target.written, Target.writesType, hsource]
    | filename =>
      have hname : Replaced (lit ((filled? p.filename).getD (baseName path)))
          (lit ((filled? value).getD (baseName path)))
          [lit p.name, lit ((filled? p.filename).getD (baseName path))]
          [lit p.name, lit ((filled? value).getD (baseName path))] := ⟨[lit p.name], [], rfl, rfl⟩
      simp only [List.append_assoc, Part.filename_relabelled]
      rw [((Code.around_call _ hname).trans (around_step _ _)).eq_iff]
      simp [Target.written, Target.writtenName, hsource, hlit.eq_iff]
  | _ => cases l <;> simp [Target.written, Target.writesType, Target.writtenName, hsource]

end GoProgram

end CurlScribe
