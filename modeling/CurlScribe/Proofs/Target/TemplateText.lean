import CurlScribe.Proofs.Request.Form
import CurlScribe.Proofs.Target.FileUse
import CurlScribe.Proofs.Target.PartPlaybook
import CurlScribe.Proofs.Target.WrittenHeaders
import CurlScribe.Shell.AnsiC

namespace CurlScribe

namespace Template

variable {named : List Char → Option Nat} {c : Char} {s path rest body after : List Char}
  {value : List Nat} {taken : Nat}

def escapes : List Char :=
  ['\n', '\\', '\'', '"', 'a', 'b', 'f', 'n', 'r', 't', 'v', '0', '1', '2', '3', '4', '5', '6', '7',
    'x', 'u', 'U', 'N']

def letterEscape? : Char → Option (List Char)
  | '\n' => some []
  | '\\' => some ['\\']
  | '\'' => some ['\'']
  | '"' => some ['"']
  | 'a' => some ['\x07']
  | 'b' => some ['\x08']
  | 'f' => some ['\x0c']
  | 'n' => some ['\n']
  | 'r' => some ['\r']
  | 't' => some ['\t']
  | 'v' => some ['\x0b']
  | _ => none

def codeEscape? (width : Nat) (rest : List Char) : Option (Nat × Nat) :=
  let digits := rest.take width
  if digits.length = width ∧ digits.all Text.isHex ∧ Text.ofHex digits < 0x110000 then
    some (Text.ofHex digits, width)
  else none

def octalEscape (c : Char) (rest : List Char) : Nat × Nat :=
  let more := (rest.take 2).takeWhile Shell.isOctal
  ((c :: more).foldl (fun n d => 8 * n + (d.toNat - 48)) 0, more.length)

def nameEscape? (named : List Char → Option Nat) : List Char → Option (Nat × Nat)
  | '\x7b' :: rest =>
    let name := rest.takeWhile (· ≠ '\x7d')
    if name.length < rest.length then (named name).map fun n => (n, name.length + 2) else none
  | _ => none

/-- What stands behind a backslash for a character that makes no escape with it. A text comes to be
read in ASCII, so that any other character is an escape itself by then, and its backslash is taken in
by the one before it. -/
def spelled (c : Char) : List Char :=
  if c.toNat < 0x80 then [c]
  else if c.toNat < 0x100 then 'x' :: Text.hex 2 c.toNat
  else if c.toNat < 0x10000 then 'u' :: Text.hex 4 c.toNat
  else 'U' :: Text.hex 8 c.toNat

/-- What a backslash and the text behind it stand for, and how much of that text it takes. The
meaning of names is given. A character that makes no escape leaves the backslash as it is. -/
def escape? (named : List Char → Option Nat) : List Char → Option (List Nat × Nat)
  | [] => none
  | c :: rest =>
    match letterEscape? c, Shell.codeWidth? c with
    | some value, _ => some (value.map Char.toNat, 1)
    | none, some width => (codeEscape? width rest).map fun (n, taken) => ([n], taken + 1)
    | none, none =>
      if c = 'N' then (nameEscape? named rest).map fun (n, taken) => ([n], taken + 1)
      else if Shell.isOctal c then
        let (n, taken) := octalEscape c rest
        some ([n], taken + 1)
      else some (('\\' :: spelled c).map Char.toNat, 1)

def decodeFrom (named : List Char → Option Nat) : Nat → List Char → Option (List Nat)
  | _, [] => some []
  | taken + 1, _ :: rest => decodeFrom named taken rest
  | 0, c :: rest =>
    if c = '\\' then do
      let (value, taken) ← escape? named rest
      return value ++ (← decodeFrom named taken rest)
    else (c.toNat :: ·) <$> decodeFrom named 0 rest

/-- The text up to the quotation mark that ends it, and what stands behind that. No mark with an
active backslash before it ends the text. -/
def bodyFrom : List Char → Option (List Char × List Char)
  | [] => none
  | '\'' :: rest => some ([], rest)
  | ['\\'] => none
  | '\\' :: c :: rest => (bodyFrom rest).map fun (body, after) => ('\\' :: c :: body, after)
  | c :: rest => (bodyFrom rest).map fun (body, after) => (c :: body, after)

def literal? (named : List Char → Option Nat) : List Char → Option (List Nat × List Char)
  | '\'' :: rest => do
    let (body, after) ← bodyFrom rest
    return (← decodeFrom named 0 body, after)
  | _ => none

/-- A text whose backslashes stand before characters of ASCII and make no escapes. -/
inductive IsInert : List Char → Prop
  | nil : IsInert []
  | plain {c : Char} {s : List Char} (hc : c ≠ '\\') (hs : IsInert s) : IsInert (c :: s)
  | backslash {c : Char} {s : List Char} (hc : c ∉ escapes) (hascii : c.toNat < 0x80)
      (hs : IsInert s) : IsInert ('\\' :: c :: s)

section Escapes

theorem mem_escapes_of_isOctal (h : Shell.isOctal c = true) : c ∈ escapes := by
  have hall : ∀ n : Fin 8, Char.ofNat (48 + n) ∈ escapes := by decide
  have hc : 48 ≤ c.toNat ∧ c.toNat ≤ 55 := by
    simpa [Shell.isOctal, Char.le_def, UInt32.le_iff_toNat_le] using h
  have hdigit := hall ⟨c.toNat - 48, by omega⟩
  rwa [Nat.add_sub_cancel' hc.1, Char.ofNat_toNat] at hdigit

theorem exists_meaning : ∀ c ∈ escapes, (letterEscape? c).isSome = true ∨
    (Shell.codeWidth? c).isSome = true ∨ c = 'N' ∨ Shell.isOctal c = true := by
  simp only [escapes, List.forall_mem_cons]
  simp [letterEscape?, Shell.codeWidth?, Shell.isOctal]

theorem letterEscape?_length {text : List Char} (h : letterEscape? c = some text) :
    text.length ≤ 1 := by
  unfold letterEscape? at h
  split at h <;> cases h <;> decide

theorem spelled_of_ascii (h : c.toNat < 0x80) : spelled c = [c] := if_pos h

theorem spelled_append_ne (h : ¬ c.toNat < 0x80) (more rest : List Char) :
    spelled c ++ more ≠ c :: rest := by
  have hne {d : Char} (hd : d.toNat < 0x80) : d ≠ c := by
    rintro rfl
    exact h hd
  unfold spelled
  rw [if_neg h]
  split_ifs <;> simp [hne]

theorem backslash_not_mem_spelled (hc : c ∉ escapes) : '\\' ∉ spelled c := by
  have hne : '\\' ≠ c := by
    rintro rfl
    exact hc (by decide)
  have hhex (width : Nat) : '\\' ∉ Text.hex width c.toNat := fun hmem =>
    absurd (Text.isHex_of_mem_hex _ hmem) (by decide)
  unfold spelled
  split_ifs <;> simp [hne, hhex]

theorem escape?_of_not_mem (hc : c ∉ escapes) (rest : List Char) :
    escape? named (c :: rest) = some (('\\' :: spelled c).map Char.toNat, 1) := by
  have hletter : letterEscape? c = none := by
    unfold letterEscape?
    split <;> simp_all [escapes]
  have hwidth : Shell.codeWidth? c = none := by
    unfold Shell.codeWidth?
    split <;> simp_all [escapes]
  have hoctal : ¬ Shell.isOctal c = true := mt mem_escapes_of_isOctal hc
  have hname : c ≠ 'N' := by
    rintro rfl
    exact hc (by decide)
  rw [escape?, hletter, hwidth]
  simp only [if_neg hname, if_neg hoctal]

theorem length_escape? (hc : c ∈ escapes) (h : escape? named (c :: rest) = some (value, taken)) :
    value.length ≤ 1 ∧ 1 ≤ taken := by
  unfold escape? at h
  simp only at h
  split at h
  · rename_i text width hletter
    cases h
    simpa using letterEscape?_length hletter
  · obtain ⟨⟨n, more⟩, -, hn⟩ := Option.map_eq_some_iff.1 h
    cases hn
    simp
  · rename_i hletter hwidth
    split at h
    · obtain ⟨⟨n, more⟩, -, hn⟩ := Option.map_eq_some_iff.1 h
      cases hn
      simp
    · rename_i hname
      split at h
      · cases h
        simp
      · rename_i hoctal
        rcases exists_meaning c hc with hmeaning | hmeaning | hmeaning | hmeaning
        · simp [hletter] at hmeaning
        · simp [hwidth] at hmeaning
        · exact absurd hmeaning hname
        · exact absurd hmeaning hoctal

end Escapes

section Decoded

theorem exists_ahead {front back u v : List Char} (h : front ++ back = u ++ v)
    (hlength : front.length < u.length) : ∃ ahead, ahead ≠ [] ∧ back = ahead ++ v := by
  rcases List.append_eq_append_iff.1 h with ⟨a, rfl, hback⟩ | ⟨a, rfl, -⟩
  · refine ⟨a, ?_, hback⟩
    rintro rfl
    simp at hlength
  · simp at hlength

theorem eq_nil_of_not_mem {back w : List Char} (hc : c ∉ escapes)
    (ih : ∀ {w}, back = w ++ rest → w = [] ∧ IsInert rest)
    (hv : '\\' :: spelled c ++ back = w ++ '\\' :: c :: rest) :
    w = [] ∧ IsInert ('\\' :: c :: rest) := by
  rcases List.append_eq_append_iff.1 hv with ⟨a, rfl, hback⟩ | ⟨a, hfront, hback⟩
  · have hahead : back = (a ++ ['\\', c]) ++ rest := by simpa using hback
    exact absurd (ih hahead).1 (by simp)
  · cases w with
    | nil =>
      obtain rfl : '\\' :: spelled c = a := hfront
      obtain ⟨-, hback⟩ := List.cons.inj hback
      by_cases hascii : c.toNat < 0x80
      · rw [spelled_of_ascii hascii] at hback
        exact ⟨rfl, .backslash hc hascii (ih (w := []) (List.cons.inj hback).2.symm).2⟩
      · exact absurd hback.symm (spelled_append_ne hascii back rest)
    | cons b w =>
      obtain ⟨-, hspelled⟩ := List.cons.inj hfront
      cases a with
      | nil =>
        have hahead : back = ['\\', c] ++ rest := hback.symm
        exact absurd (ih hahead).1 (by simp)
      | cons d a =>
        obtain ⟨rfl, -⟩ := List.cons.inj hback
        exact absurd (hspelled ▸ by simp) (backslash_not_mem_spelled hc)

/-- Decoding never catches up with a text that it has fallen behind: what is written for less than
it takes is paid for by no later escape. -/
theorem eq_nil_of_decodeFrom {skipped : Nat} {v w : List Char}
    (h : decodeFrom named skipped s = some (v.map Char.toNat)) (hv : v = w ++ s.drop skipped) :
    w = [] ∧ IsInert (s.drop skipped) := by
  fun_induction decodeFrom named skipped s generalizing v w with
  | case1 skipped =>
    rw [List.drop_nil, List.append_nil] at hv
    simp only [Option.some.injEq, List.nil_eq, List.map_eq_nil_iff] at h
    rw [List.drop_nil]
    exact ⟨hv ▸ h, .nil⟩
  | case2 skipped c rest ih => exact ih h hv
  | case3 rest ih =>
    obtain ⟨⟨text, taken⟩, hescape, h⟩ := Option.bind_eq_some_iff.1 h
    obtain ⟨more, hmore, hvalue⟩ := Option.bind_eq_some_iff.1 h
    obtain ⟨front, back, rfl, hfront, rfl⟩ := List.map_eq_append_iff.1 (Option.some.inj hvalue).symm
    cases rest with
    | nil => cases hescape
    | cons c rest =>
      by_cases hc : c ∈ escapes
      · -- An escape writes less than it takes, and so falls behind the text.
        obtain ⟨htext, htaken⟩ := length_escape? hc hescape
        rw [← hfront, List.length_map] at htext
        have hwhole : front ++ back = (w ++ '\\' :: (c :: rest).take taken) ++
            (c :: rest).drop taken := by simpa using hv
        obtain ⟨ahead, hne, hback⟩ := exists_ahead hwhole (by simp; omega)
        exact absurd (ih _ hmore hback).1 hne
      · rw [escape?_of_not_mem hc] at hescape
        obtain ⟨rfl, rfl⟩ := Prod.mk.inj (Option.some.inj hescape)
        obtain rfl : front = '\\' :: spelled c :=
          List.map_injective_iff.2 (fun _ _ => Char.toNat_inj.1) hfront
        exact eq_nil_of_not_mem hc (ih _ hmore) hv
  | case4 c rest hc ih =>
    obtain ⟨more, hmore, hvalue⟩ := Option.map_eq_some_iff.1 h
    obtain ⟨d, back, rfl, hd, rfl⟩ := List.map_eq_cons_iff.1 hvalue.symm
    cases w with
    | nil =>
      obtain ⟨rfl, hback⟩ := List.cons.inj hv
      exact ⟨rfl, .plain hc (ih (w := []) hmore hback).2⟩
    | cons b w =>
      have hback : back = (w ++ [c]) ++ rest := by simpa using (List.cons.inj hv).2
      exact absurd (ih hmore hback).1 (by simp)

theorem IsInert.decodeFrom (h : IsInert s) :
    Template.decodeFrom named 0 s = some (s.map Char.toNat) := by
  induction h with
  | nil => rfl
  | plain hc hs ih => rw [Template.decodeFrom, if_neg hc, ih]; rfl
  | @backslash c s hc hascii hs ih =>
    rw [Template.decodeFrom, if_pos rfl, escape?_of_not_mem hc, spelled_of_ascii hascii]
    simp [Template.decodeFrom, ih]

theorem decodeFrom_eq_self_iff :
    decodeFrom named 0 s = some (s.map Char.toNat) ↔ IsInert s :=
  ⟨fun h => (eq_nil_of_decodeFrom (w := []) h rfl).2, IsInert.decodeFrom⟩

end Decoded

section Literals

theorem bodyFrom_eq_some (h : bodyFrom s = some (body, after)) : s = body ++ '\'' :: after := by
  fun_induction bodyFrom s generalizing body with
  | case1 | case3 => cases h
  | case2 => cases h; rfl
  | case4 c rest ih | case5 c rest _ _ _ ih =>
    obtain ⟨⟨more, after'⟩, hmore, heq⟩ := Option.map_eq_some_iff.1 h
    cases heq
    rw [ih hmore]
    rfl

theorem bodyFrom_plain (hquote : c ≠ '\'') (hbackslash : c ≠ '\\') (s : List Char) :
    bodyFrom (c :: s) = (bodyFrom s).map fun (body, after) => (c :: body, after) := by
  rw [bodyFrom.eq_def]
  split <;> simp_all

theorem IsInert.bodyFrom (h : IsInert s) (hquote : '\'' ∉ s) (rest : List Char) :
    Template.bodyFrom (s ++ '\'' :: rest) = some (s, rest) := by
  induction h with
  | nil => rfl
  | @plain c s hc hs ih =>
    rw [List.mem_cons, not_or] at hquote
    rw [List.cons_append, bodyFrom_plain (Ne.symm hquote.1) hc, ih hquote.2]
    rfl
  | @backslash c s hc _ hs ih =>
    rw [List.mem_cons, List.mem_cons, not_or, not_or] at hquote
    rw [List.cons_append, List.cons_append, Template.bodyFrom, ih hquote.2.2]
    rfl

theorem IsInert.not_mem (h : IsInert s)
    (hbody : Template.bodyFrom (s ++ '\'' :: rest) = some (s, rest)) : '\'' ∉ s := by
  induction h with
  | nil => exact List.not_mem_nil
  | @plain c s hc hs ih =>
    have hne : c ≠ '\'' := by
      rintro rfl
      cases hbody
    rw [List.cons_append, bodyFrom_plain hne hc] at hbody
    obtain ⟨⟨more, after⟩, hmore, heq⟩ := Option.map_eq_some_iff.1 hbody
    cases heq
    simp [Ne.symm hne, ih hmore]
  | @backslash c s hc _ hs ih =>
    have hne : c ≠ '\'' := by
      rintro rfl
      exact hc (by decide)
    rw [List.cons_append, List.cons_append, Template.bodyFrom] at hbody
    obtain ⟨⟨more, after⟩, hmore, heq⟩ := Option.map_eq_some_iff.1 hbody
    cases heq
    simp [Ne.symm hne, ih hmore]

theorem literal?_eq_self_iff (path rest : List Char) :
    literal? named ('\'' :: (path ++ '\'' :: rest)) = some (path.map Char.toNat, rest) ↔
      '\'' ∉ path ∧ IsInert path := by
  constructor
  · intro h
    obtain ⟨⟨body, after⟩, hbody, h⟩ := Option.bind_eq_some_iff.1 h
    obtain ⟨value, hvalue, heq⟩ := Option.bind_eq_some_iff.1 h
    cases heq
    obtain rfl : path = body := List.append_cancel_right (bodyFrom_eq_some hbody)
    have hinert := decodeFrom_eq_self_iff.1 hvalue
    exact ⟨hinert.not_mem hbody, hinert⟩
  · rintro ⟨hquote, hinert⟩
    simp [literal?, hinert.bodyFrom hquote, hinert.decodeFrom]

example : literal? named "'\\é'".toList = some ("\\xe9".toList.map Char.toNat, []) := by rfl

end Literals

end Template

namespace Request

variable {name content : String} {given : String × String} {p : Part}

theorem exists_path (name : String) (fromFile : Bool) (content : String) :
    ∃ path, (filePart name fromFile content).file = some path ∧ ';' ∉ path.toList ∧
      (content = path ∨ ∃ more, content = path ++ ";" ++ more) := by
  rcases hcut : Text.cutList ';' content.toList with ⟨path, _ | more⟩
  · obtain ⟨rfl, hpath⟩ := Text.cutList_eq_none.1 hcut
    refine ⟨content, ?_, hpath, .inl rfl⟩
    simp only [filePart, Text.split, Text.splitList_of_not_mem hpath, List.map_singleton,
      String.ofList_toList]
  · obtain ⟨hcontent, hpath⟩ := Text.cutList_eq_some.1 hcut
    refine ⟨.ofList path, ?_, by simpa using hpath, .inr ⟨.ofList more, ?_⟩⟩
    · simp only [filePart, Text.split, hcontent, Text.splitList_append hpath, List.map_cons]
    · rw [← String.toList_inj, hcontent]
      simp

theorem formPart_of_fromFile (h : (formPart name content).fromFile = true) :
    ∃ s, content = "<" ++ s ∧ formPart name content = filePart name true s := by
  unfold formPart at h ⊢
  split at h
  · simp [filePart] at h
  · rename_i rest hcontent
    refine ⟨.ofList rest, ?_, ?_⟩
    · rw [← String.toList_inj, hcontent]
      simp
    · rfl
  · cases h

theorem part?_of_fromFile (h : part? given = some p) (hfile : p.fromFile = true) :
    given.1 ≠ "form-string" ∧ ∃ s, given.2 = p.name ++ "=<" ++ s ∧ p = filePart p.name true s := by
  obtain ⟨flag, text⟩ := given
  have hnamed : ¬ IsNameless text := by
    intro hnameless
    have hnone : part? (flag, text) = none := part?_of_isNameless hnameless
    rw [hnone] at h
    cases h
  obtain ⟨name, content, rfl, hne, hname⟩ := exists_name hnamed
  rw [part?_named hne hname, Option.some.injEq] at h
  by_cases hflag : flag = "form-string"
  · rw [if_pos hflag] at h
    subst h
    cases hfile
  · rw [if_neg hflag] at h
    subst h
    obtain ⟨s, rfl, hpart⟩ := formPart_of_fromFile hfile
    rw [formPart_name, hpart]
    have hsigns : "=<" = "=" ++ "<" := rfl
    exact ⟨hflag, s, by simp only [hsigns, String.append_assoc], rfl⟩

end Request

namespace Template

def quoted (path : String) : String := "'" ++ path ++ "'"

def lookup (literal : String) : String :=
  "\x7b\x7b lookup('file', " ++ literal ++ ") \x7d\x7d"

end Template

namespace AnsiblePlaybook

variable {r : Request} {p : Part} {before after : List Part} {path : String}

theorem partValue_of_fromFile (hpath : p.file = some path) (hfile : p.fromFile = true) :
    partValue p =
      .mapping [("content", .text (Template.lookup (Template.quoted path)))] := by
  have hlookup : lookupFile (some path) = Template.lookup (Template.quoted path) := by
    unfold lookupFile Template.lookup Template.quoted
    simp only [← String.toList_inj, String.toList_append, Option.getD_some]
    simp
  rw [← hlookup, partValue, Part.source_of_file hpath, hfile]
  rfl

theorem settings_multipart (hbody : r.body = .multipart (before ++ p :: after))
    (hupload : r.uploadFile = none) : ∃ start rest fields,
      settings r = start ++ ("body", .mapping fields) :: rest ∧
        (p.name ∉ after.map (·.name) → (p.name, partValue p) ∈ fields) := by
  obtain ⟨start, rest, hsettings⟩ := settings_withParts hupload
  have hr : r.withParts (before ++ p :: after) = r := by
    rw [Request.withParts, ← hbody]
  refine ⟨start, rest, _, hr ▸ hsettings _, fun hlast => ?_⟩
  have hplace : Replaced (partEntry p) (partEntry p)
      (Fields.ofItems ((before ++ p :: after).map partEntry))
      (Fields.ofItems ((before ++ p :: after).map partEntry)) :=
    Fields.replaced_ofItems_map before rfl hlast
  obtain ⟨fields, others, hfields, -⟩ := hplace
  change partEntry p ∈ Fields.ofItems ((before ++ p :: after).map partEntry)
  rw [hfields]
  exact List.mem_append_right _ List.mem_cons_self

end AnsiblePlaybook

namespace Arguments

open Request

variable {a : Arguments} {r : Request} {p : Part} {parts before after : List Part}

theorem formParts_of_body (hr : a.request.result = .ok r) (hbody : r.body = .multipart parts) :
    parts = formParts (a.textsOf formFlags) := by
  obtain ⟨l, redirects, -, -, rfl⟩ := request_eq_ok.1 hr
  obtain ⟨values, hpayload, rfl⟩ := forms_of_body hbody
  unfold payload at hpayload
  split at hpayload
  · cases hpayload
  · split at hpayload
    · cases hpayload
      rfl
    · cases hpayload

/-- What a playbook looks up for a part is a literal that has the path between quotation marks. It
is read as the path just if the path has no such mark and none of its backslashes makes an escape
or stands before a character outside ASCII. -/
theorem lookup_quoted (named : List Char → Option Nat) (hr : a.request.result = .ok r)
    (hbody : r.body = .multipart (before ++ p :: after)) (hfile : p.fromFile = true) :
    ∃ path, p.file = some path ∧ ';' ∉ path.toList ∧
      (∃ given ∈ a.textsOf formFlags, given.1 = "form" ∧
        (given.2 = p.name ++ "=<" ++ path ∨
          ∃ more, given.2 = p.name ++ "=<" ++ (path ++ ";" ++ more))) ∧
      (∀ text, (Target.ansible.write r).result = .ok text → ∃ host start rest fields,
        text = Yaml.listDocument [AnsiblePlaybook.task r host] ∧
        AnsiblePlaybook.settings r = start ++ ("body", .mapping fields) :: rest ∧
        (p.name ∉ after.map (·.name) → (p.name,
          .mapping [("content", .text (Template.lookup (Template.quoted path)))]) ∈ fields)) ∧
      ∀ rest, Template.literal? named ((Template.quoted path).toList ++ rest) =
          some (path.toList.map Char.toNat, rest) ↔
        '\'' ∉ path.toList ∧ Template.IsInert path.toList := by
  have hp : p ∈ formParts (a.textsOf formFlags) := by
    rw [← formParts_of_body hr hbody]
    simp
  obtain ⟨given, hgiven, hpart⟩ := List.mem_filterMap.1 hp
  obtain ⟨hflag, s, htext, hsource⟩ := part?_of_fromFile hpart hfile
  obtain ⟨path, hpath, hsemicolon, hs⟩ := exists_path p.name true s
  rw [← hsource] at hpath
  refine ⟨path, hpath, hsemicolon, ⟨given, hgiven, ?_, ?_⟩, ?_, fun rest => ?_⟩
  · have hmem := (mem_textsOf hgiven).1
    simpa [formFlags, hflag] using hmem
  · rcases hs with rfl | ⟨more, rfl⟩
    · exact .inl htext
    · exact .inr ⟨more, htext⟩
  · intro text hwrite
    have hupload : r.uploadFile = none := by
      by_contra hsome
      have hnone := (wellFormed_of_request hr).upload (Option.isSome_iff_ne_none.2 hsome)
      rw [hbody] at hnone
      cases hnone
    obtain ⟨host, rfl⟩ := AnsiblePlaybook.write_eq_ok hwrite
    obtain ⟨start, rest, fields, hsettings, hmem⟩ :=
      AnsiblePlaybook.settings_multipart hbody hupload
    rw [AnsiblePlaybook.partValue_of_fromFile hpath hfile] at hmem
    exact ⟨host, start, rest, fields, rfl, hsettings, hmem⟩
  · have hquoted : (Template.quoted path).toList ++ rest =
        '\'' :: (path.toList ++ '\'' :: rest) := by
      simp [Template.quoted]
    rw [hquoted, Template.literal?_eq_self_iff]

theorem lookup_quoted_path : ∃ a r p,
    (parse .curl true ["-F", "a=<f", "http://h/"]).result = .ok a ∧ a.request.result = .ok r ∧
    r.body = .multipart [p] ∧ p.fromFile = true ∧ p.file = some "f" ∧
    Template.literal? (fun _ => none) ((Template.quoted "f").toList ++ [')']) =
      some ("f".toList.map Char.toNat, [')']) := by
  let a : Arguments := ⟨[⟨"form", true, .word "a=<f"⟩], ["http://h/"]⟩
  let p : Part := { name := "a", file := some "f", fromFile := true }
  let r : Request := { method := .post, url := "http://h/", body := .multipart [p] }
  have hr : a.request.result = .ok r := by decide +kernel
  have hbody : r.body = .multipart ([] ++ p :: []) := rfl
  obtain ⟨path, hpath, -, -, -, hliteral⟩ := lookup_quoted (fun _ => none) hr hbody rfl
  cases hpath
  refine ⟨a, r, p, by cbv, hr, rfl, rfl, rfl, (hliteral [')']).2 ⟨by decide, ?_⟩⟩
  exact .plain (by decide) .nil

theorem lookup_quoted_apostrophe : ∃ a r p q,
    (parse .curl true ["-F", "a=<it's", "-F", "b=<C:\\new", "http://h/"]).result = .ok a ∧
    a.request.result = .ok r ∧ r.body = .multipart [p, q] ∧
    p.fromFile = true ∧ p.file = some "it's" ∧ q.fromFile = true ∧ q.file = some "C:\\new" ∧
    Template.literal? (fun _ => none) (Template.quoted "it's").toList =
      some ("it".toList.map Char.toNat, "s'".toList) ∧
    Template.literal? (fun _ => none) (Template.quoted "C:\\new").toList =
      some ("C:\new".toList.map Char.toNat, []) := by
  let a : Arguments :=
    ⟨[⟨"form", true, .word "a=<it's"⟩, ⟨"form", true, .word "b=<C:\\new"⟩], ["http://h/"]⟩
  let p : Part := { name := "a", file := some "it's", fromFile := true }
  let q : Part := { name := "b", file := some "C:\\new", fromFile := true }
  let r : Request := { method := .post, url := "http://h/", body := .multipart [p, q] }
  have hr : a.request.result = .ok r := by decide +kernel
  exact ⟨a, r, p, q, by cbv, hr, rfl, rfl, rfl, rfl, rfl, by decide, by decide⟩

end Arguments

end CurlScribe
