import CurlScribe.Proofs.Target.GoProgram
import CurlScribe.Proofs.Target.StandardInput

namespace CurlScribe.GoProgram

open Token
open Code (IsLine AreLines)

variable {r : Request} {ms : Option Int} {text : String}

section Program

def known : List String :=
  ["fmt", "io", "log", "net/http", "crypto/tls", "net/url", "time", "os", "strings", "bytes",
    "mime/multipart"]

def packageName (path : String) : List Char :=
  (package? [.literal (Json.quoted false path).toList]).getD []

theorem mem_known_of_mem_imports {package : String} (h : package ∈ imports r) :
    package ∈ known := by
  simp only [imports, List.mem_mergeSort, List.mem_append, List.mem_ite_nil_right] at h
  rcases h with (((((h | ⟨-, h⟩) | ⟨-, h⟩) | ⟨-, h⟩) | ⟨-, h⟩) | ⟨-, h⟩) | ⟨-, h⟩
  all_goals
    revert package
    decide

theorem importLine_known {package : String} (h : package ∈ known) :
    IsLine (Json.quoted false) (importLine package) ∧
      tokens (importLine package) = [.literal (Json.quoted false package).toList] ∧
      package? (tokens (importLine package)) = some (packageName package) := by
  revert package
  decide +kernel

theorem areLines_program (r : Request) (ms : Option Int) :
    AreLines (Json.quoted false) (code r ms)
      ([[.word "package".toList, .word "main".toList], [], [.word "import".toList, .mark '(']]
        ++ (imports r).map (fun package => tokens (importLine package))
        ++ [[.mark ')'], [], [.word "func".toList, .word "main".toList, .mark '(', .mark ')',
          .mark '\x7b']]
        ++ (bodyLines r ms).map tokens ++ [[.mark '\x7d']]) := by
  have hhead : AreLines (Json.quoted false) ("package main\n\nimport (\n" : Code)
      [[.word "package".toList, .word "main".toList], [], [.word "import".toList, .mark '(']] :=
    ⟨rfl, by decide⟩
  have hmain : AreLines (Json.quoted false) (")\n\nfunc main() \x7b\n" : Code)
      [[.mark ')'], [], [.word "func".toList, .word "main".toList, .mark '(', .mark ')',
        .mark '\x7b']] := ⟨rfl, by decide⟩
  have hend : AreLines (Json.quoted false) ("\x7d\n" : Code) [[.mark '\x7d']] := ⟨rfl, by decide⟩
  have himports : AreLines (Json.quoted false)
      (Code.lines ((imports r).map importLine) ++ ("\n" : Code))
      ((imports r).map fun package => tokens (importLine package)) := by
    have hlines : ∀ c ∈ (imports r).map importLine, IsLine (Json.quoted false) c :=
      List.forall_mem_map.2 fun package hpackage =>
        (importLine_known (mem_known_of_mem_imports hpackage)).1
    have hne : (imports r).map importLine ≠ [] := by
      rw [ne_eq, List.map_eq_nil_iff, imports]
      exact List.ne_nil_of_mem (a := "fmt") (List.mem_mergeSort.2 (by simp))
    have hlines := Code.areLines_lines hlines hne
    rwa [List.map_map] at hlines
  have hbody := Code.areLines_lines (block_body r ms).isLine
    (by simp [bodyLines, requestLines, step])
  have hall := ((((hhead.append himports).append hmain).append hbody).append hend)
  have hcode : code r ms = (.code "package main\n\nimport (\n" ::
      Code.lines ((imports r).map importLine)) ++
      .code ("\n" ++ ")\n\nfunc main() \x7b\n") ::
        (Code.lines (bodyLines r ms) ++ [.code ("\n" ++ "\x7d\n")]) := by
    simp [code, bodyLines]
  rw [hcode, Code.areLines_cut, List.append_cons, List.append_cons, ← List.append_assoc,
    Code.areLines_cut]
  simpa only [List.append_assoc, List.cons_append, List.nil_append] using hall

theorem lines_program (r : Request) (ms : Option Int) :
    Token.lines (ofText ((code r ms).text (Json.quoted false))) =
      [.word "package".toList, .word "main".toList] :: [] :: [.word "import".toList, .mark '('] ::
        ((imports r).map (fun package => tokens (importLine package)) ++ [.mark ')'] :: [] ::
          [.word "func".toList, .word "main".toList, .mark '(', .mark ')', .mark '\x7b'] ::
            ((bodyLines r ms).map tokens ++ [[.mark '\x7d'], []])) := by
  rw [(areLines_program r ms).lines_ofText (delimits_quoted false)]
  simp only [List.append_assoc]
  rfl

variable {lines : List (List Token)}
  (h : lines = Token.lines (ofText ((code r ms).text (Json.quoted false))))

include h

theorem packages_program : packages lines = (imports r).map packageName := by
  have himport : ∀ line ∈ (imports r).map fun package => tokens (importLine package),
      decide (line ≠ [.mark ')']) = true := by
    rw [List.forall_mem_map]
    intro package hpackage
    rw [(importLine_known (mem_known_of_mem_imports hpackage)).2.1]
    rfl
  rw [h, lines_program]
  change List.filterMap package? (List.takeWhile (· ≠ [.mark ')']) (_ ++ [.mark ')'] :: _)) = _
  rw [List.takeWhile_append_of_pos himport, List.takeWhile_cons_of_neg (by decide), List.append_nil,
    List.filterMap_map]
  refine (List.filterMap_congr fun package hpackage => ?_).trans
    (congrFun List.filterMap_eq_map _)
  exact (importLine_known (mem_known_of_mem_imports hpackage)).2.2

theorem flatMap_program {α : Type} {f : List Token → List α}
    (hliteral : ∀ path, f [.literal path] = [])
    (hpackage : f [.word "package".toList, .word "main".toList] = [])
    (himport : f [.word "import".toList, .mark '('] = [])
    (hmain : f [.word "func".toList, .word "main".toList, .mark '(', .mark ')', .mark '\x7b'] = [])
    (hparenthesis : f [.mark ')'] = []) (hbrace : f [.mark '\x7d'] = []) (hnil : f [] = []) :
    lines.flatMap f = ((bodyLines r ms).map tokens).flatMap f := by
  have himports : ((imports r).map fun package => tokens (importLine package)).flatMap f = [] := by
    rw [List.flatMap_eq_nil_iff, List.forall_mem_map]
    intro package hpackage
    rw [(importLine_known (mem_known_of_mem_imports hpackage)).2.1, hliteral]
  rw [h, lines_program]
  simp only [List.flatMap_cons, List.flatMap_append, List.flatMap_nil, himports, hpackage, himport,
    hmain, hparenthesis, hbrace, hnil, List.nil_append, List.append_nil]

theorem mentions_program : lines.flatMap (·.filterMap qualifier?) = bodyQualifiers r ms :=
  (flatMap_program h (fun _ => rfl) rfl rfl rfl rfl rfl rfl).trans (block_body r ms).mentions

theorem run_program : run [[]] lines = some [[]] := by
  have himports (packages : List String) (hknown : ∀ package ∈ packages, package ∈ known) :
      run [[]] (packages.map fun package => tokens (importLine package)) = some [[]] := by
    induction packages with
    | nil => rfl
    | cons package packages ih =>
      obtain ⟨hpackage, hpackages⟩ := List.forall_mem_cons.1 hknown
      rw [List.map_cons, (importLine_known hpackage).2.1]
      exact ih hpackages
  have himports := himports (imports r) fun _ => mem_known_of_mem_imports
  obtain ⟨after, hbody, -⟩ := (block_body r ms).runs [] [[]] fun _ _ => List.not_mem_nil
  rw [run] at himports hbody
  rw [h, lines_program]
  change List.foldlM runLine [[]] (_ ++ [.mark ')'] :: [] :: _ :: _) = _
  rw [List.foldlM_append, himports]
  change List.foldlM runLine [[], []] (_ ++ [[.mark '\x7d'], []]) = _
  rw [List.foldlM_append, hbody]
  rfl

end Program

section Imports

def importNames (r : Request) : List (List Char) :=
  ["fmt".toList, "io".toList, "log".toList, "http".toList]
    ++ (if r.tls.insecure then ["tls".toList] else [])
    ++ (if r.proxy.isSome then ["url".toList] else [])
    ++ (if r.timeout.isSome then ["time".toList] else [])
    ++ (if usesFiles (content r) then ["os".toList] else [])
    ++ (if content r matches .text _ then ["strings".toList] else [])
    ++ (if content r matches .form _ then ["bytes".toList, "multipart".toList] else [])

theorem mem_importNames_iff {x : List Char} : x ∈ importNames r ↔
    (((((x ∈ ["fmt".toList, "io".toList, "log".toList, "http".toList] ∨
      r.tls.insecure = true ∧ x ∈ ["tls".toList]) ∨ r.proxy.isSome = true ∧ x ∈ ["url".toList]) ∨
      r.timeout.isSome = true ∧ x ∈ ["time".toList]) ∨
      usesFiles (content r) = true ∧ x ∈ ["os".toList]) ∨
      (content r matches .text _) = true ∧ x ∈ ["strings".toList]) ∨
      (content r matches .form _) = true ∧ x ∈ ["bytes".toList, "multipart".toList] := by
  simp only [importNames, List.mem_append, List.mem_ite_nil_right]

theorem mem_importNames {x : List Char} :
    x ∈ (imports r).map packageName ↔ x ∈ importNames r := by
  have hnames : known.map packageName = ["fmt".toList, "io".toList, "log".toList, "http".toList,
      "tls".toList, "url".toList, "time".toList, "os".toList, "strings".toList, "bytes".toList,
      "multipart".toList] := by decide +kernel
  simp only [known, List.map_cons, List.map_nil, List.cons.injEq, and_true] at hnames
  obtain ⟨hfmt, hio, hlog, hhttp, htls, hurl, htime, hos, hstrings, hbytes, hmultipart⟩ := hnames
  rw [imports, (List.Perm.map packageName (List.mergeSort_perm _ _)).mem_iff]
  simp only [List.map_append, apply_ite (List.map packageName), List.map_cons, List.map_nil, hfmt,
    hio, hlog, hhttp, htls, hurl, htime, hos, hstrings, hbytes, hmultipart]
  rfl

theorem mem_contentQualifiers_of_usesFiles {c : Content} (h : usesFiles c = true) :
    "os".toList ∈ contentQualifiers c := by
  have hopen (name path : String) : "os".toList ∈ openQualifiers name path := by
    unfold openQualifiers
    split <;> simp
  cases c with
  | none | text => cases h
  | file path => exact hopen "data" path
  | form parts =>
    obtain ⟨p, hp, hsource⟩ := List.any_eq_true.1 h
    obtain ⟨n, hn, rfl⟩ := List.mem_iff_getElem.1 hp
    have hpart : "os".toList ∈ partQualifiers parts[n] n := by
      unfold partQualifiers
      split
      · rename_i hp
        simp [hp] at hsource
      · simp
      · exact List.mem_append_left _ (List.mem_append_right _ (hopen _ _))
    have hmem : (parts[n], n) ∈ parts.zipIdx := List.mem_zipIdx_iff_getElem?.2 (by simp [hn])
    refine List.mem_append_left _ (List.mem_append_right _ ?_)
    exact List.mem_flatMap.2 ⟨_, hmem, hpart⟩

theorem mem_bodyQualifiers (hms : ms.isSome = r.timeout.isSome) {x : List Char}
    (h : x ∈ importNames r) : x ∈ bodyQualifiers r ms := by
  have hclient (hx : x ∈ clientQualifiers r ms) : x ∈ bodyQualifiers r ms :=
    List.mem_append_left _ (List.mem_append_left _ (List.mem_append_left _ hx))
  have hcontent (hx : x ∈ contentQualifiers (content r)) : x ∈ bodyQualifiers r ms :=
    List.mem_append_left _ (List.mem_append_left _ (List.mem_append_right _ hx))
  rw [mem_importNames_iff] at h
  rcases h with (((((h | ⟨hinsecure, h⟩) | ⟨hproxy, h⟩) | ⟨htime, h⟩) | ⟨hfiles, h⟩) | ⟨htext, h⟩)
    | ⟨hform, h⟩
  · have hfixed : ∀ x ∈ ["fmt".toList, "io".toList, "log".toList, "http".toList],
        x ∈ ["http".toList, "log".toList] ∨
          x ∈ ["client".toList, "log".toList, "resp".toList, "io".toList, "resp".toList,
            "log".toList, "fmt".toList] := by decide
    refine (hfixed x h).elim (fun hx => ?_) (List.mem_append_right _)
    refine List.mem_append_left _ (List.mem_append_right _ ?_)
    exact List.mem_append_left _ (List.mem_append_left _ (List.mem_append_left _ hx))
  · have htransport : transportFields r ≠ [] := by simp [transportFields, Code.when, hinsecure]
    refine hclient (List.mem_append_left _ (List.mem_append_right _ ?_))
    rw [transportQualifiers, if_neg htransport, if_pos hinsecure]
    exact List.mem_append_left _ (List.mem_append_right _ h)
  · refine hclient (List.mem_append_left _ (List.mem_append_left _ ?_))
    rw [if_pos hproxy, List.mem_singleton.1 h]
    exact List.mem_cons_self
  · refine hclient (List.mem_append_right _ (List.mem_cons_of_mem _ ?_))
    rwa [if_pos (hms.trans htime)]
  · rw [List.mem_singleton.1 h] at hcontent ⊢
    exact hcontent (mem_contentQualifiers_of_usesFiles hfiles)
  · refine hcontent ?_
    cases hc : content r with
    | text text => exact h
    | none | file | form => simp [hc] at htext
  · refine hcontent ?_
    cases hc : content r with
    | form parts =>
      exact List.mem_append_left _ (List.mem_append_left _ h)
    | none | file | text => simp [hc] at hform

def unnumbered : List (List Char) :=
  ["proxyURL".toList, "transport".toList, "client".toList, "data".toList, "form".toList,
    "writer".toList, "req".toList, "resp".toList, "bodyText".toList]

theorem mem_bodyLocals {x : List Char} (h : x ∈ bodyLocals r) :
    x ∈ unnumbered ∨ digits x ≠ [] := by
  have hclient : ∀ x ∈ ["proxyURL".toList, "transport".toList, "client".toList],
      x ∈ unnumbered := by decide
  have hcontent : ∀ x ∈ ["data".toList, "form".toList, "writer".toList], x ∈ unnumbered := by decide
  have hlast : ∀ x ∈ ["req".toList] ++ ["resp".toList, "bodyText".toList], x ∈ unnumbered := by
    decide
  rw [bodyLocals, List.append_assoc] at h
  rcases List.mem_append.1 h with h | h
  · rcases List.mem_append.1 h with h | h
    · exact .inl (hclient x (mem_clientLocals h))
    · exact (mem_contentLocals h).imp_left (hcontent x)
  · exact .inl (hlast x h)

theorem not_mem_bodyLocals {x : List Char} (h : x ∈ importNames r) :
    x ∉ bodyLocals r ∧ x ≠ "err".toList ∧ x ≠ "_".toList := by
  have hfree : ∀ x ∈ known.map packageName,
      (x ∉ unnumbered ∧ digits x = []) ∧ x ≠ "err".toList ∧ x ≠ "_".toList := by decide +kernel
  obtain ⟨package, hpackage, rfl⟩ := List.mem_map.1 (mem_importNames.2 h)
  obtain ⟨⟨hother, hdigits⟩, hne⟩ :=
    hfree _ (List.mem_map_of_mem (mem_known_of_mem_imports hpackage))
  exact ⟨fun hmem => (mem_bodyLocals hmem).elim hother fun hnumber => hnumber hdigits, hne⟩

theorem of_mem_openQualifiers {name path : String} {x : List Char}
    (h : x ∈ openQualifiers name path) :
    x = "log".toList ∨ x = "os".toList ∨ x = name.toList := by
  unfold openQualifiers at h
  split at h
  · exact .inr (.inl (List.mem_singleton.1 h))
  · rcases List.mem_cons.1 h with h | h
    · exact .inr (.inl h)
    · exact (List.mem_cons.1 h).imp_right fun h => .inr (List.mem_singleton.1 h)

theorem of_mem_partQualifiers {p : Part} {n : Nat} {x : List Char} (h : x ∈ partQualifiers p n) :
    x ∈ ["io".toList, "log".toList] ∨ x = "writer".toList ∨ x ∈ partLocals p n ∨
      x = "os".toList ∧ ∀ value, p.source ≠ .text value := by
  unfold partQualifiers at h
  unfold partLocals
  cases hsource : p.source with
  | text value =>
    rw [hsource] at h
    have hfixed : ∀ x ∈ ["writer".toList, "log".toList],
        x ∈ ["io".toList, "log".toList] ∨ x = "writer".toList := by decide
    exact (hfixed x h).imp_right .inl
  | contents path =>
    rw [hsource] at h
    have hfixed : ∀ x ∈ ["os".toList, "log".toList, "writer".toList, "log".toList],
        x ∈ ["io".toList, "log".toList] ∨ x = "writer".toList ∨ x = "os".toList := by decide
    exact (hfixed x h).imp_right (.imp_right fun hos => .inr ⟨hos, by simp⟩)
  | upload path =>
    rw [hsource] at h
    have hfixed : ∀ x ∈ ["writer".toList, "log".toList] ++ ["io".toList, "log".toList],
        x ∈ ["io".toList, "log".toList] ∨ x = "writer".toList := by decide
    rw [List.forall_mem_append] at hfixed
    rcases List.mem_append.1 h with h | h
    · rcases List.mem_append.1 h with h | h
      · exact (hfixed.1 x h).imp_right .inl
      · rcases of_mem_openQualifiers h with rfl | rfl | rfl
        · exact .inl (by decide)
        · exact .inr (.inr (.inr ⟨rfl, by simp⟩))
        · exact .inr (.inr (.inl (List.mem_cons_of_mem _ (List.mem_singleton_self _))))
    · exact (hfixed.2 x h).imp_right .inl

theorem mem_importNames_of_fixed {x : List Char}
    (h : x ∈ ["fmt".toList, "io".toList, "log".toList, "http".toList]) : x ∈ importNames r :=
  mem_importNames_iff.2 (.inl (.inl (.inl (.inl (.inl (.inl h))))))

theorem of_mem_clientQualifiers (hms : ms.isSome = r.timeout.isSome) {x : List Char}
    (h : x ∈ clientQualifiers r ms) : x ∈ importNames r := by
  have hhttp : "http".toList ∈ importNames r := mem_importNames_of_fixed (by decide)
  simp only [clientQualifiers, List.mem_append, List.mem_ite_nil_right, List.mem_cons] at h
  rcases h with (⟨hproxy, hx⟩ | hx) | rfl | ⟨htime, hx⟩
  · rcases hx with rfl | rfl | hx
    · exact mem_importNames_iff.2
        (.inl (.inl (.inl (.inl (.inr ⟨hproxy, List.mem_singleton_self _⟩)))))
    · exact mem_importNames_of_fixed (by decide)
    · cases hx
  · unfold transportQualifiers at hx
    split at hx
    · cases hx
    · simp only [List.mem_append, List.mem_singleton, List.mem_ite_nil_right] at hx
      rcases hx with (rfl | ⟨hinsecure, rfl⟩) | ⟨-, rfl⟩
      · exact hhttp
      · exact mem_importNames_iff.2
          (.inl (.inl (.inl (.inl (.inl (.inr ⟨hinsecure, List.mem_singleton_self _⟩))))))
      · exact hhttp
  · exact hhttp
  · exact mem_importNames_iff.2
      (.inl (.inl (.inl (.inr ⟨hms.symm.trans htime, List.mem_cons.2 hx⟩))))

theorem of_mem_contentQualifiers {x : List Char} (h : x ∈ contentQualifiers (content r)) :
    x ∈ importNames r ∨ x ∈ contentLocals (content r) := by
  have hlog : "log".toList ∈ importNames r := mem_importNames_of_fixed (by decide)
  have hos (hfiles : usesFiles (content r) = true) : "os".toList ∈ importNames r :=
    mem_importNames_iff.2 (.inl (.inl (.inr ⟨hfiles, List.mem_singleton_self _⟩)))
  cases hc : content r with
  | none =>
    rw [hc] at h
    cases h
  | file path =>
    rw [hc] at h hos
    rcases of_mem_openQualifiers h with rfl | rfl | rfl
    · exact .inl hlog
    · exact .inl (hos rfl)
    · exact .inr (List.mem_singleton_self _)
  | text text =>
    rw [hc] at h
    exact .inl (mem_importNames_iff.2 (.inl (.inr ⟨by rw [hc], h⟩)))
  | form parts =>
    rw [hc] at h hos
    have hwriter : "writer".toList ∈ contentLocals (.form parts) :=
      List.mem_append_left _ (List.mem_append_right _ (List.mem_singleton_self _))
    have hpackage (hx : x ∈ ["bytes".toList, "multipart".toList]) : x ∈ importNames r :=
      mem_importNames_iff.2 (.inr ⟨by rw [hc], hx⟩)
    rw [contentQualifiers, List.append_assoc] at h
    rcases List.mem_append.1 h with h | h
    · exact .inl (hpackage h)
    · rcases List.mem_append.1 h with h | h
      · obtain ⟨⟨p, n⟩, hpart, hx⟩ := List.mem_flatMap.1 h
        rcases of_mem_partQualifiers hx with hx | rfl | hx | ⟨rfl, hsource⟩
        · have hfixed : ∀ x ∈ ["io".toList, "log".toList],
              x ∈ ["fmt".toList, "io".toList, "log".toList, "http".toList] := by decide
          exact .inl (mem_importNames_of_fixed (hfixed x hx))
        · exact .inr hwriter
        · exact .inr (List.mem_append_right _ (List.mem_flatMap.2 ⟨_, hpart, hx⟩))
        · refine .inl (hos (List.any_eq_true.2 ⟨p, List.fst_mem_of_mem_zipIdx hpart, ?_⟩))
          cases hp : p.source with
          | text value => exact absurd hp (hsource value)
          | contents | upload => rfl
      · rw [List.mem_singleton.1 h]
        exact .inr hwriter

theorem of_mem_bodyQualifiers (hr : r.WellFormed) (hms : ms.isSome = r.timeout.isSome)
    {x : List Char} (h : x ∈ bodyQualifiers r ms) : x ∈ importNames r ∨ x ∈ bodyLocals r := by
  have hclient : "client".toList ∈ clientLocals r :=
    List.mem_append_right _ (List.mem_singleton_self _)
  have hlocal : ∀ x ∈ ["client".toList, "req".toList, "resp".toList], x ∈ bodyLocals r := by
    intro x hx
    have hlast : ∀ x ∈ ["client".toList, "req".toList, "resp".toList],
        x = "client".toList ∨ x ∈ ["req".toList] ++ ["resp".toList, "bodyText".toList] := by decide
    rw [bodyLocals, List.append_assoc]
    rcases hlast x hx with rfl | hx
    · exact List.mem_append_left _ (List.mem_append_left _ hclient)
    · exact List.mem_append_right _ hx
  rw [bodyQualifiers, List.append_assoc, List.append_assoc] at h
  rcases List.mem_append.1 h with h | h
  · exact .inl (of_mem_clientQualifiers hms h)
  rcases List.mem_append.1 h with h | h
  · refine (of_mem_contentQualifiers h).imp_right fun hx => ?_
    rw [bodyLocals, List.append_assoc]
    exact List.mem_append_left _ (List.mem_append_right _ hx)
  have hfixed : ∀ x ∈ ["http".toList, "log".toList] ++ ["client".toList, "log".toList,
        "resp".toList, "io".toList, "resp".toList, "log".toList, "fmt".toList],
      x ∈ ["fmt".toList, "io".toList, "log".toList, "http".toList] ∨
        x ∈ ["client".toList, "req".toList, "resp".toList] := by decide
  rw [List.forall_mem_append] at hfixed
  have hreq : "req".toList ∈ bodyLocals r := hlocal _ (by decide)
  rcases List.mem_append.1 h with h | h
  · simp only [requestQualifiers, List.mem_append, List.mem_ite_nil_right, List.mem_map] at h
    rcases h with ((h | ⟨-, -, rfl⟩) | ⟨hbody, h⟩) | ⟨-, h⟩
    · exact (hfixed.1 x h).imp mem_importNames_of_fixed (hlocal x)
    · exact .inr hreq
    · cases hb : r.body with
      | multipart parts =>
        have hcontent : content r = .form parts := by
          rw [content, Request.uploadFile_eq_none hr (by simp [hb]), hb]
        rcases List.mem_cons.1 h with rfl | h
        · exact .inr hreq
        · rw [List.mem_singleton.1 h]
          refine .inr (List.mem_append_left _ (List.mem_append_left _ (List.mem_append_right _ ?_)))
          rw [hcontent]
          exact List.mem_append_left _ (List.mem_append_right _ (List.mem_singleton_self _))
      | none | urlencoded | raw => simp [hb] at hbody
    · rw [List.mem_singleton.1 h]
      exact .inr hreq
  · exact (hfixed.2 x h).imp mem_importNames_of_fixed (hlocal x)

/-- Whether a program imports the packages that it names, and no others, and all its definitions
declare something new. -/
structure IsComplete (text : String) : Prop where
  packages : ∀ x, x ∈ packages (Token.lines (ofText text)) ↔
    (∃ line ∈ Token.lines (ofText text), ∃ t ∈ line, qualifier? t = some x) ∧
      ∀ line ∈ Token.lines (ofText text), x ∉ declared line
  definitions : (run [[]] (Token.lines (ofText text))).isSome = true

theorem exists_code_of_write (h : (write r).result = .ok text) : ∃ ms,
    ms.isSome = r.timeout.isSome ∧ text = (code r ms).text (Json.quoted false) := by
  simp only [write, Noted.result_bind_eq_ok, Noted.note_eq, Noted.pure_eq, Except.ok.injEq] at h
  obtain ⟨-, -, ms, hms, -, -, rfl⟩ := h
  refine ⟨ms, ?_, rfl⟩
  cases htime : r.timeout with
  | none =>
    rw [htime] at hms
    cases hms
    rfl
  | some time =>
    rw [htime] at hms
    change some <$> milliseconds time = .ok ms at hms
    cases hmilliseconds : milliseconds time with
    | error f => simp [hmilliseconds] at hms
    | ok n =>
      rw [hmilliseconds] at hms
      cases hms
      rfl

theorem isComplete (hr : r.WellFormed) (h : (write r).result = .ok text) : IsComplete text := by
  obtain ⟨ms, hms, rfl⟩ := exists_code_of_write h
  refine ⟨fun x => ?_, by rw [run_program rfl]; rfl⟩
  have hmentions : (∃ line ∈ Token.lines (ofText ((code r ms).text (Json.quoted false))),
      ∃ t ∈ line, qualifier? t = some x) ↔ x ∈ bodyQualifiers r ms := by
    rw [← mentions_program rfl]
    simp only [List.mem_flatMap, List.mem_filterMap]
  have hdeclared : (∀ line ∈ Token.lines (ofText ((code r ms).text (Json.quoted false))),
      x ∉ declared line) ↔ x ∉ ((bodyLines r ms).map tokens).flatMap declared := by
    rw [← flatMap_program rfl (fun _ => rfl) rfl rfl rfl rfl rfl rfl]
    simp only [List.mem_flatMap, not_exists, not_and]
  rw [packages_program rfl, mem_importNames, hmentions, hdeclared]
  have hbody := block_body r ms
  constructor
  · intro hx
    obtain ⟨hlocal, herr, hblank⟩ := not_mem_bodyLocals hx
    refine ⟨mem_bodyQualifiers hms hx, fun hmem => ?_⟩
    exact (hbody.of_declared x hmem).elim hlocal (·.elim herr hblank)
  · rintro ⟨hx, hnew⟩
    exact (of_mem_bodyQualifiers hr hms hx).resolve_right fun hlocal =>
      hnew (hbody.declares x hlocal)

end Imports

end CurlScribe.GoProgram
