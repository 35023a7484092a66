import GradleLint.Proofs.Project.Executable
import GradleLint.Proofs.World.Lookup
import GradleLint.Proofs.World.Reach
import Mathlib

/-!
# Which build executable is taken

Of the three alternatives, the wrapper, the configured path and the search path, one is applicable,
and it has a file or it has none (`World.Offers`).  If it has one, the executable is a path that
starts at the root and leads to this file; if it has none, that is the failure
(`World.buildExecutable_offered`).

What stands between the file that is found and the path that is returned is that links are followed
twice, when the file is looked up and when the path is resolved.  The second time comes to the same
file as long as links are in reach, unless the operating system refuses to look up the path that has
been resolved, or the working directory has been removed.  Besides, the operating system may refuse
to look up the wrapper or the configured path (`World.Refused`), and then its error is the failure.
Both happen (`World.executable_out_of_reach`).
-/

namespace GradleLint
namespace World

variable {w : World} {root configured p : Path} {s : Settings} {t : Text}
  {result : Except PathError Path}

lemma which_eq_some_iff {name : Text} : w.which name = some t ↔
    w.isExecutable t ∧ ∃ before after, w.candidates name = before ++ t :: after ∧
      ∀ t' ∈ before, ¬ w.isExecutable t' := by
  rw [which, List.find?_eq_some_iff_append]
  simp

/-! ## The alternatives -/

/-- The wrapper is applicable: the settings allow it, and it is an executable file. -/
def TakesWrapper (w : World) (root : Path) (s : Settings) : Prop :=
  s.useWrapper ∧ w.isExecutable (root / .ofText wrapperName).toText

/-- The path that the settings name, with a leading tilde expanded. -/
def Names (w : World) (s : Settings) (configured : Path) : Prop :=
  w.expandHome (.ofText s.gradleExecutable) = .ok configured

/-- The applicable alternative has a file, found by a text, and this is what is returned for it. -/
inductive Offers (w : World) (root : Path) (s : Settings) : Text → Except PathError Path → Prop
  /-- The wrapper of the project, its links followed. -/
  | wrapper (h : w.TakesWrapper root s) :
      Offers w root s (root / .ofText wrapperName).toText (w.resolve (root / .ofText wrapperName))
  /-- The configured path as it stands, if it starts at the root. -/
  | configured {p : Path} (hwrapper : ¬ w.TakesWrapper root s) (hnames : w.Names s p)
      (habs : p.isAbsolute) (hfile : w.isFile p.toText = .ok true) :
      Offers w root s p.toText (.ok p)
  /-- The first executable file that the configured name means, its links followed. -/
  | found {p : Path} {before after : List Text} {t : Text} (hwrapper : ¬ w.TakesWrapper root s)
      (hnames : w.Names s p) (habs : ¬ p.isAbsolute)
      (hcandidates : w.candidates s.gradleExecutable = before ++ t :: after)
      (hbefore : ∀ t' ∈ before, ¬ w.isExecutable t') (hexecutable : w.isExecutable t) :
      Offers w root s t (w.resolve (.ofText t))

/-- A look-up that the search for the executable comes to is refused, with an error. -/
inductive Refused (w : World) (root : Path) (s : Settings) : Text → LocateError → Prop
  | wrapper {e : LocateError} (huse : s.useWrapper)
      (h : w.Refuses (root / .ofText wrapperName).toText e) :
      Refused w root s (root / .ofText wrapperName).toText e
  | configured {p : Path} {e : LocateError}
      (hasked : s.useWrapper → ∀ e, ¬ w.Refuses (root / .ofText wrapperName).toText e)
      (hwrapper : ¬ w.TakesWrapper root s) (hnames : w.Names s p) (habs : p.isAbsolute)
      (h : w.Refuses p.toText e) : Refused w root s p.toText e

/-- The failure to find what the settings name. -/
def notFound (s : Settings) (configured : Path) : ToolError :=
  if configured.isAbsolute then .absent configured else .notOnPath s.gradleExecutable

/-! ## What is offered -/

/-- What is offered has been found at a file. -/
lemma Offers.isFile (h : w.Offers root s t result) : w.isFile t = .ok true := by
  cases h with
  | wrapper h => exact isFile_of_isExecutable h.2
  | configured _ _ _ hfile => exact hfile
  | found _ _ _ _ _ hexecutable => exact isFile_of_isExecutable hexecutable

/-- What is offered in reach is a path, unless that is relative to a working directory that has been
removed; and it leads to the same file, unless the operating system refuses to look there. -/
lemma Offers.leads_on (hw : w.Ordinary) (h : w.Offers root s t result) (hreach : w.InReach t) :
    ((Path.ofText t).isAbsolute ∨ w.files.hasDirectory w.cwd → ∃ p, result = .ok p) ∧
      ∀ p, result = .ok p → w.files.Reaches w.cwd p → w.entry? p.toText = w.entry? t := by
  obtain ⟨data, executable, hentry⟩ := isFile_iff.mp h.isFile
  rw [hentry]
  cases h with
  | wrapper h => exact resolve_of_file hw hentry hreach rfl
  | @configured p _ _ _ _ =>
    refine ⟨fun _ => ⟨p, rfl⟩, fun q hq _ => ?_⟩
    obtain rfl := Except.ok.inj hq
    exact hentry
  | found _ _ _ _ _ _ =>
    exact resolve_of_file hw hentry hreach (Path.ofText_toText (Path.ofText_regular t))

/-- A path that is offered leads to the file that has been found, unless it or a link on the way is
out of reach. -/
lemma Offers.leads (hw : w.Ordinary) (h : w.Offers root s t (.ok p))
    (hreach : t = p.toText ∨ w.InReach t ∧ w.files.Reaches w.cwd p) :
    w.isFile p.toText = .ok true ∧ w.isExecutable p.toText = w.isExecutable t := by
  have hentry : w.entry? p.toText = w.entry? t := by
    obtain rfl | ⟨hreach, hthere⟩ := hreach
    · rfl
    · exact (h.leads_on hw hreach).2 p rfl hthere
  refine ⟨?_, by rw [isExecutable, isExecutable, hentry]⟩
  rw [isFile_iff, HasFile, hentry]
  exact isFile_iff.mp h.isFile

/-! ## The search for the executable -/

lemma buildExecutable_of_takesWrapper (h : w.TakesWrapper root s) :
    w.buildExecutable root s = (w.resolve (root / .ofText wrapperName)).mapError .path := by
  obtain ⟨huse, hexecutable⟩ := h
  have hfile := isFile_of_isExecutable hexecutable
  simp [buildExecutable, huse, hexecutable, hfile, Except.mapError, bind, Except.bind]

lemma buildExecutable_of_not_takesWrapper (h : ¬ w.TakesWrapper root s)
    (hasked : s.useWrapper → ∀ e, ¬ w.Refuses (root / .ofText wrapperName).toText e) :
    w.buildExecutable root s = w.configuredExecutable s := by
  by_cases huse : s.useWrapper
  · obtain ⟨answer, hfile⟩ := isFile_of_not_refuses (hasked huse)
    have hexecutable : ¬ w.isExecutable (root / .ofText wrapperName).toText :=
      fun hexecutable => h ⟨huse, hexecutable⟩
    simp [buildExecutable, huse, hexecutable, hfile, Except.mapError, bind, Except.bind]
  · simp [buildExecutable, huse]

/-- The configured executable is a path, or a name to be looked for. -/
lemma configuredExecutable_eq (hnames : w.Names s configured) :
    w.configuredExecutable s =
      if configured.isAbsolute then
        (w.isFile configured.toText).mapError .path >>= fun isFile =>
          if isFile then .ok configured else .error (.absent configured)
      else
        match w.which s.gradleExecutable with
        | some found => (w.resolve (.ofText found)).mapError .path
        | none => .error (.notOnPath s.gradleExecutable) := by
  unfold configuredExecutable
  rw [hnames]
  rfl

lemma configuredExecutable_of_error {e : PathError}
    (h : w.expandHome (.ofText s.gradleExecutable) = .error e) :
    w.configuredExecutable s = .error (.path e) := by
  unfold configuredExecutable
  rw [h]
  rfl

/-- What is offered is the result, unless a look-up is refused before. -/
lemma Offers.buildExecutable_eq (h : w.Offers root s t result)
    (hrefused : ∀ t e, ¬ w.Refused root s t e) :
    w.buildExecutable root s = result.mapError .path := by
  have hasked : s.useWrapper → ∀ e, ¬ w.Refuses (root / .ofText wrapperName).toText e :=
    fun huse e hrefuses => hrefused _ e (.wrapper huse hrefuses)
  cases h with
  | wrapper h => exact buildExecutable_of_takesWrapper h
  | configured hwrapper hnames habs hfile =>
    rw [buildExecutable_of_not_takesWrapper hwrapper hasked, configuredExecutable_eq hnames,
      if_pos habs, hfile]
    rfl
  | found hwrapper hnames habs hcandidates hbefore hexecutable =>
    have hwhich := which_eq_some_iff.mpr ⟨hexecutable, _, _, hcandidates, hbefore⟩
    rw [buildExecutable_of_not_takesWrapper hwrapper hasked, configuredExecutable_eq hnames,
      if_neg habs, hwhich]

/-- A look-up that is refused is the failure. -/
lemma Refused.buildExecutable_eq {e : LocateError} (h : w.Refused root s t e) :
    w.buildExecutable root s = .error (.path (.ofLocate t e)) := by
  cases h with
  | wrapper huse h =>
    simp [buildExecutable, huse, isFile_of_refuses h, Except.mapError, bind, Except.bind]
  | configured hasked hwrapper hnames habs h =>
    rw [buildExecutable_of_not_takesWrapper hwrapper hasked, configuredExecutable_eq hnames,
      if_pos habs, isFile_of_refuses h]
    rfl

/-- Where nothing is offered and no look-up is refused, what the settings name is not found. -/
lemma Names.buildExecutable_eq (h : w.Names s configured)
    (hoffers : ∀ t result, ¬ w.Offers root s t result) (hrefused : ∀ t e, ¬ w.Refused root s t e) :
    w.buildExecutable root s = .error (notFound s configured) := by
  have hwrapper : ¬ w.TakesWrapper root s := fun h => hoffers _ _ (.wrapper h)
  have hasked : s.useWrapper → ∀ e, ¬ w.Refuses (root / .ofText wrapperName).toText e :=
    fun huse e hrefuses => hrefused _ e (.wrapper huse hrefuses)
  rw [buildExecutable_of_not_takesWrapper hwrapper hasked, configuredExecutable_eq h, notFound]
  split
  · rename_i habs
    obtain ⟨answer, hanswer⟩ := isFile_of_not_refuses
      fun e hrefuses => hrefused _ e (.configured hasked hwrapper h habs hrefuses)
    cases answer with
    | true => exact absurd (.configured hwrapper h habs hanswer) (hoffers _ _)
    | false =>
      rw [hanswer]
      rfl
  · rename_i habs
    cases hwhich : w.which s.gradleExecutable with
    | none => rfl
    | some t =>
      obtain ⟨hexecutable, before, after, hcandidates, hbefore⟩ := which_eq_some_iff.mp hwhich
      exact absurd (.found hwrapper h habs hcandidates hbefore hexecutable) (hoffers _ _)

/-- The search ends at a path that cannot be used, or with what is offered, or without anything. -/
lemma buildExecutable_cases (w : World) (root : Path) (s : Settings) :
    (∃ cause, w.buildExecutable root s = .error (.path cause)) ∨
      (∃ t result, w.Offers root s t result ∧
        w.buildExecutable root s = result.mapError .path) ∨
      ((∀ t result, ¬ w.Offers root s t result) ∧ (∀ t e, ¬ w.Refused root s t e) ∧
        ∃ configured, w.Names s configured ∧
          w.buildExecutable root s = .error (notFound s configured)) := by
  by_cases hany : ∃ t e, w.Refused root s t e
  · obtain ⟨t, e, h⟩ := hany
    exact .inl ⟨_, h.buildExecutable_eq⟩
  have hrefused : ∀ t e, ¬ w.Refused root s t e := fun t e h => hany ⟨t, e, h⟩
  by_cases hoffers : ∃ t result, w.Offers root s t result
  · obtain ⟨t, result, h⟩ := hoffers
    exact .inr (.inl ⟨t, result, h, h.buildExecutable_eq hrefused⟩)
  have hnothing : ∀ t result, ¬ w.Offers root s t result :=
    fun t result h => hoffers ⟨t, result, h⟩
  cases hexpand : w.expandHome (.ofText s.gradleExecutable) with
  | ok configured =>
    have hnames : w.Names s configured := hexpand
    exact .inr (.inr ⟨hnothing, hrefused, configured, hnames,
      hnames.buildExecutable_eq hnothing hrefused⟩)
  | error e =>
    have hwrapper : ¬ w.TakesWrapper root s := fun h => hnothing _ _ (.wrapper h)
    have heq := buildExecutable_of_not_takesWrapper hwrapper
      fun huse e hrefuses => hrefused _ e (.wrapper huse hrefuses)
    exact .inl ⟨e, heq.trans (configuredExecutable_of_error hexpand)⟩

/-- The search for the executable comes to what the applicable alternative offers. -/
theorem buildExecutable_offered (w : World) (hw : w.Ordinary) (root : Path) (s : Settings) :
    -- What is returned starts at the root, is offered, and leads to the file that has been found.
    (∀ p, w.buildExecutable root s = .ok p → p.isAbsolute ∧ ∃ t, w.Offers root s t (.ok p) ∧
      (t = p.toText ∨ w.InReach t ∧ w.files.Reaches w.cwd p →
        w.isFile p.toText = .ok true ∧ w.isExecutable p.toText = w.isExecutable t)) ∧
    -- What is offered is returned, if it is in reach and the working directory is still there.
    (∀ t result, w.Offers root s t result → (∀ t' e, ¬ w.Refused root s t' e) →
      w.buildExecutable root s = result.mapError .path ∧
        (w.InReach t → (Path.ofText t).isAbsolute ∨ w.files.hasDirectory w.cwd →
          ∃ p, result = .ok p)) ∧
    -- Nothing is found exactly where nothing is offered and no look-up is refused.
    (∀ configured, w.Names s configured → ∀ e, (∀ cause, e ≠ .path cause) →
      (w.buildExecutable root s = .error e ↔ e = notFound s configured ∧
        (∀ t result, ¬ w.Offers root s t result) ∧ ∀ t e, ¬ w.Refused root s t e)) ∧
    -- A look-up that is refused is the failure, with its error.
    ∀ t e, w.Refused root s t e →
      w.buildExecutable root s = .error (.path (.ofLocate t e)) := by
  have hends := w.buildExecutable_cases root s
  refine ⟨fun p h => ⟨(buildExecutable_regular h).2, ?_⟩, fun t result hoffers hrefused => ?_,
    fun configured hnames e he => ⟨fun h => ?_, ?_⟩, fun t e h => h.buildExecutable_eq⟩
  · obtain ⟨cause, hends⟩ | ⟨t, result, hoffers, hends⟩ | ⟨-, -, _, -, hends⟩ := hends
    · cases hends.symm.trans h
    · obtain rfl := Except.ok_of_mapError (hends.symm.trans h)
      exact ⟨t, hoffers, hoffers.leads hw⟩
    · cases hends.symm.trans h
  · exact ⟨hoffers.buildExecutable_eq hrefused, fun hreach => (hoffers.leads_on hw hreach).1⟩
  · obtain ⟨cause, hends⟩ | ⟨t, result, -, hends⟩ | ⟨hnothing, hrefused, -⟩ := hends
    · cases hends.symm.trans h
      exact absurd rfl (he cause)
    · rw [hends] at h
      cases result with
      | ok p => cases h
      | error cause =>
        cases h
        exact absurd rfl (he cause)
    · cases (hnames.buildExecutable_eq hnothing hrefused).symm.trans h
      exact ⟨rfl, hnothing, hrefused⟩
  · rintro ⟨rfl, hnothing, hrefused⟩
    exact hnames.buildExecutable_eq hnothing hrefused

/-- A wrapper that is a link is found from the directory of the project, and what is returned is the
file that the link leads to. -/
theorem wrapper_through_link :
    let tree : FileTree := .directory [("p", .directory [("gradlew", .link "tools/w"),
      ("tools", .directory [("w", .file [] true)])])]
    let w : World := { files := { root := tree }, cwd := ["p"], environment := [] }
    let root : Path := ⟨.relative, []⟩
    let target : Path := ⟨.root, ["p", "tools", "w"]⟩
    w.Ordinary ∧ w.InReach "gradlew" ∧ w.buildExecutable root {} = .ok target ∧
      target.isAbsolute ∧ w.isFile target.toText = .ok true ∧
        w.isExecutable target.toText = w.isExecutable "gradlew" := by
  intro tree w root target
  have hw : w.Ordinary := ⟨by decide, by decide, by decide⟩
  have hreach : w.InReach "gradlew" := by
    intro met q h
    have hgoes : w.files.Goes w.cwd (.ofText "gradlew") (Path.partsOf "gradlew")
        [⟨.relative, ["gradlew"]⟩] _ :=
      .link (by decide) rfl (.name (by decide) rfl (.name (by decide) rfl .done))
    rw [← (hgoes.unique h).1]
    decide
  have htakes : w.TakesWrapper root {} := ⟨rfl, by cbv⟩
  have hresolve : w.resolve (root / .ofText wrapperName) = .ok target := by cbv
  obtain ⟨hreturned, hoffered, -, -⟩ := buildExecutable_offered w hw root {}
  have hfile := isFile_of_isExecutable htakes.2
  obtain ⟨hbuild, -⟩ := hoffered _ _ (.wrapper htakes) fun t e hrefused => by
    cases hrefused with
    | wrapper _ h => cases hfile.symm.trans (isFile_of_refuses h)
    | configured _ hwrapper _ _ _ => exact hwrapper htakes
  rw [hresolve] at hbuild
  obtain ⟨habs, t, hoffers, hleads⟩ := hreturned target hbuild
  generalize Except.ok target = result at hoffers
  cases hoffers with
  | wrapper _ => exact ⟨hw, hreach, hbuild, habs, hleads (.inr ⟨hreach, by decide⟩)⟩
  | configured hwrapper _ _ _ => exact absurd htakes hwrapper
  | found hwrapper _ _ _ _ _ => exact absurd htakes hwrapper

set_option maxRecDepth 20000 in
/-- A configured path that is too long leads to no file, and still that is not what is said.  And a
link that is met by a path too long, behind many steps up, is not followed again: the wrapper behind
it is found, and what is returned for it leads nowhere. -/
theorem executable_out_of_reach :
    (let w : World := { files := {}, cwd := [], environment := [] }
      let s : Settings := { useWrapper := false, gradleExecutable := '/' :: List.replicate 256 'a' }
      let configured : Path := .ofText s.gradleExecutable
      w.Names s configured ∧ (∀ t result, ¬ w.Offers ⟨.root, []⟩ s t result) ∧
        ∃ cause, w.buildExecutable ⟨.root, []⟩ s = .error (.path cause)) ∧
      let name : Text := List.replicate 85 '€'
      let bottom : FileTree := .directory [("m", .link "d/e"),
        ("d", .directory [("e", .directory []), ("gradlew", .file [] true)])]
      let tree : FileTree := .directory [("k", .link (Text.join ['/'] (List.replicate 15 name))),
        (name, .alone bottom (List.replicate 14 name))]
      let w : World := { files := { root := tree }, cwd := [], environment := [] }
      let root : Path := ⟨.relative, List.replicate 91 ['.', '.'] ++ [['k'], ['m'], ['.', '.']]⟩
      w.TakesWrapper root {} ∧ ∃ p, w.buildExecutable root {} = .ok p ∧
        w.isFile p.toText = .ok false := by
  constructor
  · intro w s configured
    have hnames : w.Names s configured := by cbv
    have hlong : w.Refuses configured.toText .nameTooLong := ⟨by cbv, rfl⟩
    have habs : configured.isAbsolute := by cbv
    have hrefused : w.Refused ⟨.root, []⟩ s configured.toText .nameTooLong :=
      .configured (fun h => by cases h) (fun h => by cases h.1) hnames habs hlong
    refine ⟨hnames, fun t result h => ?_, _, hrefused.buildExecutable_eq⟩
    have hfile := h.isFile
    cases h with
    | wrapper h => cases h.1
    | configured _ hnames' _ _ =>
      obtain rfl := Except.ok.inj (hnames.symm.trans hnames')
      cases hfile.symm.trans (isFile_of_refuses hlong)
    | found _ hnames' habs' _ _ _ =>
      obtain rfl := Except.ok.inj (hnames.symm.trans hnames')
      exact habs' habs
  · intro name bottom tree w root
    have htakes : w.TakesWrapper root {} := ⟨rfl, by cbv⟩
    have hresolve : w.resolve (root / .ofText wrapperName) =
        .ok ⟨.root, List.replicate 15 name ++ [wrapperName]⟩ := by cbv
    refine ⟨htakes, ⟨.root, List.replicate 15 name ++ [wrapperName]⟩, ?_, by cbv⟩
    rw [buildExecutable_of_takesWrapper htakes, hresolve]
    rfl

end World
end GradleLint
