import GradleLint.Proofs.Project.Nearest
import GradleLint.Proofs.Settings.Failures
import GradleLint.Proofs.World.Contents

/-!
# Which settings locate a project

The settings that locate a project are those of the deepest directory that carries any, from the
directory of the file upwards (`World.discoverRoot_nearest`).  No settings are passed over on the
way there, as a directory that is not said to carry settings would give the default ones
(`World.loadSettings_of_not_hasSettings`).

What is above that directory has no say in it.  All files of the world may have other contents,
except those in which the settings of this directory and of the ones passed over are looked for, and
the same settings locate the same root.
-/

namespace GradleLint
namespace World

variable {w : World} {file start dir root : Path} {s : Settings}

/-! ## The settings of one directory -/

/-- A directory carries settings of its own. -/
def HasSettings (w : World) (dir : Path) : Prop := w.hasSettings dir = .ok true

/-- A directory that carries no settings gives the default ones. -/
lemma loadSettings_of_not_hasSettings (h : w.hasSettings dir = .ok false) :
    w.loadSettings dir [] = .ok {} := by
  obtain ⟨r, hr⟩ | ⟨e, he⟩ := w.tells_or_breaks dir
  · have htells := (hasSettings_of_tells hr).symm.trans h
    cases hr with
    | own hdata => cases htells
    | @project t hown hproject =>
      have hempty : t.settingsSection = [] := by
        simpa using Except.ok.inj htells
      refine loadSettings_of_answers (.settings hproject (.absent hown) ?_)
      rw [hempty]
      rfl
    | spoilt hown h => cases htells
  · cases (hasSettings_of_breaks he).symm.trans h

/-- The settings of a directory, if it carries any. -/
def settingsIn (w : World) (dir : Path) : Except RootError (Option Settings) := do
  if ← (w.hasSettings dir).mapError .settings then
    return some (← (w.loadSettings dir []).mapError .settings)
  else return none

lemma settingsIn_eq_none_iff : w.settingsIn dir = .ok none ↔ w.hasSettings dir = .ok false := by
  unfold settingsIn
  cases w.hasSettings dir with
  | error e => exact iff_of_false nofun nofun
  | ok carries =>
    cases carries with
    | false => exact iff_of_true rfl rfl
    | true => cases w.loadSettings dir [] <;> exact iff_of_false nofun nofun

lemma settingsIn_eq_some_iff :
    w.settingsIn dir = .ok (some s) ↔ w.HasSettings dir ∧ w.loadSettings dir [] = .ok s := by
  unfold settingsIn HasSettings
  cases w.hasSettings dir with
  | error e => exact iff_of_false nofun (fun h => nomatch h.1)
  | ok carries =>
    cases carries with
    | false => exact iff_of_false nofun (fun h => nomatch h.1)
    | true =>
      rw [and_iff_right rfl]
      cases w.loadSettings dir [] with
      | error e => exact iff_of_false nofun nofun
      | ok s' => simp [Except.mapError, bind, Except.bind, pure, Except.pure]

/-! ## What is asked of other contents -/

/-- The settings of a directory are looked for in a file that stands at a place and holds some
data. -/
def SettingsAt (w : World) (dir : Path) (place : Place) (data : Bytes) : Prop :=
  ∃ name ∈ [settingsFileName, projectFileName], ∃ executable,
    w.files.locate w.cwd (dir / .ofText name).toText = .ok (place, .file data executable)

variable {change : Place → Bytes → Bytes}

/-- A directory has the same settings as long as the files in which they are looked for are the
same. -/
lemma settings_rewrite
    (h : ∀ place data, w.SettingsAt dir place data → change place data = data) :
    (w.rewrite change).hasSettings dir = w.hasSettings dir ∧
      (w.rewrite change).loadSettings dir [] = w.loadSettings dir [] := by
  have hread : ∀ name ∈ [settingsFileName, projectFileName],
      (w.rewrite change).readToml (dir / .ofText name) = w.readToml (dir / .ofText name) :=
    fun name hname => readToml_rewrite fun place data executable hlocate =>
      h place data ⟨name, hname, executable, hlocate⟩
  have hown := hread settingsFileName (by simp)
  have hproject : (w.rewrite change).projectSection dir = w.projectSection dir :=
    congrArg _ (hread projectFileName (by simp))
  constructor
  · rw [hasSettings, hasSettings, isFile_rewrite, hproject]
  · rw [loadSettings, loadSettings, hproject, hown]

lemma rootAt_rewrite (markers : List Text) (dir : Path) :
    (w.rewrite change).rootAt markers dir = w.rootAt markers dir := by
  have hmarker : (w.rewrite change).hasMarker dir markers = w.hasMarker dir markers := by
    induction markers with
    | nil => rfl
    | cons m markers ih => rw [hasMarker, hasMarker, occupied_rewrite, ih]
  rw [rootAt, rootAt, hmarker]

lemma startDirectory_rewrite (file : Path) :
    (w.rewrite change).startDirectory file = w.startDirectory file := by
  unfold startDirectory
  simp only [isDirectory_rewrite]
  rfl

/-- The root does not depend on the contents of files. -/
lemma findRoot_rewrite (hstart : w.startDirectory file = .ok start) (hsettled : w.Settled start)
    (s : Settings) : (w.rewrite change).findRoot file s = w.findRoot file s := by
  have hnearest : ∀ markers, (w.rewrite change).nearestWith start markers =
      w.nearestWith start markers := by
    intro markers
    rw [hsettled.nearestWith_eq, hsettled.rewrite.nearestWith_eq]
    exact congrArg (List.findSomeM? · _) (funext (rootAt_rewrite markers))
  unfold findRoot
  rw [startDirectory_rewrite, hstart]
  simp only [bind, Except.bind, hnearest]

/-! ## The search -/

lemma Settled.nearestSettings_eq (h : w.Settled start) :
    w.nearestSettings start = start.selfAndAncestors.findSomeM? w.settingsIn :=
  h.searchUp_eq RootError.path w.settingsIn

lemma discoverRoot_eq_ok_iff (hstart : w.startDirectory file = .ok start) :
    w.discoverRoot file = .ok (root, s) ↔ ∃ found, w.nearestSettings start = .ok found ∧
      s = found.getD {} ∧ w.findRoot file s = .ok (some root) := by
  constructor
  · intro h
    obtain ⟨start', hstart', h⟩ := Except.ok_of_bind h
    obtain rfl := Except.ok.inj (hstart.symm.trans (Except.ok_of_mapError hstart'))
    obtain ⟨found, hfound, h⟩ := Except.ok_of_bind h
    obtain ⟨root', hroot, h⟩ := Except.ok_of_bind h
    cases h
    exact ⟨found, hfound, rfl, requireRoot_eq_ok_iff.mp hroot⟩
  · rintro ⟨found, hfound, rfl, hroot⟩
    unfold discoverRoot
    rw [hstart]
    simp only [Except.mapError, bind, Except.bind, hfound, requireRoot_eq_ok_iff.mpr hroot]
    rfl

/-- The settings that are found are those of the deepest directory that carries any, and none of
the directories below it does. -/
lemma Settled.nearestSettings_eq_some_iff (h : w.Settled start) :
    w.nearestSettings start = .ok (some s) ↔ ∃ dir, Path.Deepest w.HasSettings start dir ∧
      w.loadSettings dir [] = .ok s ∧
      ∀ e ∈ start.selfAndAncestors, e ∉ dir.selfAndAncestors → w.hasSettings e = .ok false := by
  rw [h.nearestSettings_eq, Path.findSomeM?_selfAndAncestors (by simp)]
  constructor
  · rintro ⟨dir, hdeepest, hdir⟩
    obtain ⟨hcarries, hload⟩ := settingsIn_eq_some_iff.mp hdir
    refine ⟨dir, ⟨hdeepest.mem, hcarries, fun e he hhas => ?_⟩, hload, fun e he habove => ?_⟩
    · refine hdeepest.above e he fun hnone => ?_
      cases (settingsIn_eq_none_iff.mp hnone).symm.trans hhas
    · by_contra hcarries
      exact habove (hdeepest.above e he fun hnone => hcarries (settingsIn_eq_none_iff.mp hnone))
  · rintro ⟨dir, hdeepest, hload, hnone⟩
    have hdir := settingsIn_eq_some_iff.mpr ⟨hdeepest.holds, hload⟩
    refine ⟨dir, ⟨hdeepest.mem, by simp [hdir], fun e he hsome => ?_⟩, hdir⟩
    by_contra habove
    exact hsome (settingsIn_eq_none_iff.mpr (hnone e he habove))

lemma Settled.nearestSettings_eq_none_iff (h : w.Settled start) :
    w.nearestSettings start = .ok none ↔
      ∀ e ∈ start.selfAndAncestors, w.hasSettings e = .ok false := by
  rw [h.nearestSettings_eq, findSomeM?_eq_ok_none_iff]
  exact forall₂_congr fun e he => settingsIn_eq_none_iff

/-- Settings are found in the same directory as long as the files up to it are the same. -/
lemma Settled.nearestSettings_rewrite (h : w.Settled start)
    (hdeepest : Path.Deepest w.HasSettings start dir) (hload : w.loadSettings dir [] = .ok s)
    (hnone : ∀ e ∈ start.selfAndAncestors, e ∉ dir.selfAndAncestors → w.hasSettings e = .ok false)
    (hchange : ∀ e ∈ start.selfAndAncestors, dir ∈ e.selfAndAncestors →
      ∀ place data, w.SettingsAt e place data → change place data = data) :
    (w.rewrite change).nearestSettings start = .ok (some s) := by
  have hsame := settings_rewrite (hchange dir hdeepest.mem dir.mem_selfAndAncestors_self)
  have hbelow : ∀ e ∈ start.selfAndAncestors, e ∉ dir.selfAndAncestors →
      (w.rewrite change).hasSettings e = .ok false := by
    intro e he habove
    have hmem := (Path.above_or_above he hdeepest.mem).resolve_left habove
    rw [(settings_rewrite (hchange e he hmem)).1]
    exact hnone e he habove
  refine h.rewrite.nearestSettings_eq_some_iff.mpr
    ⟨dir, ⟨hdeepest.mem, hsame.1.trans hdeepest.holds, fun e he hhas => ?_⟩,
      hsame.2.trans hload, hbelow⟩
  by_contra habove
  cases (hbelow e he habove).symm.trans hhas

/-! ## The result -/

/-- The settings that locate a root are those of the deepest directory that carries any, or the
default ones if none does, and each directory passed over would give the default ones.  The root is
the one that is found with these settings.  Whatever else is in the files of the world, as long as
the settings that are looked for up to that directory are the same, nothing changes. -/
theorem discoverRoot_nearest (hstart : w.startDirectory file = .ok start)
    (hsettled : w.Settled start) (hdiscover : w.discoverRoot file = .ok (root, s)) :
    w.findRoot file s = .ok (some root) ∧
    ((s = {} ∧ ∀ e ∈ start.selfAndAncestors, ¬ w.HasSettings e ∧ w.loadSettings e [] = .ok {}) ∨
      ∃ dir, Path.Deepest w.HasSettings start dir ∧ w.loadSettings dir [] = .ok s ∧
        (∀ e ∈ start.selfAndAncestors, e ∉ dir.selfAndAncestors → w.loadSettings e [] = .ok {}) ∧
        ∀ change : Place → Bytes → Bytes,
          (∀ e ∈ start.selfAndAncestors, dir ∈ e.selfAndAncestors →
            ∀ place data, w.SettingsAt e place data → change place data = data) →
          (w.rewrite change).discoverRoot file = .ok (root, s)) := by
  obtain ⟨found, hfound, hs, hroot⟩ := (discoverRoot_eq_ok_iff hstart).mp hdiscover
  refine ⟨hroot, ?_⟩
  cases found with
  | none =>
    refine .inl ⟨hs, fun e he => ?_⟩
    have hnone := hsettled.nearestSettings_eq_none_iff.mp hfound e he
    refine ⟨fun hhas => ?_, loadSettings_of_not_hasSettings hnone⟩
    cases hnone.symm.trans hhas
  | some s' =>
    obtain rfl : s = s' := hs
    obtain ⟨dir, hdeepest, hload, hnone⟩ := hsettled.nearestSettings_eq_some_iff.mp hfound
    refine .inr ⟨dir, hdeepest, hload,
      fun e he habove => loadSettings_of_not_hasSettings (hnone e he habove),
      fun change hchange => ?_⟩
    refine (discoverRoot_eq_ok_iff ((startDirectory_rewrite file).trans hstart)).mpr
      ⟨some s, hsettled.nearestSettings_rewrite hdeepest hload hnone hchange, rfl, ?_⟩
    exact (findRoot_rewrite hstart hsettled s).trans hroot

/-- A project with some settings and a part of it with others. -/
def layeredProject (settings : Text) : World :=
  { files := .ofEntries [
      (["p", "settings.gradle"], .file [] false),
      (["p", ".buildlint.toml"], .file (Utf8.encode settings) false),
      (["p", "sub", ".buildlint.toml"], .file (Utf8.encode "quiet = false\n") false),
      (["p", "sub", "src", "A.kt"], .file [] false)]
    cwd := [], environment := [], cwd_slashFree := Place.slashFree_nil }

/-- Makes the settings file of a project no TOML document. -/
def spoil (place : Place) (data : Bytes) : Bytes :=
  if place = ["p", ".buildlint.toml"] then Utf8.encode "quiet\n" else data

/-- The settings of a part of a project locate it even if those of the project are spoilt. -/
theorem root_below_spoilt_settings :
    (layeredProject "quiet = true\n").rewrite spoil = layeredProject "quiet\n" ∧
    (layeredProject "quiet\n").loadSettings (.ofText "/p") [] =
      .error (.malformed (.ofText "/p/.buildlint.toml")) ∧
    (layeredProject "quiet\n").discoverRoot (.ofText "/p/sub/src/A.kt") =
      .ok (.ofText "/p", { quiet := false }) := by
  let w := layeredProject "quiet = true\n"
  have hspoilt : w.rewrite spoil = layeredProject "quiet\n" := rfl
  have hstart : w.startDirectory (.ofText "/p/sub/src/A.kt") = .ok (.ofText "/p/sub/src") := by cbv
  have hresolved : w.Resolved (.ofText "/p/sub/src") := by decide
  have hdiscover : w.discoverRoot (.ofText "/p/sub/src/A.kt") =
      .ok (.ofText "/p", { quiet := false }) := by cbv
  refine ⟨hspoilt, by cbv, ?_⟩
  obtain ⟨hdefault, -⟩ | ⟨dir, hdeepest, -, -, hchange⟩ :=
    (discoverRoot_nearest hstart hresolved.settled hdiscover).2
  · exact absurd hdefault (by decide)
  · have hsub : .ofText "/p/sub" ∈ dir.selfAndAncestors :=
      hdeepest.above _ (by decide) (by unfold HasSettings; cbv)
    have hbelow : ∀ e ∈ (Path.ofText "/p/sub/src").selfAndAncestors,
        .ofText "/p/sub" ∈ e.selfAndAncestors →
          e ∈ [Path.ofText "/p/sub/src", .ofText "/p/sub"] := by decide
    rw [← hspoilt]
    refine hchange spoil fun e he hdir place data hat => if_neg ?_
    rintro rfl
    obtain ⟨name, hname, x, hlocate⟩ := hat
    -- Up to the part of the project no path leads to the settings file of the project.
    replace he := hbelow e he (Path.mem_selfAndAncestors_trans hdir hsub)
    fin_cases he <;> fin_cases hname <;> cbv at hlocate
    all_goals simp at hlocate

/-- A part of a project whose settings file is a link to that of the project. -/
def linkedSettings (settings : Text) : World :=
  { files := .ofEntries [
      (["p", "build.gradle"], .file [] false),
      (["p", ".buildlint.toml"], .file (Utf8.encode settings) false),
      (["p", "sub", ".buildlint.toml"], .link "../.buildlint.toml"),
      (["p", "sub", "A.kt"], .file [] false)]
    cwd := [], environment := [], cwd_slashFree := Place.slashFree_nil }

/-- Where the settings of a part of a project are those of the project through a link, they are
spoilt together. -/
theorem root_lost_through_link :
    (linkedSettings "quiet = false\n").startDirectory (.ofText "/p/sub/A.kt") =
      .ok (.ofText "/p/sub") ∧
    (linkedSettings "quiet = false\n").Resolved (.ofText "/p/sub") ∧
    Path.Deepest (linkedSettings "quiet = false\n").HasSettings (.ofText "/p/sub")
      (.ofText "/p/sub") ∧
    (linkedSettings "quiet = false\n").discoverRoot (.ofText "/p/sub/A.kt") =
      .ok (.ofText "/p", { quiet := false }) ∧
    (linkedSettings "quiet = false\n").rewrite spoil = linkedSettings "quiet\n" ∧
    (linkedSettings "quiet\n").discoverRoot (.ofText "/p/sub/A.kt") =
      .error (.settings (.malformed (.ofText "/p/sub/.buildlint.toml"))) := by
  refine ⟨by cbv, by decide, ⟨by decide, ?_, fun _ he _ => he⟩, by cbv, rfl, by cbv⟩
  unfold HasSettings
  cbv

end World
end GradleLint
