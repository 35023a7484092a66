import GradleLint.Settings.Basic
import Mathlib.Tactic.Common

/-!
# What settings are read from

Reading settings looks up a fixed list of names.  Each of them except `output` stands for a
scalar or a list, so a table under it is refused for being a table, whatever it holds.  Hence two
tables give the same settings, or the same issues, if they agree on these names up to the content
of such misplaced tables (`Settings.ofTable_congr`).
-/

namespace GradleLint

/-- The names of the settings, and those of the output settings. -/
def settingNames : List Text := (Settings.toTable {}).names

def outputNames : List Text := (OutputSettings.toTable {}).names

/-- Two data under one name are the same, or are both tables. -/
inductive Alike : Option Value → Option Value → Prop where
  | same (v : Option Value) : Alike v v
  | tables (s t : Table) : Alike (some (.table s)) (some (.table t))

/-- A reader that treats all tables in the same way. -/
def BlindToTables {α : Type} (read : Value → Validated α) : Prop :=
  ∀ s t : Table, read (.table s) = read (.table t)

lemma blind_readBool : BlindToTables Value.readBool := fun _ _ => rfl

lemma blind_readText : BlindToTables Value.readText := fun _ _ => rfl

lemma blind_readTexts : BlindToTables Value.readTexts := fun _ _ => rfl

lemma blind_readOption {α : Type} {read : Value → Validated α} (h : BlindToTables read) :
    BlindToTables (Value.readOption read) := fun s t => by
  show (read (.table s)).map some = (read (.table t)).map some
  rw [h s t]

namespace Table

variable {α : Type} {t u : Table} {name : Text} {read : Value → Validated α}

lemma fieldOr_congr (h : (t.get? name).map read = (u.get? name).map read) (fallback : α) :
    t.fieldOr name fallback read = u.fieldOr name fallback read := by
  unfold fieldOr
  cases ht : t.get? name <;> cases hu : u.get? name <;> simp_all

lemma fieldOr_of_alike (h : Alike (t.get? name) (u.get? name)) (hread : BlindToTables read)
    (fallback : α) : t.fieldOr name fallback read = u.fieldOr name fallback read := by
  apply fieldOr_congr
  generalize t.get? name = v at h
  generalize u.get? name = w at h
  cases h with
  | same v => rfl
  | tables s t => rw [Option.map_some, Option.map_some, hread s t]

end Table

/-- Output settings are read from their names alone. -/
lemma OutputSettings.ofTable_congr {t u : Table}
    (h : ∀ name ∈ outputNames, Alike (t.get? name) (u.get? name)) :
    OutputSettings.ofTable t = OutputSettings.ofTable u := by
  have hbool : ∀ name ∈ outputNames, ∀ fallback,
      t.fieldOr name fallback Value.readBool = u.fieldOr name fallback Value.readBool :=
    fun name hmem => Table.fieldOr_of_alike (h name hmem) blind_readBool
  unfold OutputSettings.ofTable
  rw [hbool "emoji" (by decide), hbool "color" (by decide), hbool "verbose" (by decide)]

/-- Settings are read from their names alone. -/
lemma Settings.ofTable_congr {t u : Table}
    (h : ∀ name ∈ settingNames, name ≠ "output" → Alike (t.get? name) (u.get? name))
    (hout : (t.get? "output").map OutputSettings.read =
      (u.get? "output").map OutputSettings.read) :
    Settings.ofTable t = Settings.ofTable u := by
  have hplain : ∀ (name : Text), name ∈ settingNames → name ≠ "output" →
      ∀ {α : Type} {read : Value → Validated α}, BlindToTables read → ∀ fallback,
      t.fieldOr name fallback read = u.fieldOr name fallback read :=
    fun name hmem hne _ _ hread => Table.fieldOr_of_alike (h name hmem hne) hread
  have htext := blind_readText
  have hbool := blind_readBool
  have htexts := blind_readTexts
  have hoption := blind_readOption htext
  unfold Settings.ofTable
  simp only [
    hplain "gradle_executable" (by decide) (by decide) htext,
    hplain "use_wrapper" (by decide) (by decide) hbool,
    hplain "quiet" (by decide) (by decide) hbool,
    hplain "plain_console" (by decide) (by decide) hbool,
    hplain "extra_flags" (by decide) (by decide) htexts,
    hplain "kotlin_task" (by decide) (by decide) hoption,
    hplain "java_task" (by decide) (by decide) hoption,
    hplain "clean_when_clean" (by decide) (by decide) hbool,
    hplain "root_markers" (by decide) (by decide) htexts,
    hplain "fallback_markers" (by decide) (by decide) htexts,
    Table.fieldOr_congr hout]

end GradleLint
