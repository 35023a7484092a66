import GradleLint.Build.Launch
import GradleLint.Project.Executable
import GradleLint.Proofs.World.Spelling

/-!
# The build executable that is found

A build executable is the wrapper of the project (`World.cases_of_buildExecutable`), or else the
path that the settings name, or what the search path finds under that name
(`World.cases_of_configuredExecutable`).  Each of them gives a regular path that starts at the
root, so a command that begins with it asks nothing of the search path any more
(`World.normalizeCommand_of_regular`).
-/

namespace GradleLint
namespace World

variable {w : World} {root executable : Path} {s : Settings}

lemma cases_of_configuredExecutable (h : w.configuredExecutable s = .ok executable) :
    (w.expandHome (.ofText s.gradleExecutable) = .ok executable ∧ executable.isAbsolute) ∨
      ∃ found, w.which s.gradleExecutable = some found ∧
        w.resolve (.ofText found) = .ok executable := by
  obtain ⟨configured, hexpand, h⟩ := Except.ok_of_bind h
  split at h
  · rename_i habs
    obtain ⟨isFile, -, h⟩ := Except.ok_of_bind h
    split at h
    · obtain rfl := Except.ok.inj h
      exact .inl ⟨Except.ok_of_mapError hexpand, habs⟩
    · cases h
  · split at h
    · rename_i found hfound
      exact .inr ⟨found, hfound, Except.ok_of_mapError h⟩
    · cases h

lemma cases_of_buildExecutable (h : w.buildExecutable root s = .ok executable) :
    w.resolve (root / .ofText wrapperName) = .ok executable ∨
      w.configuredExecutable s = .ok executable := by
  unfold buildExecutable at h
  dsimp only at h
  split at h
  · obtain ⟨isFile, -, h⟩ := Except.ok_of_bind h
    split at h
    · split at h
      · exact .inl (Except.ok_of_mapError h)
      · exact .inr h
    · exact .inr h
  · exact .inr h

/-- A build executable is a regular path that starts at the root. -/
theorem buildExecutable_regular (h : w.buildExecutable root s = .ok executable) :
    executable.Regular ∧ executable.isAbsolute := by
  obtain h | h := cases_of_buildExecutable h
  · exact resolve_regular h
  · obtain ⟨h, habs⟩ | ⟨found, -, h⟩ := cases_of_configuredExecutable h
    · exact ⟨expandHome_regular (Path.ofText_regular _) h, habs⟩
    · exact resolve_regular h

/-- A command whose program is written as a regular path from the root stays as it is, whatever the
search path. -/
theorem normalizeCommand_of_regular (w : World) {program : Path} (h : program.Regular)
    (habs : program.isAbsolute) (rest : List Text) :
    w.normalizeCommand (program.toText :: rest) = .ok (program.toText :: rest) := by
  simp only [normalizeCommand, Path.ofText_toText h, habs, if_true]

end World
end GradleLint
