import GradleLint.World.Environment
import Mathlib.Tactic.Lemma

/-!
# Questions about a path

Looking a path up has one of three ends (`World.Looked`): the operating system refuses to look, or
something is there, or nothing is.  The first is a failure of every question that is asked about the
path, and the only one; the answers to all other questions are read off what is there.

A file that is there has contents, but it may still be forbidden to open it.  `World.Holds` says
that the bytes of a file can be read.
-/

namespace GradleLint
namespace World

variable {w : World} {t : Text} {e e' : LocateError} {file : Path} {data : Bytes}

/-- The operating system refuses to look a path up, with an error. -/
def Refuses (w : World) (t : Text) (e : LocateError) : Prop :=
  w.entry? t = .error e ∧ e.isRefusal

/-- A path leads to a file. -/
def HasFile (w : World) (t : Text) : Prop :=
  ∃ data executable, w.entry? t = .ok (.file data executable)

lemma Refuses.unique (h : w.Refuses t e) (h' : w.Refuses t e') : e = e' :=
  Except.error.inj (h.1.symm.trans h'.1)

lemma Refuses.not_hasFile (h : w.Refuses t e) : ¬ w.HasFile t := by
  rintro ⟨data, executable, hfile⟩
  cases h.1.symm.trans hfile

/-! ## What is asked -/

/-- What looking a path up comes to. -/
inductive Looked (w : World) (t : Text) : Except PathError (Option Entry) → Prop
  | refused {e : LocateError} (h : w.Refuses t e) : Looked w t (.error (.ofLocate t e))
  | there {entry : Entry} (h : w.entry? t = .ok entry) : Looked w t (.ok (some entry))
  | nowhere (h : ∀ e, ¬ w.Refuses t e) (hnothing : ∀ entry, w.entry? t ≠ .ok entry) :
      Looked w t (.ok none)

lemma looked (w : World) (t : Text) : w.Looked t (w.find t) := by
  unfold find
  cases hentry : w.entry? t with
  | ok entry => exact .there hentry
  | error e =>
    dsimp only
    split
    · rename_i hrefusal
      exact .refused ⟨hentry, hrefusal⟩
    · rename_i hrefusal
      refine .nowhere (fun e' h => ?_) fun entry h => ?_
      · cases hentry.symm.trans h.1
        exact hrefusal h.2
      · cases hentry.symm.trans h

lemma find_of_refuses (h : w.Refuses t e) : w.find t = .error (.ofLocate t e) := by
  unfold find
  rw [h.1]
  exact if_pos h.2

lemma isFile_of_refuses (h : w.Refuses t e) : w.isFile t = .error (.ofLocate t e) := by
  rw [isFile, find_of_refuses h]
  rfl

lemma isFile_iff : w.isFile t = .ok true ↔ w.HasFile t := by
  have h := w.looked t
  unfold isFile HasFile
  generalize w.find t = found at h
  cases h with
  | refused h => simp [Except.map, h.1]
  | @there entry h => cases entry <;> simp [Except.map, h]
  | nowhere _ h => simp [Except.map, h]

/-- Unless the look-up is refused, a path leads to a file or it does not. -/
lemma isFile_of_not_refuses (h : ∀ e, ¬ w.Refuses t e) : ∃ answer, w.isFile t = .ok answer := by
  have hlooked := w.looked t
  unfold isFile
  generalize w.find t = found at hlooked
  cases hlooked with
  | refused hrefuses => exact absurd hrefuses (h _)
  | there _ => exact ⟨_, rfl⟩
  | nowhere _ _ => exact ⟨_, rfl⟩

lemma isFile_of_not_hasFile (h : ∀ e, ¬ w.Refuses t e) (hfile : ¬ w.HasFile t) :
    w.isFile t = .ok false := by
  obtain ⟨answer, hanswer⟩ := isFile_of_not_refuses h
  cases answer with
  | true => exact absurd (isFile_iff.mp hanswer) hfile
  | false => exact hanswer

lemma isExecutable_iff :
    w.isExecutable t = true ↔ ∃ data, w.entry? t = .ok (.file data true) := by
  unfold isExecutable
  cases w.entry? t with
  | error e => simp
  | ok entry => cases entry <;> simp

lemma isFile_of_isExecutable (h : w.isExecutable t) : w.isFile t = .ok true := by
  obtain ⟨data, h⟩ := isExecutable_iff.mp h
  exact isFile_iff.mpr ⟨data, true, h⟩

/-! ## What is read -/

/-- The file at a path holds some bytes and can be opened. -/
def Holds (w : World) (file : Path) (data : Bytes) : Prop :=
  ∃ place executable, w.files.locate w.cwd file.toText = .ok (place, .file data executable) ∧
    w.files.canOpen place

/-- The file at a path cannot be opened. -/
def Locked (w : World) (file : Path) : Prop :=
  ∃ place data executable, w.files.locate w.cwd file.toText = .ok (place, .file data executable) ∧
    ¬ w.files.canOpen place

lemma Holds.hasFile (h : w.Holds file data) : w.HasFile file.toText := by
  obtain ⟨place, executable, h, -⟩ := h
  refine ⟨data, executable, ?_⟩
  unfold entry?
  rw [h]
  rfl

lemma Locked.hasFile (h : w.Locked file) : w.HasFile file.toText := by
  obtain ⟨place, data, executable, h, -⟩ := h
  refine ⟨data, executable, ?_⟩
  unfold entry?
  rw [h]
  rfl

/-- A file can be opened or it cannot. -/
lemma HasFile.holds_or_locked (h : w.HasFile file.toText) :
    (∃ data, w.Holds file data) ∨ w.Locked file := by
  obtain ⟨data, executable, h⟩ := h
  obtain ⟨⟨place, entry⟩, hlocate, rfl⟩ := Except.ok_of_map h
  by_cases hplace : w.files.canOpen place
  · exact .inl ⟨data, place, executable, hlocate, hplace⟩
  · exact .inr ⟨place, data, executable, hlocate, hplace⟩

lemma readFile_of_holds (h : w.Holds file data) : w.readFile file = .ok data := by
  obtain ⟨place, executable, h, hplace⟩ := h
  unfold readFile
  rw [h]
  exact if_pos hplace

lemma readFile_of_locked (h : w.Locked file) :
    w.readFile file = .error (.system (.forbidden file.toText)) := by
  obtain ⟨place, data, executable, h, hplace⟩ := h
  unfold readFile
  rw [h]
  exact if_neg hplace

end World
end GradleLint
