import GradleLint.Build.Classify
import GradleLint.Proofs.Text.Lines

/-!
# Descriptions of failures

A failed build is described by a heading, which says how the build tool ended, and by the tail of
its output, if there is any.  The tail are the last five inked lines, joined by line feeds, and so
depends on the inked lines alone (`outputTail_congr`).  These are found again in the tail itself
(`inkedLines_outputTail`), which makes taking the tail idempotent (`outputTail_last_inked`).
-/

namespace GradleLint

/-! ## The heading -/

/-- How a failed build tool is described before its output: a negative status is a signal. -/
def failureHeading (e : Exit) : Text :=
  "Build tool (" ++ e.describe ++ ") " ++
    (if e.status < 0 then "was terminated by signal " ++ e.signal
      else "exited abnormally with status " ++ Text.ofInt e.status)

lemma describeFailure_eq (e : Exit) (output : Text) :
    describeFailure e output =
      if (outputTail output).isEmpty then failureHeading e
      else failureHeading e ++ ":\n" ++ outputTail output := by
  unfold describeFailure failureHeading
  by_cases hneg : e.status < 0
  · have hsignalled : e.signalled = true := decide_eq_true hneg
    rw [if_pos hsignalled, if_pos hneg]
  · have hsignalled : ¬ e.signalled = true := by simpa [Exit.signalled] using hneg
    rw [if_neg hsignalled, if_neg hneg]

/-- The inked lines that are shown of an output. -/
def keptLines (output : Text) : List Text :=
  output.inkedLines.drop (output.inkedLines.length - tailLength)

lemma outputTail_eq (output : Text) : outputTail output = Text.join ['\n'] (keptLines output) := rfl

lemma length_keptLines (output : Text) :
    (keptLines output).length = min tailLength output.inkedLines.length := by
  rw [keptLines, List.length_drop]
  omega

lemma keptLines_congr {a b : Text} (h : a.inkedLines = b.inkedLines) :
    keptLines a = keptLines b := by
  rw [keptLines, keptLines, h]

lemma outputTail_congr {a b : Text} (h : a.inkedLines = b.inkedLines) :
    outputTail a = outputTail b := by
  rw [outputTail_eq, outputTail_eq, keptLines_congr h]

/-- What is shown of an output has the shown lines as its inked lines. -/
lemma inkedLines_outputTail (output : Text) : (outputTail output).inkedLines = keptLines output := by
  refine Text.inkedLines_join fun line hline => ?_
  have hinked := Text.mem_inkedLines (List.mem_of_mem_drop hline)
  exact ⟨hinked.1, hinked.2.2⟩

/-- Nothing is shown exactly if there is no inked line. -/
lemma outputTail_eq_nil_iff (output : Text) : outputTail output = [] ↔ output.inkedLines = [] := by
  constructor
  · intro h
    have hkept : keptLines output = [] := by
      rw [← inkedLines_outputTail, h]
      rfl
    have hlength := length_keptLines output
    rw [hkept, List.length_nil] at hlength
    exact List.length_eq_zero_iff.mp (by unfold tailLength at hlength; omega)
  · intro h
    rw [outputTail_congr (b := []) h]
    rfl

lemma keptLines_outputTail (output : Text) : keptLines (outputTail output) = keptLines output := by
  have hlength := length_keptLines output
  have hall : (keptLines output).length - tailLength = 0 := by omega
  rw [keptLines, inkedLines_outputTail, hall, List.drop_zero]

/-- Enough lines at the end hide all before them. -/
lemma keptLines_append_newline {output : Text} (h : tailLength ≤ output.inkedLines.length)
    (before : Text) : keptLines (before ++ '\n' :: output) = keptLines output := by
  have hlength : (before.inkedLines ++ output.inkedLines).length - tailLength =
      before.inkedLines.length + (output.inkedLines.length - tailLength) := by
    rw [List.length_append]
    omega
  rw [keptLines, Text.inkedLines_append_newline, hlength, List.drop_length_add_append, keptLines]

/-- The tail of an output are the last five of its inked lines, or all if there are fewer.  It
follows the heading of a failure if there is an inked line.  It is its own tail; blanks behind a
line feed do not change it, and neither does anything in front of a line feed if five inked lines
come after. -/
theorem outputTail_last_inked (output : Text) :
    (∀ ls, output.CutsInto ls ↔ output.lines = ls) ∧
    (∃ kept, kept <:+ output.lines.filter Text.isInked ∧
      kept.length = min 5 (output.lines.filter Text.isInked).length ∧
      outputTail output = Text.join ['\n'] kept) ∧
    (∀ e, describeFailure e output = failureHeading e ++
      if 0 < (output.lines.filter Text.isInked).length then ":\n" ++ outputTail output else []) ∧
    outputTail (outputTail output) = outputTail output ∧
    (∀ blanks, (∀ c ∈ blanks, isBlank c = true) →
      outputTail (output ++ '\n' :: blanks) = outputTail output) ∧
    (5 ≤ (output.lines.filter Text.isInked).length →
      ∀ before, outputTail (before ++ '\n' :: output) = outputTail output) := by
  refine ⟨fun ls => Text.lines_eq_iff.symm,
    ⟨keptLines output, List.drop_suffix _ _, length_keptLines output, outputTail_eq output⟩,
    fun e => ?_, ?_, fun blanks hblanks => ?_, fun henough before => ?_⟩
  · have htail : (outputTail output).isEmpty ↔ output.lines.filter Text.isInked = [] :=
      List.isEmpty_iff.trans (outputTail_eq_nil_iff output)
    rw [describeFailure_eq]
    by_cases hnone : output.lines.filter Text.isInked = []
    · rw [if_pos (htail.mpr hnone), hnone]
      exact (List.append_nil _).symm
    · rw [if_neg (mt htail.mp hnone), if_pos (List.length_pos_iff.mpr hnone), List.append_assoc]
  · rw [outputTail_eq, keptLines_outputTail, ← outputTail_eq]
  · refine outputTail_congr ?_
    rw [Text.inkedLines_append_newline, Text.inkedLines_of_blank hblanks, List.append_nil]
  · rw [outputTail_eq, keptLines_append_newline henough, ← outputTail_eq]

/-- Lines that end in six ways, a blank one among them, hide a first line; of a carriage return and
the line feed behind it only one break is made. -/
theorem tail_of_ragged_output :
    let output : Text := "one\ntwo\r\n \x0bthree\x0cfour\u2028five\rsix"
    5 ≤ (output.lines.filter Text.isInked).length ∧
      outputTail output = "two\nthree\nfour\nfive\nsix".toList ∧
      outputTail ("zero\r" ++ '\n' :: output) = outputTail output ∧
      outputTail (output ++ '\n' :: "\u00a0\r") = outputTail output := by
  intro output
  have henough : 5 ≤ (output.lines.filter Text.isInked).length := by decide
  have hlaws := outputTail_last_inked output
  have hblank : ∀ c ∈ "\u00a0\r".toList, isBlank c = true := List.all_eq_true.mp (by decide)
  exact ⟨henough, by decide, hlaws.2.2.2.2.2 henough _, hlaws.2.2.2.2.1 _ hblank⟩

end GradleLint
