import GradleLint.Proofs.Build.Failure
import GradleLint.Proofs.Controller.Checked
import GradleLint.Proofs.Position

/-!
# What a current process comes to

The outcome of a process that is current when its end is dealt with is decided by its status:
clean, with problems, or a failure of the tool.  Of problems there are two lists, the records in
the output and the diagnostics made of them, and they correspond item by item.  All diagnostics
are anchored to one text, the content that the document has at that moment; neither earlier
contents nor later ones have a part in them.
-/

namespace GradleLint

/-! ## The outcome of a current process -/

namespace Run

open Controller

lemma buildOutcome_eq (proc : Process) (p : Nat) (request : Request) (doc : Document)
    (status : Int) (output : Text) :
    buildOutcome proc p request doc status output =
      if status = 0 then .noIssues
      else if status = 1 then
        .issues (recordsFor doc.path (some request.grammar) output)
          ((recordsFor doc.path (some request.grammar) output).map (Record.anchor doc.content))
      else .toolError (describeFailure ⟨some (pidOf p), proc.args, status⟩ output) := by
  unfold buildOutcome outcomeOf classify
  by_cases h0 : status = 0
  · simp [h0, Outcome.anchor]
  · by_cases h1 : status = 1
    · simp [h1, Outcome.anchor]
    · simp [h0, h1, Outcome.anchor]

end Run
end GradleLint
