import GradleLint.Cli.Lint
import GradleLint.Proofs.Controller.Completion

/-!
# The one build of a plan

A plan is run by a controller of its own, which sees one order and then the end of one process.
What comes of it depends on what there is against the process: the process starts and its status
and output decide (`runPlan_of_started`), or the operating system refuses it and the outcome is a
failure of the build tool (`runPlan_of_refused`), or no process can be as the plan has it and there
is no outcome (`runPlan_of_unfit`).  Each time the process is asked for exactly once.
-/

namespace GradleLint

variable {w : World} {plan : Plan} {build : BuildScript}

/-! ## What a plan asks for -/

namespace Plan

/-- The process that a plan asks for when its command stands as it is. -/
def launch (plan : Plan) : Launch := ⟨plan.command, plan.root.toText, none⟩

/-- The process of a plan, once it has ended. -/
def process (plan : Plan) (build : BuildScript) : Process :=
  { document := 0, request := 0, args := plan.command, kill := .delivered,
    ended := some (build.status, Utf8.readText build.output) }

/-- The request that the process of a plan serves. -/
def request (plan : Plan) : Request :=
  { identity := plan.document.identity, grammar := plan.grammar, process := some 0,
    callback := false }

/-- What a build that has started comes to. -/
def outcome (plan : Plan) (build : BuildScript) : Outcome :=
  Controller.buildOutcome (plan.process build) 0 plan.request plan.document build.status
    (Utf8.readText build.output)

/-- What a build comes to whose process the operating system refuses. -/
def refusedOutcome (plan : Plan) (e : SystemError) : Outcome :=
  .toolError ("Failed to start build tool `" ++ plan.command.headD [] ++ "`: " ++ e.message)

/-- The session of a plan whose process has started. -/
def startedSession (plan : Plan) (w : World) : Session where
  world := w
  environment := []
  controller :=
    { documents := [plan.document], requests := [plan.request]
      processes :=
        [{ document := 0, request := 0, args := plan.command, kill := .delivered }]
      registry := [(plan.document.identity, 0)] }
  callbacks := [none]

end Plan

/-! ## Running it -/

namespace World

lemma launch_of_normalizeCommand (hcommand : w.normalizeCommand plan.command = .ok plan.command) :
    w.launch plan.command plan.root [] = .ok plan.launch := by
  rw [World.launch, hcommand]
  rfl

/-- No process can be as the plan has it: it is asked for, and the start raises a complaint. -/
lemma runPlan_of_unfit (hcommand : w.normalizeCommand plan.command = .ok plan.command)
    {message : Text} (hrefusal : build.refusal = some (.unfit message)) :
    w.runPlan plan build = ([.event (.launched plan.launch)], .error (.unfit message)) := by
  simp only [runPlan, Session.perform, Session.advance, Session.callShown, Session.call,
    launch_of_normalizeCommand hcommand, hrefusal]
  rfl

/-- The operating system refuses the process: it is asked for, and the build tool has failed. -/
lemma runPlan_of_refused (hcommand : w.normalizeCommand plan.command = .ok plan.command)
    {e : SystemError} (hrefusal : build.refusal = some (.system e)) :
    w.runPlan plan build =
      ([.event (.launched plan.launch),
        .event (.logged (.startFailed plan.document.identity e.message)),
        .event (.resolved 0 (plan.refusedOutcome e))],
        .ok (plan.refusedOutcome e)) := by
  simp only [runPlan, Session.perform, Session.advance, Session.callShown, Session.call,
    launch_of_normalizeCommand hcommand, hrefusal]
  rfl

/-- Where no failed start is left to be delivered, a call from outside is all that happens. -/
lemma perform_of_no_undelivered {s s' : Session} {call : Call} {shown : List Occurrence}
    {answer : Answer} (hadvance : s.advance call = (s', shown, answer))
    (hnone : s'.controller.undelivered = []) : s.perform call = (s', shown, answer) := by
  have hdeliver : Session.deliverAll s'.deliveryBound s' = (s', []) := by
    cases s'.deliveryBound with
    | zero => rfl
    | succ fuel => rw [Session.deliverAll, hnone]
  simp only [Session.perform, hadvance, hdeliver, List.append_nil]

/-- The end of the process of a plan settles its request. -/
lemma perform_finishAndDrain (plan : Plan) (w : World) (build : BuildScript) :
    ∃ s, (plan.startedSession w).perform (.finishAndDrain 0 build.status build.output) =
        (s, [.event (.resolved 0 (plan.outcome build))], .done) ∧
      s.controller.progress? 0 = some (.resolved (plan.outcome build)) := by
  -- The state of the controller once the end of the process is noted.
  let c : Controller :=
    { (plan.startedSession w).controller with processes := [plan.process build] }
  have hs : c.Serves 0 (plan.process build) plan.request plan.document :=
    { has_process := rfl, has_request := rfl, has_document := rfl, back := rfl, identity := rfl,
      unsettled_iff := iff_of_true rfl rfl }
  have hcur : c.current? plan.document.identity = some 0 := List.lookup_cons_self
  have hcomplete := Controller.complete_of_current hs rfl rfl rfl hcur
  rw [Controller.settling_of_no_call (.inl rfl)] at hcomplete
  have hfinish : (plan.startedSession w).finish 0 build.status build.output =
      ({ plan.startedSession w with controller := c }, [], .done) := rfl
  refine ⟨{ plan.startedSession w with
    controller := (c.deregister plan.document.identity).settle 0 0 .released
      (.resolved (plan.outcome build)) }, perform_of_no_undelivered ?_ rfl, rfl⟩
  simp only [Session.advance, hfinish, Session.completeProcess, hcomplete]
  rfl

/-- The process of a plan starts and ends: it is asked for, it is entered, and its end decides. -/
lemma runPlan_of_started (hcommand : w.normalizeCommand plan.command = .ok plan.command)
    (hrefusal : build.refusal = none) :
    w.runPlan plan build =
      ([.event (.launched plan.launch),
        .event (.logged (.started firstPid plan.document.identity plan.command)),
        .event (.resolved 0 (plan.outcome build))],
        .ok (plan.outcome build)) := by
  have hstart : Session.perform
      { world := w, environment := [], controller := { documents := [plan.document] } }
      (.start 0 plan.command plan.root (some plan.grammar) none .delivered build.refusal) =
      (plan.startedSession w,
        [.event (.launched plan.launch),
          .event (.logged (.started firstPid plan.document.identity plan.command))],
        .requested 0 plan.document.identity plan.grammar (some firstPid) false) := by
    refine perform_of_no_undelivered ?_ rfl
    simp only [Session.advance, Session.callShown, Session.call,
      launch_of_normalizeCommand hcommand, hrefusal]
    rfl
  obtain ⟨s, hend, hresolved⟩ := perform_finishAndDrain plan w build
  simp only [runPlan, hstart, hend, hresolved, List.cons_append, List.nil_append]

end World
end GradleLint
