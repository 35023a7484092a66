import GradleLint.Proofs.Controller.Steps

/-!
# Every moment of a run

`Run.Sound` says of a moment of a run that the parts of the controller belong together and that
the events are those of its state.  A new controller is sound and every move keeps it so
(`Sound.step`), whatever the order of the moves; hence every moment of a run is sound
(`Sound.play`).
-/

namespace GradleLint
namespace Run

/-- The state of the controller, the running callbacks and the events fit each other. -/
structure Sound (x : Run) : Prop where
  linked : Linked x.controller x.calling
  recorded : Recorded x.controller x.events

namespace Sound

open Controller

variable {x : Run}

lemma begin (documents : List Document) : (Run.begin documents).Sound :=
  ⟨.begin documents, .begin documents⟩

lemma displace (h : x.Sound) (identity : Text) :
    (x.advance (x.controller.deregister identity) (x.controller.displace identity).2.1).Sound :=
  ⟨h.linked.deregister identity, h.recorded.displace h.linked identity⟩

lemma displaceAll (h : x.Sound) (identities : List Text) :
    (x.advance (x.controller.displaceAll identities).1
      (x.controller.displaceAll identities).2).Sound := by
  induction identities generalizing x with
  | nil => simpa [Controller.displaceAll] using h
  | cons identity rest ih =>
    have hrest := ih (h.displace identity)
    rw [advance_advance] at hrest
    simpa only [Controller.displaceAll, displace_controller, advance_controller] using hrest

/-- The events depend on the processes through their number only. -/
lemma recorded_updateProcess (h : x.Sound) (p : Nat) (f : Process → Process) :
    Recorded (x.controller.updateProcess p f) x.events :=
  h.recorded.congr rfl rfl (by simp [Controller.updateProcess]) fun _ _ hc => hc

/-- Every move keeps a run sound. -/
lemma step (h : x.Sound) (m : Move) : (x.step m).Sound := by
  have hdid := did h.linked m
  generalize x.step m = y at hdid
  cases hdid with
  | idle => exact h
  | @raised o doc g hd hg l =>
    have hdisplaced := h.displace doc.identity
    refine ⟨hdisplaced.linked, ?_⟩
    have hremark := hdisplaced.recorded.remark (l.map Event.launched).toList
      fun e he => Event.isRemark_of_launched he
    simpa using hremark
  | @refused o doc g hd hg l reason =>
    have hdisplaced := h.displace doc.identity
    refine ⟨hdisplaced.linked.enterRefused rfl ⟨_, rfl⟩, ?_⟩
    have hremark := (hdisplaced.recorded.remark (l.map Event.launched).toList
      fun e he => Event.isRemark_of_launched he).remark
        [.logged (.startFailed doc.identity reason)] (by simp)
    have hentered := hremark.enterRefused (refusedRequest o doc.identity g reason) rfl
    simpa using hentered
  | @accepted o doc g l hd hg hl hr =>
    have hdisplaced := h.displace doc.identity
    have hnone : (x.controller.deregister doc.identity).current? doc.identity = none := by simp
    refine ⟨hdisplaced.linked.enterAccepted hnone rfl rfl rfl hd rfl rfl rfl, ?_⟩
    have hremark := hdisplaced.recorded.remark
      [.launched l, .logged (.started (pidOf x.controller.processes.length) doc.identity l.args)]
      (by simp)
    have hentered := hremark.enterAccepted (x.controller.acceptedRequest o doc.identity g)
      (x.controller.acceptedProcess o l) rfl hnone
    simpa using hentered
  | @cancelled d doc hd => exact h.displace doc.identity
  | shutdown => exact h.displaceAll _
  | @edited m d f hdisplaces hedit hf =>
    refine ⟨h.linked.updateDocument d hf, ?_⟩
    rw [advance_events, List.append_nil]
    exact h.recorded.congr rfl rfl rfl fun _ _ hc => hc
  | finished p status output =>
    refine ⟨h.linked.finish p status output, ?_⟩
    rw [advance_events, List.append_nil]
    exact h.recorded_updateProcess p _
  | @settled m p proc request doc capture progress calling more hm hs hopen hcalling hmore =>
    have hdone := hm.ne_pending
    have hs' : (x.controller.withdraw p doc.identity).Serves p proc request doc :=
      { hs with
        has_process := by rw [withdraw_processes]; exact hs.has_process
        has_request := by rw [withdraw_requests]; exact hs.has_request
        has_document := by rw [withdraw_documents]; exact hs.has_document }
    have hl' : Linked (x.controller.withdraw p doc.identity) x.calling := by
      unfold withdraw
      split
      · exact h.linked.deregister doc.identity
      · exact h.linked
    have hr' : Recorded (x.controller.withdraw p doc.identity) x.events := by
      unfold withdraw
      split
      · exact h.recorded.deregister doc.identity
      · exact h.recorded
    have hgone : ∀ identity, (x.controller.withdraw p doc.identity).current? identity ≠ some p := by
      intro identity
      rw [current?_withdraw h.linked hs]
      split
      · simp
      · assumption
    refine ⟨hl'.settle hs'.has_process hgone hdone ?_ ?_ ?_, ?_⟩
    · obtain rfl | ⟨rfl, rfl⟩ := hcalling <;> simp
    · obtain rfl | ⟨rfl, rfl⟩ := hcalling <;> simp +contextual
    · obtain rfl | ⟨rfl, rfl⟩ := hcalling <;> simp +contextual
    · have hremark := (hr'.settle hl' hs' hopen capture hdone).remark _ hmore
      simpa using hremark
  | @concluded p hp failure =>
    exact ⟨h.linked.release hp (fun _ => List.mem_of_mem_erase)
        fun q hq hne => (List.mem_erase_of_ne hne).mpr hq,
      (h.recorded_updateProcess p _).remark _ fun e he => Event.isRemark_of_crashed he⟩
  | @delivered r o hr ho =>
    exact ⟨h.linked.deliver r, h.recorded.deliver h.linked hr ho⟩
  | aborted message =>
    exact ⟨h.linked, h.recorded.remark _ (by simp)⟩

lemma after (h : x.Sound) (moves : List Move) : (x.play moves).Sound :=
  play_invariant (fun _ m h => h.step m) h moves

/-- Every moment of a run is sound. -/
theorem play (documents : List Document) (moves : List Move) :
    ((Run.begin documents).play moves).Sound :=
  (Sound.begin documents).after moves

end Sound
end Run
end GradleLint
