import FiberApp.Messaging.SignalThread

/-! The life of a `SignalThread` over every interleaving of its two threads: when it is deleted
once and after its last use, and when it comes to rest. -/

set_option autoImplicit false

namespace FiberApp.Messaging

open FiberApp.Foundation

namespace SignalThread

/-- The worker of a run has yet to report, or the main thread to read the report. -/
def State.Runs (state : State) : Prop :=
  state = .running ∨ state = .releasing ∨ state = .stopping

/-- All that a `SignalThread` can be in the middle of. Where `lost` is false, the message of a
run is still to come as long as the main thread lives. -/
inductive Situation (lost : Prop) : SignalThread → Prop
  | owned (state : State) (main fStop : Bool) (rests : state = .init ∨ state = .complete) :
      Situation lost ⟨state, 1, main, fStop, .idle, 0, [], 0⟩
  | atWork (state : State) (main fStop : Bool) (worker : Worker) (runs : state.Runs)
      (followed : worker = .working ∨ main = false ∨ lost) :
      Situation lost ⟨state, 1, main, fStop, worker, 0, [], 0⟩
  | reported (state : State) (fStop : Bool) (runs : state.Runs) :
      Situation lost ⟨state, 1, true, fStop, .finished, 1, [], 0⟩
  | destroying (fStop : Bool) (worker : Worker) :
      Situation lost ⟨.stopping, 2, true, fStop, worker, 0, [.destroying], 0⟩
  | destroyingReported (fStop : Bool) :
      Situation lost ⟨.stopping, 2, true, fStop, .finished, 1, [.destroying], 0⟩
  | finishing (fStop : Bool) :
      Situation lost ⟨.complete, 2, true, fStop, .finished, 0, [.finishing false], 0⟩
  | finishingReleased (fStop : Bool) :
      Situation lost ⟨.releasing, 2, true, fStop, .finished, 0, [.finishing true], 0⟩
  | signalling (fStop : Bool) :
      Situation lost ⟨.complete, 2, true, fStop, .idle, 0, [.signalling false], 0⟩
  | signallingGivenUp (fStop : Bool) :
      Situation lost ⟨.complete, 1, true, fStop, .idle, 0, [.signalling false], 0⟩
  | signallingReleased (state : State) (fStop : Bool)
      (given : state = .releasing ∨ state = .stopping) :
      Situation lost ⟨state, 2, true, fStop, .idle, 0, [.signalling true], 0⟩
  /-- A slot of `SignalWorkDone` started the next run. -/
  | restarted (state : State) (fStop : Bool) (worker : Worker) (runs : state.Runs)
      (followed : worker = .working ∨ lost) :
      Situation lost ⟨state, 2, true, fStop, worker, 0, [.signalling false], 0⟩
  | deleted (state : State) (main fStop : Bool) (worker : Worker) (left : worker ≠ .working) :
      Situation lost ⟨state, 0, main, fStop, worker, 0, [], 1⟩

/-- The caller's part: no call on a deleted object or after giving it up, and no `Destroy(true)`
of a run that has not ended from a slot of `SignalWorkDone`. -/
def Careful (thread : SignalThread) : Call → Prop
  | .start _ | .release => thread.mainReady → thread.deletes = 0 ∧
      (thread.state = .complete → thread.refcount = thread.calls.length + 1)
  | .destroy wait => thread.mainReady → thread.deletes = 0 ∧
      (thread.state = .complete → thread.refcount = thread.calls.length + 1) ∧
      (wait → thread.state = .running ∨ thread.state = .releasing → thread.calls = [])
  | _ => True

/-- Every run has its thread, and none ends after the main thread was told to quit. -/
def Heard (thread : SignalThread) : Call → Prop
  | .start created => created = true
  | .workDone => thread.main → thread.fStop = false
  | _ => True

variable {lost : Prop}

variable {thread next : SignalThread}

section Bodies

/-! What the calls of the main thread do once the bracket of `EnterExit` is taken away. -/

theorem enter_exit (thread : SignalThread) (counted : thread.refcount ≠ 0) :
    thread.enter.exit = thread := by
  simp [enter, exit, unref, counted]

theorem enter_unref (thread : SignalThread) : thread.enter.unref = thread := by
  simp [enter, unref]

theorem startBody_eq (counted : thread.refcount ≠ 0) (created : Bool) :
    thread.enter.startBody created =
      if thread.state = .init ∨ thread.state = .complete then
        { thread with
          state := .running
          worker := if created ∧ thread.worker = Worker.idle then .working else thread.worker }
      else thread := by
  rw [startBody, enter_exit thread counted]
  refine if_congr Iff.rfl ?_ rfl
  exact enter_exit { thread with
    state := .running
    worker := if created ∧ thread.worker = Worker.idle then .working else thread.worker } counted

theorem releaseBody_eq (counted : thread.refcount ≠ 0) : thread.enter.releaseBody =
    if thread.state = .complete then thread.exit
    else if thread.state = .running then { thread with state := .releasing }
    else thread := by
  rw [releaseBody, enter_unref, enter_exit thread counted]
  refine if_congr Iff.rfl rfl (if_congr Iff.rfl ?_ rfl)
  exact enter_exit { thread with state := .releasing } counted

theorem destroyBody_eq (counted : thread.refcount ≠ 0) (wait : Bool) :
    thread.enter.destroyBody wait =
      if thread.state = .init ∨ thread.state = .complete then thread.exit
      else if thread.state = .running ∨ thread.state = .releasing then
        if wait then
          { thread.enter with state := .stopping, calls := .destroying :: thread.calls }
        else { thread with state := .stopping }
      else thread := by
  rw [destroyBody, enter_unref, enter_exit thread counted]
  refine if_congr Iff.rfl rfl (if_congr Iff.rfl (if_congr Iff.rfl rfl ?_) rfl)
  exact enter_exit { thread with state := .stopping } counted

end Bodies

theorem State.Runs.not_rests {state : State} (runs : state.Runs) :
    ¬ (state = .init ∨ state = .complete) := by
  rcases runs with rfl | rfl | rfl <;> simp

theorem Situation.counted (situation : Situation lost thread) (alive : thread.deletes = 0) :
    thread.refcount ≠ 0 := by
  cases situation with
  | deleted => exact absurd alive Nat.one_ne_zero
  | _ => simp

/-- Where the main thread finds the object between two runs. -/
theorem Situation.of_rests (situation : Situation lost thread) (ready : thread.mainReady)
    (alive : thread.deletes = 0) (rests : thread.state = .init ∨ thread.state = .complete)
    (own : thread.state = .complete → thread.refcount = thread.calls.length + 1) :
    (∃ state fStop, thread = ⟨state, 1, true, fStop, .idle, 0, [], 0⟩) ∨
      ∃ fStop, thread = ⟨.complete, 2, true, fStop, .idle, 0, [.signalling false], 0⟩ := by
  cases situation with
  | owned state main fStop _ =>
      have here : main = true := by simpa [mainReady] using ready
      exact .inl ⟨state, fStop, by rw [here]⟩
  | signalling fStop => exact .inr ⟨fStop, rfl⟩
  | signallingGivenUp => simp at own
  | atWork state main fStop worker runs => exact absurd rests runs.not_rests
  | reported state fStop runs => exact absurd rests runs.not_rests
  | restarted state fStop worker runs => exact absurd rests runs.not_rests
  | destroying => simp at rests
  | destroyingReported => simp at rests
  | finishing => simp [mainReady, Frame.waits] at ready
  | finishingReleased => simp at rests
  | signallingReleased state fStop given => rcases given with rfl | rfl <;> simp at rests
  | deleted => simp at alive

theorem Situation.giveUp (situation : Situation lost thread) (ready : thread.mainReady)
    (alive : thread.deletes = 0) (rests : thread.state = .init ∨ thread.state = .complete)
    (own : thread.state = .complete → thread.refcount = thread.calls.length + 1) :
    Situation lost thread.exit := by
  rcases situation.of_rests ready alive rests own with ⟨state, fStop, rfl⟩ | ⟨fStop, rfl⟩
  · exact .deleted state true fStop .idle (by simp)
  · exact .signallingGivenUp fStop

/-- A run that is under way can be released or stopped. -/
theorem Situation.retarget (situation : Situation lost thread) (ready : thread.mainReady)
    (alive : thread.deletes = 0) (runs : thread.state.Runs) {target : State}
    (given : target = .releasing ∨ target = .stopping) :
    Situation lost { thread with state := target } := by
  have targetRuns : target.Runs := .inr given
  cases situation with
  | owned state main fStop rests => exact absurd rests runs.not_rests
  | atWork state main fStop worker _ followed =>
      exact .atWork target main fStop worker targetRuns followed
  | reported state fStop _ => exact .reported target fStop targetRuns
  | restarted state fStop worker _ followed =>
      exact .restarted target fStop worker targetRuns followed
  | signallingReleased state fStop _ => exact .signallingReleased target fStop given
  | destroying => simp [mainReady, Frame.waits] at ready
  | destroyingReported => simp [mainReady, Frame.waits] at ready
  | finishing => simp [mainReady, Frame.waits] at ready
  | finishingReleased => simp [mainReady, Frame.waits] at ready
  | signalling => simp [State.Runs] at runs
  | signallingGivenUp => simp [State.Runs] at runs
  | deleted => simp at alive

theorem Situation.start {created : Bool} (situation : Situation lost thread)
    (careful : Careful thread (.start created)) (heard : lost ∨ Heard thread (.start created))
    (taken : step thread (.start created) = some next) : Situation lost next := by
  obtain ⟨ready, rfl⟩ : thread.mainReady ∧ thread.enter.startBody created = next := by
    simpa [step] using taken
  obtain ⟨alive, own⟩ := careful ready
  rw [startBody_eq (situation.counted alive)]
  have followed :
      (if created ∧ Worker.idle = .idle then Worker.working else .idle) = .working ∨ lost := by
    rcases heard with missed | made
    · exact .inr missed
    · exact .inl (if_pos ⟨made, rfl⟩)
  by_cases rests : thread.state = .init ∨ thread.state = .complete
  · rw [if_pos rests]
    rcases situation.of_rests ready alive rests own with ⟨state, fStop, rfl⟩ | ⟨fStop, rfl⟩
    · exact .atWork .running true fStop _ (.inl rfl) (followed.imp_right .inr)
    · exact .restarted .running fStop _ (.inl rfl) followed
  · rwa [if_neg rests]

theorem Situation.release (situation : Situation lost thread)
    (careful : Careful thread .release) (taken : step thread .release = some next) :
    Situation lost next := by
  obtain ⟨ready, rfl⟩ : thread.mainReady ∧ thread.enter.releaseBody = next := by
    simpa [step] using taken
  obtain ⟨alive, own⟩ := careful ready
  rw [releaseBody_eq (situation.counted alive)]
  by_cases complete : thread.state = .complete
  · rw [if_pos complete]
    exact situation.giveUp ready alive (.inr complete) own
  · rw [if_neg complete]
    by_cases running : thread.state = .running
    · rw [if_pos running]
      exact situation.retarget ready alive (.inl running) (.inl rfl)
    · rwa [if_neg running]

theorem Situation.destroy {wait : Bool} (situation : Situation lost thread)
    (careful : Careful thread (.destroy wait)) (taken : step thread (.destroy wait) = some next) :
    Situation lost next := by
  obtain ⟨ready, rfl⟩ : thread.mainReady ∧ thread.enter.destroyBody wait = next := by
    simpa [step] using taken
  obtain ⟨alive, own, apart⟩ := careful ready
  rw [destroyBody_eq (situation.counted alive)]
  by_cases rests : thread.state = .init ∨ thread.state = .complete
  · rw [if_pos rests]
    exact situation.giveUp ready alive rests own
  rw [if_neg rests]
  by_cases busy : thread.state = .running ∨ thread.state = .releasing
  · rw [if_pos busy]
    have runs : thread.state.Runs := busy.imp_right .inl
    cases wait with
    | false => exact situation.retarget ready alive runs (.inr rfl)
    | true =>
        have alone := apart rfl busy
        cases situation with
        | owned state main fStop rests' => exact absurd rests' rests
        | atWork state main fStop worker _ _ =>
            have here : main = true := by simpa [mainReady] using ready
            rw [here]
            exact .destroying fStop worker
        | reported state fStop _ => exact .destroyingReported fStop
        | deleted => simp at alive
        | _ => simp at alone
  · rwa [if_neg busy]

/-- How many steps the two threads have before them. -/
def remaining (thread : SignalThread) : Nat :=
  match thread.calls with
  | [] => if thread.worker = .working then 4 else if thread.messages = 0 then 0 else 3
  | .destroying :: _ => if thread.worker = .working then 2 else 1
  | .finishing _ :: _ => 2
  | .signalling _ :: _ => if thread.worker = .working then 5 else 1

/-- The end of the run reaches the object: the worker is going to report it to a main thread that
takes messages, it has reported it, or the main thread is about to read the report or waits. -/
def Reports (thread : SignalThread) : Prop :=
  thread.worker = .working ∧ thread.fStop = false ∨ 0 < thread.messages ∨
    ∃ frame ∈ thread.calls, frame ≠ .signalling false

/-- What a step of the two threads on their own brings. -/
structure Advances (lost : Prop) (thread next : SignalThread) : Prop where
  situation : Situation lost next
  fewer : next.remaining < thread.remaining
  given : thread.state ≠ .running → next.state = thread.state
  main : next.main = thread.main
  reports : thread.main → thread.state = .releasing ∨ thread.state = .stopping →
    (next.deletes = 1 ∨ Reports next ↔ thread.deletes = 1 ∨ Reports thread)

theorem Situation.onMessage (situation : Situation lost thread)
    (taken : step thread .onMessage = some next) : Advances lost thread next := by
  obtain ⟨⟨ready, pending⟩, same⟩ := Option.ite_none_right_eq_some.mp taken
  cases same
  cases situation with
  | reported state fStop runs =>
      rcases runs with rfl | rfl | rfl
      · show Advances lost _ ⟨.complete, 2, true, fStop, .finished, 0, [.finishing false], 0⟩
        exact ⟨.finishing fStop, by simp [remaining], by simp, rfl,
          by simp [Reports]⟩
      · show Advances lost _ ⟨.releasing, 2, true, fStop, .finished, 0, [.finishing true], 0⟩
        exact ⟨.finishingReleased fStop, by simp [remaining], by simp, rfl,
          by simp [Reports]⟩
      · show Advances lost _ ⟨.stopping, 0, true, fStop, .finished, 0, [], 1⟩
        exact ⟨.deleted .stopping true fStop .finished (by simp), by simp [remaining], by simp, rfl,
          by simp [Reports]⟩
  | destroyingReported => simp [mainReady, Frame.waits] at ready
  | _ => simp at pending

theorem Situation.stopped (situation : Situation lost thread)
    (taken : step thread .stopped = some next) : Advances lost thread next := by
  cases situation with
  | destroying fStop worker =>
      obtain ⟨left, same⟩ : worker ≠ .working ∧
          (⟨.stopping, 0, true, fStop, .idle, 0, [], 1⟩ : SignalThread) = next := by
        cases worker with
        | working => cases taken
        | idle => exact ⟨by simp, Option.some.inj taken⟩
        | finished => exact ⟨by simp, Option.some.inj taken⟩
      cases same
      exact ⟨.deleted .stopping true fStop .idle (by simp), by simp [remaining, left], by simp, rfl,
        by simp [Reports]⟩
  | destroyingReported fStop =>
      cases taken
      show Advances lost _ ⟨.stopping, 0, true, fStop, .idle, 0, [], 1⟩
      exact ⟨.deleted .stopping true fStop .idle (by simp), by simp [remaining], by simp, rfl,
          by simp [Reports]⟩
  | finishing fStop =>
      cases taken
      exact ⟨.signalling fStop, by simp [remaining], by simp, rfl,
          by simp [Reports]⟩
  | finishingReleased fStop =>
      cases taken
      exact ⟨.signallingReleased .releasing fStop (.inl rfl), by simp [remaining], by simp, rfl,
          by simp [Reports]⟩
  | _ => simp [step, SignalThread.stopped] at taken

theorem Situation.signalled (situation : Situation lost thread)
    (taken : step thread .signalled = some next) : Advances lost thread next := by
  cases situation with
  | signalling fStop =>
      cases taken
      show Advances lost _ ⟨.complete, 1, true, fStop, .idle, 0, [], 0⟩
      exact ⟨.owned .complete true fStop (.inr rfl), by simp [remaining], by simp, rfl,
          by simp [Reports]⟩
  | signallingGivenUp fStop =>
      cases taken
      show Advances lost _ ⟨.complete, 0, true, fStop, .idle, 0, [], 1⟩
      exact ⟨.deleted .complete true fStop .idle (by simp), by simp [remaining], by simp, rfl,
          by simp [Reports]⟩
  | signallingReleased state fStop given =>
      cases taken
      show Advances lost _ ⟨state, 0, true, fStop, .idle, 0, [], 1⟩
      exact ⟨.deleted state true fStop .idle (by simp), by simp [remaining], by simp, rfl,
          by simp [Reports]⟩
  | restarted state fStop worker runs followed =>
      cases taken
      show Advances lost _ ⟨state, 1, true, fStop, worker, 0, [], 0⟩
      refine ⟨.atWork state true fStop worker runs (followed.imp_right .inr), ?_, fun _ => rfl,
        rfl, by simp [Reports]⟩
      cases worker <;> simp [remaining]
  | _ => simp [step, SignalThread.signalled] at taken

theorem Situation.workDone (situation : Situation lost thread)
    (heard : lost ∨ Heard thread .workDone) (taken : step thread .workDone = some next) :
    Advances lost thread next := by
  obtain ⟨⟨working, free⟩, same⟩ := Option.ite_none_right_eq_some.mp taken
  cases same
  cases situation with
  | atWork state main fStop worker runs =>
      obtain rfl : worker = .working := working
      cases main with
      | false =>
          show Advances lost _ ⟨state, 1, false, fStop, .finished, 0, [], 0⟩
          exact ⟨.atWork state false fStop .finished runs (.inr (.inl rfl)), by simp [remaining],
            fun _ => rfl, rfl, by simp⟩
      | true =>
          cases fStop with
          | false =>
              show Advances lost _ ⟨state, 1, true, false, .finished, 1, [], 0⟩
              exact ⟨.reported state false runs, by simp [remaining], fun _ => rfl, rfl,
                by simp [Reports]⟩
          | true =>
              show Advances lost _ ⟨state, 1, true, true, .finished, 0, [], 0⟩
              have missed : lost := heard.resolve_right fun taken => Bool.noConfusion (taken rfl)
              exact ⟨.atWork state true true .finished runs (.inr (.inr missed)),
                by simp [remaining], fun _ => rfl, rfl,
                by simp [Reports]⟩
  | destroying fStop worker =>
      obtain rfl : worker = .working := working
      cases fStop with
      | false =>
          show Advances lost _ ⟨.stopping, 2, true, false, .finished, 1, [.destroying], 0⟩
          exact ⟨.destroyingReported false, by simp [remaining], by simp, rfl,
          by simp [Reports]⟩
      | true =>
          show Advances lost _ ⟨.stopping, 2, true, true, .finished, 0, [.destroying], 0⟩
          exact ⟨.destroying true .finished, by simp [remaining], by simp, rfl,
          by simp [Reports]⟩
  | restarted => simp [lockedByMain, Frame.locks] at free
  | deleted state main fStop worker left => exact absurd working left
  | _ => simp at working

theorem Situation.mainThreadDestroyed (situation : Situation lost thread)
    (taken : step thread .mainThreadDestroyed = some next) : Situation lost next := by
  obtain ⟨⟨main, none_open⟩, same⟩ := Option.ite_none_right_eq_some.mp taken
  cases same
  cases situation with
  | owned state main fStop rests => exact .owned state false fStop rests
  | atWork state main fStop worker runs =>
      exact .atWork state false fStop worker runs (.inr (.inl rfl))
  | reported state fStop runs =>
      exact .atWork state false fStop .finished runs (.inr (.inl rfl))
  | deleted state main fStop worker left => exact .deleted state false fStop worker left
  | _ => simp at none_open

/-- Telling the main thread to quit, or taking that back, changes nothing of the object. -/
theorem Situation.setStop (situation : Situation lost thread) (fStop : Bool) :
    Situation lost { thread with fStop := fStop } := by
  cases situation with
  | owned state main _ rests => exact .owned state main fStop rests
  | atWork state main _ worker runs followed =>
      exact .atWork state main fStop worker runs followed
  | reported state _ runs => exact .reported state fStop runs
  | destroying _ worker => exact .destroying fStop worker
  | destroyingReported => exact .destroyingReported fStop
  | finishing => exact .finishing fStop
  | finishingReleased => exact .finishingReleased fStop
  | signalling => exact .signalling fStop
  | signallingGivenUp => exact .signallingGivenUp fStop
  | signallingReleased state _ given => exact .signallingReleased state fStop given
  | restarted state _ worker runs followed => exact .restarted state fStop worker runs followed
  | deleted state main _ worker left => exact .deleted state main fStop worker left

theorem Situation.kept {call : Call} (situation : Situation lost thread)
    (careful : Careful thread call) (heard : lost ∨ Heard thread call)
    (taken : step thread call = some next) : Situation lost next := by
  cases call with
  | start created => exact situation.start careful heard taken
  | destroy wait => exact situation.destroy careful taken
  | release => exact situation.release careful taken
  | onMessage => exact (situation.onMessage taken).situation
  | stopped => exact (situation.stopped taken).situation
  | signalled => exact (situation.signalled taken).situation
  | workDone => exact (situation.workDone heard taken).situation
  | mainThreadDestroyed => exact situation.mainThreadDestroyed taken
  | quit =>
      obtain ⟨-, same⟩ := Option.ite_none_right_eq_some.mp taken
      cases same
      exact situation.setStop true
  | restart =>
      obtain ⟨-, same⟩ := Option.ite_none_right_eq_some.mp taken
      cases same
      exact situation.setStop false

theorem situation_initial : Situation lost initial := .owned .init true false (.inl rfl)

/-- The object is deleted at most once, and both threads have left it by then. While it lives the
assertion of `EnterExit` holds, a run has the object's own reference to end with, and a main
thread that waits in `Destroy(true)` has left the lock. -/
structure Managed (thread : SignalThread) : Prop where
  once : thread.deletes ≤ 1
  left : thread.deletes = 1 → thread.refcount = 0 ∧ thread.calls = [] ∧ thread.messages = 0 ∧
    thread.worker ≠ .working
  counted : thread.deletes = 0 → thread.refcount ≠ 0
  needed : thread.deletes = 0 →
    thread.state.Runs ∨ thread.worker = .working ∨ 0 < thread.messages →
      thread.refcount = thread.calls.length + 1
  unlocked : .destroying ∈ thread.calls → thread.lockedByMain = false

theorem Situation.managed (situation : Situation lost thread) : Managed thread := by
  cases situation with
  | owned state main fStop rests =>
      exact ⟨by simp, by simp, by simp, by simp, by simp⟩
  | deleted state main fStop worker left =>
      exact ⟨Nat.le_refl 1, fun _ => ⟨rfl, rfl, rfl, left⟩, by simp, by simp, by simp⟩
  | signallingGivenUp =>
      exact ⟨by simp, by simp, by simp, by simp [State.Runs], by simp⟩
  | _ => exact ⟨by simp, by simp, by simp, by simp, by simp [lockedByMain, Frame.locks]⟩

theorem Situation.of_deleted (situation : Situation lost thread) (ready : thread.mainReady)
    (gone : thread.deletes ≠ 0) :
    ∃ state fStop worker, thread = ⟨state, 0, true, fStop, worker, 0, [], 1⟩ := by
  cases situation with
  | deleted state main fStop worker left =>
      have here : main = true := by simpa [mainReady] using ready
      exact ⟨state, fStop, worker, by rw [here]⟩
  | _ => simp at gone

theorem Situation.of_givenUp (situation : Situation lost thread) (alive : thread.deletes = 0)
    (complete : thread.state = .complete)
    (shared : thread.refcount ≠ thread.calls.length + 1) :
    ∃ fStop, thread = ⟨.complete, 1, true, fStop, .idle, 0, [.signalling false], 0⟩ := by
  cases situation with
  | signallingGivenUp fStop => exact ⟨fStop, rfl⟩
  | deleted => simp at alive
  | _ => simp at shared

/-- The calls of the object's caller. -/
def Call.IsCaller : Call → Prop
  | .start _ | .release | .destroy _ => True
  | _ => False

/-- Any call on the deleted object takes and drops a reference that it does not have. -/
theorem not_managed_of_deleted {state : State} {fStop : Bool} {worker : Worker} {call : Call}
    (called : call.IsCaller) :
    ∃ next, step ⟨state, 0, true, fStop, worker, 0, [], 1⟩ call = some next ∧
      ¬ Managed next := by
  cases call with
  | start created =>
      refine ⟨_, rfl, fun managed => ?_⟩
      have once := managed.once
      cases state <;> simp [startBody, enter, exit, unref] at once
  | release =>
      refine ⟨_, rfl, fun managed => ?_⟩
      have once := managed.once
      have left := managed.left
      cases state <;> simp [releaseBody, enter, exit, unref] at once left
  | destroy wait =>
      refine ⟨_, rfl, fun managed => ?_⟩
      have once := managed.once
      have left := managed.left
      cases state <;> cases wait <;> simp [destroyBody, enter, exit, unref] at once left
  | _ => exact called.elim

/-- Any call on the object after it was given up in a slot ends its life too early. -/
theorem not_managed_of_givenUp {fStop : Bool} {call : Call} (called : call.IsCaller) :
    ∃ next, step ⟨.complete, 1, true, fStop, .idle, 0, [.signalling false], 0⟩ call =
      some next ∧ ¬ Managed next := by
  cases call with
  | start created =>
      refine ⟨_, rfl, fun managed => ?_⟩
      have counted : (1 : Int) = 2 := managed.needed rfl (.inl (.inl rfl))
      simp at counted
  | release => exact ⟨_, rfl, fun managed => List.cons_ne_nil _ _ (managed.left rfl).2.1⟩
  | destroy wait => exact ⟨_, rfl, fun managed => List.cons_ne_nil _ _ (managed.left rfl).2.1⟩
  | _ => exact called.elim

/-- A thread that waits in a slot of `SignalWorkDone` for the worker holds the lock. -/
theorem Situation.not_managed_of_waiting (situation : Situation lost thread)
    (ready : thread.mainReady) (busy : thread.state = .running ∨ thread.state = .releasing)
    (shared : thread.calls ≠ []) :
    ∃ next, step thread (.destroy true) = some next ∧ ¬ Managed next := by
  cases situation with
  | signallingReleased state fStop given =>
      obtain rfl : state = .releasing := by
        rcases given with rfl | rfl <;> simp at busy ⊢
      exact ⟨_, rfl, fun managed => Bool.noConfusion (managed.unlocked List.mem_cons_self)⟩
  | restarted state fStop worker runs =>
      rcases busy with rfl | rfl
      · exact ⟨_, rfl, fun managed => Bool.noConfusion (managed.unlocked List.mem_cons_self)⟩
      · exact ⟨_, rfl, fun managed => Bool.noConfusion (managed.unlocked List.mem_cons_self)⟩
  | destroying => simp at busy
  | destroyingReported => simp at busy
  | finishing => simp at busy
  | finishingReleased => simp [mainReady, Frame.waits] at ready
  | signalling => simp at busy
  | signallingGivenUp => simp at busy
  | _ => exact absurd rfl shared

/-- Without the caller's care the next state is already spoilt. -/
theorem Situation.spoilt {call : Call} (situation : Situation lost thread)
    (careless : ¬ Careful thread call) :
    ∃ next, step thread call = some next ∧ ¬ Managed next := by
  -- The caller can go wrong in three ways, the last only with `Destroy(true)`.
  have wrongly (ready : thread.mainReady) (called : call.IsCaller)
      (wrong : ¬ (thread.deletes = 0 ∧
        (thread.state = .complete → thread.refcount = thread.calls.length + 1))) :
      ∃ next, step thread call = some next ∧ ¬ Managed next := by
    by_cases alive : thread.deletes = 0
    · obtain ⟨complete, shared⟩ := Classical.not_imp.mp (not_and.mp wrong alive)
      obtain ⟨fStop, rfl⟩ := situation.of_givenUp alive complete shared
      exact not_managed_of_givenUp called
    · obtain ⟨state, fStop, worker, rfl⟩ := situation.of_deleted ready alive
      exact not_managed_of_deleted called
  cases call with
  | start created =>
      obtain ⟨ready, wrong⟩ := Classical.not_imp.mp careless
      exact wrongly ready trivial wrong
  | release =>
      obtain ⟨ready, wrong⟩ := Classical.not_imp.mp careless
      exact wrongly ready trivial wrong
  | destroy wait =>
      obtain ⟨ready, wrong⟩ := Classical.not_imp.mp careless
      by_cases own : thread.deletes = 0 ∧
          (thread.state = .complete → thread.refcount = thread.calls.length + 1)
      · obtain ⟨waits, held⟩ := Classical.not_imp.mp fun apart => wrong ⟨own.1, own.2, apart⟩
        obtain ⟨busy, shared⟩ := Classical.not_imp.mp held
        obtain rfl : wait = true := waits
        exact situation.not_managed_of_waiting ready busy shared
      · exact wrongly ready trivial own
  | _ => exact absurd trivial careless

/-- Over every interleaving of the main thread and the worker, with the slots of
`SignalWorkDone` calling the object as they like. -/
theorem managed_iff_careful (calls : List Call) :
    Throughout step Managed initial calls ↔ Guarded step Careful initial calls :=
  throughout_iff_guarded (Situation True) (fun _ situation => situation.managed)
    (fun _ _ _ situation careful taken => situation.kept careful (.inl trivial) taken)
    (fun _ _ situation careless => situation.spoilt careless) situation_initial

/-- A slot that destroys what was released takes a reference too many. -/
example : execute step initial
    [.start true, .release, .workDone, .onMessage, .stopped, .destroy true, .stopped,
      .signalled] = some ⟨.stopping, -1, true, false, .idle, 0, [], 0⟩ := rfl

/-- A slot that starts the next run and waits for its end holds the lock that the run needs. -/
example : ∃ stuck, execute step initial
    [.start true, .workDone, .onMessage, .stopped, .start true, .destroy true] = some stuck ∧
      ∀ call, call ≠ .quit → call ≠ .restart → step stuck call = none := by
  refine ⟨_, rfl, fun call notQuit notRestart => ?_⟩
  cases call with
  | quit => exact absurd rfl notQuit
  | restart => exact absurd rfl notRestart
  | _ => rfl

/-- The steps that the two threads take without the caller. -/
def Call.Own : Call → Prop
  | .onMessage | .stopped | .signalled | .workDone => True
  | _ => False

/-- Nothing of the object is under way. -/
def AtRest (thread : SignalThread) : Prop :=
  thread.deletes = 1 ∨ thread.calls = [] ∧ (thread.state = .init ∨ thread.state = .complete)

/-- A run without an end: it has no thread that works, and there is no message of it. -/
def Unheard (thread : SignalThread) : Prop :=
  thread.deletes = 0 ∧ thread.calls = [] ∧ thread.state.Runs ∧ thread.worker ≠ .working ∧
    thread.messages = 0

theorem Situation.progress (situation : Situation lost thread) (main : thread.main) :
    (AtRest thread ∨ Unheard thread) ∨
      ∃ call next, Call.Own call ∧ step thread call = some next := by
  cases situation with
  | owned state main fStop rests => exact .inl (.inl (.inr ⟨rfl, rests⟩))
  | atWork state main fStop worker runs =>
      by_cases working : worker = .working
      · rw [working]
        exact .inr ⟨.workDone, _, trivial, rfl⟩
      · exact .inl (.inr ⟨rfl, rfl, runs, working, rfl⟩)
  | reported state fStop runs => exact .inr ⟨.onMessage, _, trivial, rfl⟩
  | destroying fStop worker =>
      cases worker with
      | working => exact .inr ⟨.workDone, _, trivial, rfl⟩
      | idle => exact .inr ⟨.stopped, _, trivial, rfl⟩
      | finished => exact .inr ⟨.stopped, _, trivial, rfl⟩
  | destroyingReported => exact .inr ⟨.stopped, _, trivial, rfl⟩
  | finishing => exact .inr ⟨.stopped, _, trivial, rfl⟩
  | finishingReleased => exact .inr ⟨.stopped, _, trivial, rfl⟩
  | signalling => exact .inr ⟨.signalled, _, trivial, rfl⟩
  | signallingGivenUp => exact .inr ⟨.signalled, _, trivial, rfl⟩
  | signallingReleased => exact .inr ⟨.signalled, _, trivial, rfl⟩
  | restarted => exact .inr ⟨.signalled, _, trivial, rfl⟩
  | deleted => exact .inl (.inl (.inl rfl))

theorem remaining_le (thread : SignalThread) : thread.remaining ≤ 5 := by
  unfold remaining
  split <;> repeat' split
  all_goals omega

theorem Situation.advances {call : Call} (situation : Situation lost thread) (own : call.Own)
    (heard : lost ∨ Heard thread call) (taken : step thread call = some next) :
    Advances lost thread next := by
  cases call with
  | onMessage => exact situation.onMessage taken
  | stopped => exact situation.stopped taken
  | signalled => exact situation.signalled taken
  | workDone => exact situation.workDone heard taken
  | _ => exact own.elim

/-- What a run of the two threads on their own brings. -/
structure Advanced (thread final : SignalThread) (own : List Call) : Prop where
  situation : Situation True final
  fewer : own.length + final.remaining ≤ thread.remaining
  given : thread.state ≠ .running → final.state = thread.state
  main : final.main = thread.main
  reports : thread.main → thread.state = .releasing ∨ thread.state = .stopping →
    (final.deletes = 1 ∨ Reports final ↔ thread.deletes = 1 ∨ Reports thread)

theorem Situation.advancing {own : List Call} {final : SignalThread}
    (situation : Situation True thread) (owned : ∀ call ∈ own, call.Own)
    (ran : execute step thread own = some final) : Advanced thread final own := by
  induction own generalizing thread with
  | nil =>
      cases ran
      exact ⟨situation, by simp, fun _ => rfl, rfl, fun _ _ => Iff.rfl⟩
  | cons call rest ih =>
      obtain ⟨next, taken, finished⟩ := execute_cons_eq_some.mp ran
      have first := situation.advances (owned call List.mem_cons_self) (.inl trivial) taken
      have later := ih first.situation
        (fun later member => owned later (List.mem_cons_of_mem _ member)) finished
      refine ⟨later.situation, ?_, fun busy => ?_, later.main.trans first.main,
        fun main busy => ?_⟩
      · have shorter := later.fewer
        have fewer := first.fewer
        rw [List.length_cons]
        omega
      · have same := first.given busy
        rw [later.given (same ▸ busy), same]
      · have same : next.state = thread.state := first.given (by
          rcases busy with busy | busy <;> simp [busy])
        exact (later.reports (first.main ▸ main) (same ▸ busy)).trans (first.reports main busy)

theorem quiet_stuck (state : State) (refcount : Int) (main fStop : Bool) {worker : Worker}
    (deletes : Nat) (left : worker ≠ .working) :
    ∀ call, Call.Own call →
      step ⟨state, refcount, main, fStop, worker, 0, [], deletes⟩ call = none := by
  intro call own
  cases call with
  | workDone => exact if_neg fun working => left working.1
  | onMessage => exact if_neg fun pending => Nat.not_lt_zero 0 pending.2
  | stopped => exact if_neg left
  | signalled => rfl
  | _ => exact own.elim

theorem Situation.stuck_iff (situation : Situation lost thread) (main : thread.main) :
    (∀ call, Call.Own call → step thread call = none) ↔ AtRest thread ∨ Unheard thread := by
  constructor
  · intro stuck
    rcases situation.progress main with ended | ⟨call, next, own, taken⟩
    · exact ended
    · rw [stuck call own] at taken
      exact absurd taken.symm (Option.some_ne_none next)
  · intro ended
    cases situation with
    | owned state alive fStop rests => exact quiet_stuck state 1 alive fStop 0 (by simp)
    | deleted state alive fStop worker left => exact quiet_stuck state 0 alive fStop 1 left
    | atWork state alive fStop worker runs =>
        rcases ended with (gone | ⟨-, rests⟩) | ⟨-, -, -, left, -⟩
        · cases gone
        · exact absurd rests runs.not_rests
        · exact quiet_stuck state 1 alive fStop 0 left
    | reported state fStop runs =>
        rcases ended with (gone | ⟨-, rests⟩) | ⟨-, -, -, -, none⟩
        · cases gone
        · exact absurd rests runs.not_rests
        · cases none
    | _ => simp [AtRest, Unheard] at ended

theorem situation_of_careful {calls : List Call} {reached : SignalThread}
    (careful : Guarded step Careful initial calls)
    (executed : execute step initial calls = some reached) : Situation True reached :=
  execute_preserves (Situation True)
    (fun _ _ _ situation careful taken => situation.kept careful (.inl trivial) taken)
    situation_initial careful executed

theorem Situation.heard (situation : Situation False thread) (main : thread.main) :
    ¬ Unheard thread := by
  intro unheard
  cases situation with
  | atWork state alive fStop worker runs followed =>
      rcases followed with working | gone | missed
      · exact unheard.2.2.2.1 working
      · rw [gone] at main
        cases main
      · exact missed
  | owned state alive fStop rests => exact unheard.2.2.1.not_rests rests
  | _ => simp [Unheard] at unheard

/-- A careful run whose messages all reach the main thread. -/
theorem situation_of_heard {calls : List Call} {reached : SignalThread}
    (careful : Guarded step Careful initial calls) (heard : Guarded step Heard initial calls)
    (executed : execute step initial calls = some reached) : Situation False reached :=
  execute_preserves (Situation False)
    (fun _ _ _ situation both taken => situation.kept both.1 (.inr both.2) taken)
    situation_initial (careful.and heard) executed

theorem Situation.heard_advancing {own : List Call} {final : SignalThread}
    (situation : Situation False thread) (owned : ∀ call ∈ own, call.Own)
    (heard : Guarded step Heard thread own)
    (ran : execute step thread own = some final) : Situation False final :=
  execute_preserves (Situation False)
    (fun _ _ _ situation both taken => (situation.advances both.1 (.inr both.2) taken).situation)
    situation ((guarded_of_mem owned).and heard) ran

/-- Left to themselves, the two threads come to rest within five steps, and they never wait for
each other. What stays without an end is a run whose message is lost, which takes a worker that
could not be created, or a main thread told to quit before the worker ended. -/
theorem comes_to_rest {calls own : List Call} {reached final : SignalThread}
    (careful : Guarded step Careful initial calls)
    (executed : execute step initial calls = some reached)
    (owned : ∀ call ∈ own, call.Own) (ran : execute step reached own = some final) :
    own.length ≤ 5 ∧
      (final.main →
        ((∀ call, Call.Own call → step final call = none) ↔ AtRest final ∨ Unheard final)) ∧
      (Guarded step Heard initial calls → Guarded step Heard reached own → final.main →
        ¬ Unheard final) := by
  have advanced := (situation_of_careful careful executed).advancing owned ran
  refine ⟨?_, advanced.situation.stuck_iff, fun before after main => ?_⟩
  · have bounded := remaining_le reached
    have fewer := advanced.fewer
    omega
  · exact ((situation_of_heard careful before executed).heard_advancing owned after ran).heard
      main

/-- A worker is asked to stop while it runs, and ends before the main thread looks again. -/
def destroyedAtWork : List Call := [.start true, .destroy false]

theorem destroyedAtWork_careful : Guarded step Careful initial destroyedAtWork := by
  refine (guarded_cons_of_some rfl).mpr ⟨fun _ => ⟨rfl, ?_⟩,
    (guarded_cons_of_some rfl).mpr ⟨fun _ => ⟨rfl, ?_, ?_⟩, trivial⟩⟩
  · intro complete
    simp [initial] at complete
  · intro complete
    cases complete
  · intro waits
    cases waits

theorem destroyedAtWork_heard : Guarded step Heard initial destroyedAtWork :=
  (guarded_cons_of_some rfl).mpr ⟨rfl, (guarded_cons_of_some rfl).mpr ⟨trivial, trivial⟩⟩

theorem destroyedAtWork_ends :
    execute step initial destroyedAtWork =
        some ⟨.stopping, 1, true, false, .working, 0, [], 0⟩ ∧
      execute step ⟨.stopping, 1, true, false, .working, 0, [], 0⟩ [.workDone, .onMessage] =
        some ⟨.stopping, 0, true, false, .finished, 0, [], 1⟩ :=
  ⟨rfl, rfl⟩

theorem comes_to_rest_destroyedAtWork :
    AtRest ⟨.stopping, 0, true, false, .finished, 0, [], 1⟩ := by
  obtain ⟨reached, ran⟩ := destroyedAtWork_ends
  obtain ⟨-, stuck_iff, heard⟩ :=
    comes_to_rest destroyedAtWork_careful reached (by simp [Call.Own]) ran
  have listens : Guarded step Heard ⟨.stopping, 1, true, false, .working, 0, [], 0⟩
      [.workDone, .onMessage] :=
    (guarded_cons_of_some rfl).mpr
      ⟨fun _ => rfl, (guarded_cons_of_some rfl).mpr ⟨trivial, trivial⟩⟩
  exact ((stuck_iff rfl).mp (quiet_stuck .stopping 0 true false 1 (by simp))).resolve_right
    (heard destroyedAtWork_heard listens rfl)

/-- The object is deleted at the end of a run that was released or stopped, exactly when that
end reaches it. -/
theorem given_up_is_deleted {calls own : List Call} {reached final : SignalThread}
    (careful : Guarded step Careful initial calls)
    (executed : execute step initial calls = some reached)
    (given : reached.state = .releasing ∨ reached.state = .stopping)
    (owned : ∀ call ∈ own, call.Own) (ran : execute step reached own = some final)
    (main : final.main) (stuck : ∀ call, Call.Own call → step final call = none) :
    final.deletes = 1 ↔ reached.deletes = 1 ∨ Reports reached := by
  have advanced := (situation_of_careful careful executed).advancing owned ran
  rw [← advanced.reports (advanced.main ▸ main) given]
  refine ⟨.inl, fun ends => ends.elim id fun reports => ?_⟩
  have busy : final.state = reached.state := advanced.given (by
    rcases given with given | given <;> simp [given])
  rcases (advanced.situation.stuck_iff main).mp stuck with (deleted | ⟨-, rests⟩) | unheard
  · exact deleted
  · rw [busy] at rests
    rcases given with given | given <;> simp [given] at rests
  · obtain ⟨-, calls, -, left, none⟩ := unheard
    simp [Reports, calls, left, none] at reports

theorem given_up_is_deleted_destroyedAtWork :
    (⟨.stopping, 0, true, false, .finished, 0, [], 1⟩ : SignalThread).deletes = 1 := by
  obtain ⟨reached, ran⟩ := destroyedAtWork_ends
  exact (given_up_is_deleted destroyedAtWork_careful reached (.inr rfl) (by simp [Call.Own]) ran
    rfl (quiet_stuck .stopping 0 true false 1 (by simp))).mpr (.inr (.inl ⟨rfl, rfl⟩))

/-- The main thread quits before the worker ends: what was released then stays for ever. -/
example : execute step initial [.start true, .release, .quit, .workDone] =
      some ⟨.releasing, 1, true, true, .finished, 0, [], 0⟩ ∧
    Unheard ⟨.releasing, 1, true, true, .finished, 0, [], 0⟩ :=
  ⟨rfl, rfl, rfl, .inr (.inl rfl), by simp, rfl⟩

end SignalThread

end FiberApp.Messaging
