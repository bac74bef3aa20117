import XBusiness.Lib.Machine

/-! # Pausing the consumer

`KafkaConsumerImp` keeps in `m_cur_state` whether it has paused its partitions, and both
`pause` and `resume` return at once when the flag says that there is nothing to do.  The
assignment that the flag speaks of belongs to librdkafka and is changed by `rebalance_cb`,
which leaves the flag as it is.

* `Honest` — the flag agrees with the partitions that are assigned.
* `pause_honest` — it does so all along a run exactly when no partition that is not paused is
  assigned while the flag says paused.
* `backpressure` — in such a run a full cache stops every assigned partition.
-/

namespace XBusiness.Consumer

open Interaction

structure TopicPartition where
  topic : String
  partition : Int
  deriving DecidableEq, Repr

/-- `CONSUEMR_STATE_RUN`, `CONSUEMR_STATE_PAUSE`. -/
inductive ConsumeState where
  | run
  | pause
  deriving DecidableEq, Repr

/-- The code that `rebalance_cb` is called with. -/
inductive RebalanceError where
  | assignPartitions
  | revokePartitions
  | other
  deriving DecidableEq, Repr

/-- `m_cur_state`, with what librdkafka holds of the consumer: the assignment and the partitions
    of it that do not fetch. -/
structure FlowControl where
  curState : ConsumeState := .run
  assignment : List TopicPartition := []
  paused : List TopicPartition := []
  deriving DecidableEq, Repr

namespace FlowControl

/-- `KafkaConsumerImp::resume`. -/
def resume (state : FlowControl) : Bool × FlowControl :=
  if state.curState = .run then (false, state)
  else
    let partitions := state.assignment
    (true, { state with
      paused := state.paused.filter fun partition => partition ∉ partitions, curState := .run })

/-- `KafkaConsumerImp::pause`. -/
def pause (state : FlowControl) : Bool × FlowControl :=
  if state.curState = .pause then (false, state)
  else
    let partitions := state.assignment
    (true, { state with paused := state.paused ++ partitions, curState := .pause })

/-- `ExampleRebalanceCb::rebalance_cb`.  A newly assigned partition starts to fetch; `kept` are the
    assigned ones that stay in the assignment and whose pause librdkafka keeps. -/
def rebalanceCb (state : FlowControl) (err : RebalanceError) (partitions kept : List TopicPartition) :
    FlowControl :=
  if err = .assignPartitions then { state with assignment := partitions, paused := kept }
  else { state with assignment := [], paused := [] }

end FlowControl

inductive FlowLabel where
  | pause
  | resume
  | rebalanceCb (err : RebalanceError) (partitions kept : List TopicPartition)
  deriving DecidableEq, Repr

def FlowControl.step (state : FlowControl) : FlowLabel → Option FlowControl
  | .pause => some state.pause.2
  | .resume => some state.resume.2
  | .rebalanceCb err partitions kept =>
    if kept ⊆ partitions ∧ kept ⊆ state.assignment ∧ kept ⊆ state.paused then
      some (state.rebalanceCb err partitions kept)
    else none

/-- The calls of one `KafkaConsumerImp` after `subscribe`. -/
def flowMachine : Machine FlowControl FlowLabel where
  start := {}
  step := FlowControl.step

/-- What `CConsumeProcess::Run` calls at the end of a round. -/
def flowControl (maxCacheSize totalCacheSize : Int) : FlowLabel :=
  if maxCacheSize ≤ totalCacheSize then .pause else .resume

/-! ## The flag and the partitions -/

/-- What the flag says is so. -/
structure FlowControl.Honest (state : FlowControl) : Prop where
  pause : state.curState = .pause → ∀ partition ∈ state.assignment, partition ∈ state.paused
  run : state.curState = .run → ∀ partition ∈ state.assignment, partition ∉ state.paused

/-- A partition that is assigned while the flag says paused is one whose pause is kept. -/
def FlowControl.KeepsPause (state : FlowControl) : FlowLabel → Prop
  | .rebalanceCb .assignPartitions partitions kept =>
    state.curState = .pause → ∀ partition ∈ partitions, partition ∈ kept
  | _ => True

instance (state : FlowControl) : ∀ label, Decidable (state.KeepsPause label)
  | .pause => isTrue trivial
  | .resume => isTrue trivial
  | .rebalanceCb .assignPartitions partitions kept =>
    inferInstanceAs (Decidable (state.curState = .pause → ∀ partition ∈ partitions, partition ∈ kept))
  | .rebalanceCb .revokePartitions _ _ => isTrue trivial
  | .rebalanceCb .other _ _ => isTrue trivial

namespace FlowControl

variable {state next : FlowControl}

theorem Honest.start : Honest {} where
  pause paused := by cases paused
  run _ partition assigned := by cases assigned

/-- Nothing is assigned, so the flag says nothing. -/
theorem Honest.of_unassigned (unassigned : state.assignment = []) : state.Honest := by
  constructor <;> simp [unassigned]

theorem Honest.afterPause (honest : state.Honest) : state.pause.2.Honest := by
  unfold FlowControl.pause
  by_cases already : state.curState = .pause
  · rw [if_pos already]
    exact honest
  · rw [if_neg already]
    constructor
    · intro _ partition assigned
      exact List.mem_append_right _ assigned
    · intro running
      cases running

theorem Honest.afterResume (honest : state.Honest) : state.resume.2.Honest := by
  unfold FlowControl.resume
  by_cases already : state.curState = .run
  · rw [if_pos already]
    exact honest
  · rw [if_neg already]
    constructor
    · intro paused
      cases paused
    · intro _ partition assigned
      simp [assigned]

/-- An assignment keeps the flag honest exactly when it brings in no fetching partition behind it. -/
theorem honest_assign (honest : state.Honest) {partitions kept : List TopicPartition}
    (wasAssigned : kept ⊆ state.assignment) (wasPaused : kept ⊆ state.paused) :
    (state.rebalanceCb .assignPartitions partitions kept).Honest ↔
      (state.curState = .pause → ∀ partition ∈ partitions, partition ∈ kept) := by
  simp only [rebalanceCb, if_true]
  constructor
  · intro after
    exact after.pause
  · intro keeps
    constructor
    · exact keeps
    · -- while running nothing was paused, so no pause can be kept
      intro running partition _ isKept
      exact honest.run running partition (wasAssigned isKept) (wasPaused isKept)

/-- What one call does to the flag, and exactly when. -/
theorem honest_step {label : FlowLabel} (honest : state.Honest)
    (stepped : state.step label = some next) : next.Honest ↔ state.KeepsPause label := by
  cases label with
  | pause =>
    cases stepped
    simp [KeepsPause, honest.afterPause]
  | resume =>
    cases stepped
    simp [KeepsPause, honest.afterResume]
  | rebalanceCb err partitions kept =>
    unfold FlowControl.step at stepped
    dsimp only at stepped
    by_cases enabled : kept ⊆ partitions ∧ kept ⊆ state.assignment ∧ kept ⊆ state.paused
    · rw [if_pos enabled] at stepped
      cases stepped
      cases err with
      | assignPartitions => exact honest_assign honest enabled.2.1 enabled.2.2
      | revokePartitions => simp [KeepsPause, Honest.of_unassigned, rebalanceCb]
      | other => simp [KeepsPause, Honest.of_unassigned, rebalanceCb]
    · rw [if_neg enabled] at stepped
      cases stepped

end FlowControl

/-- The flag is honest in every state of a run exactly when no step of it assigns a fetching
    partition while the flag says paused. -/
theorem pause_honest {labels : List FlowLabel} {final : FlowControl}
    (ran : flowMachine.run flowMachine.start labels = some final) :
    flowMachine.Along FlowControl.Honest flowMachine.start labels ↔
      flowMachine.Meets FlowControl.KeepsPause flowMachine.start labels :=
  Machine.along_iff_meets (fun _ _ _ honest stepped => FlowControl.honest_step honest stepped) .start ran

/-- A partition is revoked while paused, and assigned again after the consumer has resumed. -/
theorem pause_honest_revokedWhilePaused :
    flowMachine.Along FlowControl.Honest flowMachine.start
      [.rebalanceCb .assignPartitions [⟨"event", 0⟩] [], .pause,
        .rebalanceCb .revokePartitions [⟨"event", 0⟩] [], .resume,
        .rebalanceCb .assignPartitions [⟨"event", 1⟩] []] :=
  (pause_honest rfl).mpr (by decide)

/-- After a pause before the first assignment the partition fetches, and another pause does
    nothing about it. -/
theorem pause_dishonest : ∃ state,
    flowMachine.run flowMachine.start [.pause, .rebalanceCb .assignPartitions [⟨"event", 0⟩] [], .pause] =
      some state ∧ state.curState = .pause ∧ state.paused = [] ∧ ¬ state.Honest := by
  refine ⟨_, rfl, rfl, rfl, fun honest => ?_⟩
  have paused := honest.pause rfl ⟨"event", 0⟩ (by decide)
  cases paused

/-- A full cache stops every assigned partition in a run that keeps the flag honest. -/
theorem backpressure {labels : List FlowLabel} {final : FlowControl} {maxCacheSize totalCacheSize : Int}
    (full : maxCacheSize ≤ totalCacheSize)
    (ran : flowMachine.run flowMachine.start (labels ++ [flowControl maxCacheSize totalCacheSize]) =
      some final)
    (meets : flowMachine.Meets FlowControl.KeepsPause flowMachine.start labels) :
    ∀ partition ∈ final.assignment, partition ∈ final.paused := by
  obtain ⟨before, ranBefore, last⟩ := Machine.run_append_eq_some ran
  have honest : before.Honest := by
    refine Machine.run_invariant_of_meets ?_ .start meets ranBefore
    intro state label next honest keeps stepped
    exact (FlowControl.honest_step honest stepped).mpr keeps
  simp only [flowControl, if_pos full] at last
  cases last
  apply honest.afterPause.pause
  unfold FlowControl.pause
  by_cases already : before.curState = .pause
  · rw [if_pos already]
    exact already
  · rw [if_neg already]

end XBusiness.Consumer
