import XBusiness.Consumer.ConsumeProcess

/-! # Rebalances of one topic-partition

`rebalance_cb` assigns and unassigns; consumption resumes from the committed offset, while
the manager of the partition keeps its list.  `rebalanceMachine` is one topic-partition
with its manager, the position of the consumer and the offset committed for the group.

* `commits_increasing` — the offsets that `do_something` commits increase strictly along
  every run that delivers no message a second time.
* `commits_not_increasing` — a copy delivered after a rebalance is committed behind a
  later message.
-/

namespace XBusiness.Consumer

open Interaction

/-- `position` is the next offset that the assigned consumer reads, `committed` the offset
    that the group resumes from. -/
structure RebalanceState where
  manager : PartitionState := {}
  position : Option Int := none
  committed : Int

inductive RebalanceLabel where
  | assign
  | unassign
  | process (offset : Int) (payload : String)
  | manager (label : PartitionLabel)

namespace RebalanceState

/-- A successful `commitSync` of a message moves the group behind its offset. -/
def commitOffset (state : RebalanceState) : PartitionLabel → Int
  | .advance .scanner answer =>
    match state.manager.scanner with
    | some (.call (.commitSync (some node)) _) =>
      match state.manager.world.messages[node]? with
      | some msg => if answer (.commitSync (some node)) then msg.offset + 1 else state.committed
      | none => state.committed
    | _ => state.committed
  | _ => state.committed

/-- `CConsumeProcess::process` for the topic-partition, at or behind the position. -/
def process (text : JsonText) (commitNum : Int) (state : RebalanceState) (msg : Message) :
    Option RebalanceState :=
  state.position.bind fun position =>
    if position ≤ msg.offset then
      let state := { state with position := some (msg.offset + 1) }
      match readMessage text msg with
      | none => some state
      | some data =>
        (state.manager.step commitNum (.emplaceBack data)).map fun manager =>
          { state with manager := manager }
    else none

/-- `ExampleRebalanceCb::rebalance_cb` and the steps around it. -/
def step (text : JsonText) (commitNum : Int) (topic : String) (partition : Int)
    (state : RebalanceState) : RebalanceLabel → Option RebalanceState
  | .assign => some { state with position := some state.committed }
  | .unassign => some { state with position := none }
  | .process offset payload => state.process text commitNum ⟨topic, partition, offset, payload⟩
  | .manager (.emplaceBack _) => none
  | .manager label =>
    (state.manager.step commitNum label).map fun manager =>
      { state with manager := manager, committed := state.commitOffset label }

/-- The offsets of the messages that `do_something` has committed, in order. -/
def commits (state : RebalanceState) : List Int :=
  state.manager.world.commits.filterMap fun entry =>
    state.manager.world.messages[entry.1]?.map Message.offset

/-- The condition on a step: a delivered message is behind all messages accepted before. -/
def DeliversNew (state : RebalanceState) : RebalanceLabel → Prop
  | .process offset _ => ∀ earlier ∈ state.manager.world.messages, earlier.offset < offset
  | _ => True

instance (state : RebalanceState) : ∀ label, Decidable (state.DeliversNew label)
  | .process _ _ => inferInstanceAs (Decidable (∀ earlier ∈ state.manager.world.messages, _))
  | .assign | .unassign | .manager _ => inferInstanceAs (Decidable True)

end RebalanceState

/-- One topic-partition whose group resumes from `committed`. -/
def rebalanceMachine (text : JsonText) (commitNum : Int) (topic : String) (partition committed : Int) :
    Machine RebalanceState RebalanceLabel where
  start := { committed := committed }
  step := RebalanceState.step text commitNum topic partition

/-! ## Commits follow the list -/

/-- A new message is behind all accepted ones. -/
def Behind (messages : List Message) (msg : Message) : Prop :=
  ∀ earlier ∈ messages, earlier.offset < msg.offset

/-- The invariant of a manager that receives its messages in the order of their offsets. -/
structure OrderedManager (manager : PartitionState) : Prop where
  safe : manager.Safe Behind
  ordered : manager.world.messages.Pairwise fun earlier later => earlier.offset < later.offset
  commits : manager.world.commits.Pairwise fun earlier later => earlier.1 < later.1

theorem OrderedManager.start : OrderedManager {} :=
  ⟨partition_start_safe _, List.Pairwise.nil, List.Pairwise.nil⟩

theorem orderedManager_step {commitNum : Int} {manager next : PartitionState}
    {label : PartitionLabel} (ordered : OrderedManager manager)
    (accepted : ∀ data, label = .emplaceBack data → Behind manager.world.messages data.msg)
    (stepped : manager.step commitNum label = some next) : OrderedManager next := by
  have safe := partition_step_safe ordered.safe accepted stepped
  cases partition_step_cases ordered.safe stepped with
  | kept messages listData commits =>
    exact ⟨safe, messages ▸ ordered.ordered, commits ▸ ordered.commits⟩
  | append data behind messages listData commits =>
    refine ⟨safe, ?_, commits ▸ ordered.commits⟩
    rw [messages, List.pairwise_append]
    refine ⟨ordered.ordered, List.pairwise_singleton _ _, ?_⟩
    intro earlier mem last single
    rw [List.mem_singleton.mp single]
    exact behind earlier mem
  | commit node answer continuation labelled committing cleared listed messages listData commits =>
    refine ⟨safe, messages ▸ ordered.ordered, ?_⟩
    rw [commits, List.pairwise_append]
    refine ⟨ordered.commits, List.pairwise_singleton _ _, ?_⟩
    intro entry mem last single
    rw [List.mem_singleton.mp single]
    exact (cleared entry mem).2 node listed
  | remove front node result committed split messages commits =>
    exact ⟨safe, messages ▸ ordered.ordered, commits ▸ ordered.commits⟩

/-- Later positions of the accepted sequence carry larger offsets. -/
theorem OrderedManager.offset_lt {manager : PartitionState} (ordered : OrderedManager manager)
    {earlier later : Nat} {first second : Message} (lt : earlier < later)
    (foundFirst : manager.world.messages[earlier]? = some first)
    (foundSecond : manager.world.messages[later]? = some second) : first.offset < second.offset := by
  obtain ⟨boundFirst, rfl⟩ := List.getElem?_eq_some_iff.mp foundFirst
  obtain ⟨boundSecond, rfl⟩ := List.getElem?_eq_some_iff.mp foundSecond
  exact List.pairwise_iff_getElem.mp ordered.ordered earlier later boundFirst boundSecond lt

theorem OrderedManager.commits_pairwise {state : RebalanceState}
    (ordered : OrderedManager state.manager) : state.commits.Pairwise (· < ·) := by
  refine List.pairwise_filterMap.mpr (ordered.commits.imp ?_)
  intro earlier later lt first foundFirst second foundSecond
  obtain ⟨msgFirst, acceptedFirst, rfl⟩ := Option.map_eq_some_iff.mp foundFirst
  obtain ⟨msgSecond, acceptedSecond, rfl⟩ := Option.map_eq_some_iff.mp foundSecond
  exact ordered.offset_lt lt acceptedFirst acceptedSecond

def RebalanceState.Ordered (state : RebalanceState) : Prop := OrderedManager state.manager

theorem rebalance_step_ordered {text : JsonText} {commitNum : Int} {topic : String} {partition : Int}
    {state next : RebalanceState} {label : RebalanceLabel} (ordered : state.Ordered)
    (guarded : state.DeliversNew label)
    (stepped : state.step text commitNum topic partition label = some next) : next.Ordered := by
  cases label with
  | assign => cases stepped; exact ordered
  | unassign => cases stepped; exact ordered
  | process offset payload =>
    simp only [RebalanceState.step, RebalanceState.process, Option.bind_eq_some_iff,
      Option.ite_none_right_eq_some] at stepped
    obtain ⟨position, -, -, processed⟩ := stepped
    split at processed
    · cases processed
      exact ordered
    · next data read =>
      simp only [Option.map_eq_some_iff] at processed
      obtain ⟨manager, emplaced, rfl⟩ := processed
      refine orderedManager_step ordered ?_ emplaced
      rintro _ ⟨⟩
      rw [readMessage_msg read]
      exact guarded
  | manager label =>
    obtain ⟨manager, moved, rfl, running⟩ : ∃ manager,
        state.manager.step commitNum label = some manager ∧
          { state with manager := manager, committed := state.commitOffset label } = next ∧
          ∀ data, label ≠ .emplaceBack data := by
      cases label with
      | emplaceBack data => cases stepped
      | _ => simpa [RebalanceState.step] using stepped
    exact orderedManager_step ordered (fun data new => absurd new (running data)) moved

theorem commits_increasing (text : JsonText) (commitNum : Int) (topic : String)
    (partition committed : Int) (labels : List RebalanceLabel) (state : RebalanceState)
    (meets : (rebalanceMachine text commitNum topic partition committed).Meets
      RebalanceState.DeliversNew
      (rebalanceMachine text commitNum topic partition committed).start labels)
    (ran : (rebalanceMachine text commitNum topic partition committed).run
      (rebalanceMachine text commitNum topic partition committed).start labels = some state) :
    state.commits.Pairwise (· < ·) := by
  have start : (rebalanceMachine text commitNum topic partition committed).start.Ordered :=
    OrderedManager.start
  have ordered : state.Ordered := by
    refine Machine.run_invariant_of_meets ?_ start meets ran
    exact fun _ _ _ holds guarded stepped => rebalance_step_ordered holds guarded stepped
  exact ordered.commits_pairwise

/-- A message of the partition is delivered and accepted. -/
def delivered (offset : Int) : List RebalanceLabel :=
  .process offset flowPayload :: List.replicate 8 (.manager (.advance .consumer acceptAll))

/-- A pass of `do_something` up to its return. -/
def passOf (calls : Nat) : List RebalanceLabel :=
  .manager .doSomething :: List.replicate calls (.manager (.advance .scanner acceptAll))

/-- Two messages, two commits, and a rebalance that has nothing to deliver again. -/
def rebalanceBetweenCommits : List RebalanceLabel :=
  .assign :: delivered 0 ++ .manager (.finish 0) :: passOf 14 ++
    .unassign :: .assign :: delivered 1 ++ .manager (.finish 1) :: passOf 14

theorem commits_increasing_rebalanceBetweenCommits :
    ∃ state, (rebalanceMachine flowText 1 "gzc" 0 0).run (rebalanceMachine flowText 1 "gzc" 0 0).start
        rebalanceBetweenCommits = some state ∧ state.commits = [0, 1] ∧
      state.commits.Pairwise (· < ·) :=
  ⟨_, rfl, rfl, commits_increasing flowText 1 "gzc" 0 0 rebalanceBetweenCommits _ (by decide) rfl⟩

/-- Both messages are unfinished when the partition is assigned again, so the first one is
    delivered a second time; it is finished last. -/
def redelivery : List RebalanceLabel :=
  .assign :: delivered 0 ++ delivered 1 ++ .unassign :: .assign :: delivered 0 ++
    .manager (.finish 0) :: .manager (.finish 1) :: passOf 23 ++
    .manager (.finish 2) :: passOf 14

theorem commits_not_increasing :
    ∃ state, (rebalanceMachine flowText 1 "gzc" 0 0).run (rebalanceMachine flowText 1 "gzc" 0 0).start
        redelivery = some state ∧ state.commits = [1, 0] ∧ ¬ state.commits.Pairwise (· < ·) :=
  ⟨_, rfl, rfl, by decide⟩

end XBusiness.Consumer
