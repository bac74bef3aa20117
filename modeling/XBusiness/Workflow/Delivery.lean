import XBusiness.Lib.CommitLog
import XBusiness.Lib.Refinement
import XBusiness.Consumer.Restart
import XBusiness.Workflow.PoolSafety

/-! # Delivery of the messages to a group of processes

The processes of the service share a consumer group: a broker keeps the messages of each partition of a
topic at their offsets, a process that is assigned a partition reads it from the committed offset on, and
`do_something` commits the offsets.  `groupMachine` runs any number of processes, each of them a
`poolMachine`, with assignments that move between them, processes that end at any moment and start again
empty, and commits whose answer says nothing.

* `PoolMoves` / `poolMoves_of_step` — what a step of the pool does to its managers and to the messages it
  has dealt with.
* `MemberSafe` — a process holds or has settled everything below its positions.
* `group_simulates` — the group is one log that is committed behind what is settled.
* `delivered_at_least_once` — no message below a committed offset is lost.
-/

namespace XBusiness

open Interaction
open Consumer (Owner PartitionCall PartitionLabel PartitionProg PartitionState ConsumerState Message
  Partition NodeState HandedOut readMessage readMessage_msg)

/-! ## The brokers and the group -/

/-- A partition of a topic. -/
abbrev TopicPartition := String × Int

def topicPartition (msg : Message) : TopicPartition := (msg.topic, msg.partition)

/-- What the brokers keep: the payload at each offset, and the offset at which the group starts, the
    earliest one. -/
structure Brokers where
  payload : TopicPartition → Int → Option String
  start : TopicPartition → Int

def Brokers.log (brokers : Brokers) : CommitLog Message TopicPartition where
  has msg := brokers.payload (topicPartition msg) msg.offset = some msg.payload
  place := topicPartition
  offset := Message.offset
  start := brokers.start

/-- A process of the service, and the next offset its consumer reads in each partition it is assigned. -/
structure GroupMember where
  pool : PoolState := {}
  position : TopicPartition → Option Int := fun _ => none

/-- `ended` are the messages that a process had dealt with before it ended. -/
structure GroupState where
  members : Nat → GroupMember := fun _ => {}
  committed : TopicPartition → Int
  ended : List Message := []

/-- `assign` and `unassign` are what `rebalance_cb` does with a partition, `consume` is one round of
    `threadFun`, `pool` any other step of a process, and `crash` its end.  A commit that is reported
    as failed may have been `performed`. -/
inductive GroupLabel where
  | assign (member : Nat) (partition : TopicPartition)
  | unassign (member : Nat) (partition : TopicPartition)
  | consume (member : Nat) (msg : Message)
  | pool (member : Nat) (label : PoolLabel) (performed : Bool)
  | crash (member : Nat)

namespace PoolState

/-- The Kafka thread is between two messages. -/
def isReceiving (state : PoolState) : Bool :=
  state.delivering.all fun partition => (state.manager partition).consumer.isNone

/-- The messages that were rejected, or whose session has executed `Final`. -/
def verdicts (state : PoolState) : List Message := state.marked.map PmPtr.msg

/-- The message whose commit is the step. -/
def committing (state : PoolState) : PoolLabel → Option (Message × Bool)
  | .manager partition (.advance .scanner answer) =>
    match (state.manager partition).scanner with
    | some (.call (.commitSync (some node)) _) =>
      ((state.manager partition).world.messages[node]?).map fun msg =>
        (msg, answer (.commitSync (some node)))
    | _ => none
  | _ => none

end PoolState

namespace GroupMember

/-- One round of `threadFun`: the next message behind the position, which goes to `process` unless it
    is empty. -/
def consume (env : Env) (commitNum : Int) (brokers : Brokers) (member : GroupMember) (msg : Message) :
    Option GroupMember :=
  (member.position (topicPartition msg)).bind fun position =>
    if brokers.payload (topicPartition msg) msg.offset = some msg.payload ∧ position ≤ msg.offset ∧
        (∀ step ∈ List.range (msg.offset - position).toNat,
          brokers.payload (topicPartition msg) (position + step) = none) ∧
        member.pool.isReceiving then
      let member := { member with
        position := Function.update member.position (topicPartition msg) (some (msg.offset + 1)) }
      if msg.payload = "" then
        some member
      else
        (member.pool.process env.text commitNum msg).map fun pool => { member with pool := pool }
    else
      none

end GroupMember

namespace GroupState

def setMember (state : GroupState) (member : Nat) (after : GroupMember) : GroupState :=
  { state with members := Function.update state.members member after }

/-- A step of a process; a successful `commitSync` of a message moves the group behind its offset. -/
def stepPool (env : Env) (commitNum : Int) (workerNum maxTaskNum : Nat) (state : GroupState)
    (member : Nat) (label : PoolLabel) (performed : Bool) : Option GroupState :=
  let self := state.members member
  (self.pool.step env commitNum workerNum maxTaskNum label).map fun pool =>
    let after := state.setMember member { self with pool := pool }
    match self.pool.committing label with
    | some (msg, succeeded) =>
      if succeeded || performed then
        { after with committed := Function.update state.committed (topicPartition msg) (msg.offset + 1) }
      else
        after
    | none => after

def step (env : Env) (commitNum : Int) (workerNum maxTaskNum : Nat) (brokers : Brokers)
    (state : GroupState) : GroupLabel → Option GroupState
  | .assign member partition =>
    let self := state.members member
    some (state.setMember member { self with
      position := Function.update self.position partition (some (state.committed partition)) })
  | .unassign member partition =>
    let self := state.members member
    some (state.setMember member { self with position := Function.update self.position partition none })
  | .consume member msg =>
    ((state.members member).consume env commitNum brokers msg).map (state.setMember member)
  | .pool _ (.process _) _ => none
  | .pool member label performed => state.stepPool env commitNum workerNum maxTaskNum member label performed
  | .crash member =>
    some { state.setMember member {} with ended := state.ended ++ (state.members member).pool.verdicts }

end GroupState

/-- The group before any message was committed. -/
def groupMachine (env : Env) (commitNum : Int) (workerNum maxTaskNum : Nat) (brokers : Brokers) :
    Machine GroupState GroupLabel where
  start := { committed := brokers.start }
  step := GroupState.step env commitNum workerNum maxTaskNum brokers

/-- `threadFun` and `process` drop the message: it is empty, or has no message id that can be read. -/
def skipped (env : Env) : Set Message := { msg | msg.payload = "" ∨ readMessage env.text msg = none }

/-- The message was dropped, rejected by `handle`, or its session has executed `Final`, in a process
    that may have ended since. -/
def GroupState.settled (env : Env) (state : GroupState) : Set Message :=
  { msg | msg ∈ skipped env ∨ msg ∈ state.ended ∨
    ∃ member, msg ∈ (state.members member).pool.verdicts }

/-! ## What a step of a manager does to its messages -/

section Managers

variable {commitNum : Int} {state next : PartitionState} {label : PartitionLabel}

theorem partition_messages_grow (stepped : state.step commitNum label = some next) :
    state.world.messages <+: next.world.messages := by
  cases Consumer.partitionStep_of_step stepped with
  | finish node => exact (Partition.messages_setState _ _ _) ▸ List.prefix_rfl
  | consumerCall answer running effect | scannerCall answer running effect =>
    have messages := PartitionState.exec_messages effect
    dsimp only at messages ⊢
    rw [messages]
    exact List.prefix_append _ _
  | _ => exact List.prefix_rfl

/-- A manager stays as it is, or takes a step other than the arrival of a message. -/
inductive ManagerMove (commitNum : Int) (before after : PartitionState) : Prop
  | kept (same : after = before)
  | step (label : PartitionLabel) (own : ∀ data, label ≠ .emplaceBack data)
      (stepped : before.step commitNum label = some after)

theorem ManagerMove.messages (move : ManagerMove commitNum state next) :
    state.world.messages <+: next.world.messages := by
  cases move with
  | kept same => exact same ▸ List.prefix_rfl
  | step label _ stepped => exact partition_messages_grow stepped

theorem ManagerMove.holding (move : ManagerMove commitNum state next) : state.holding ⊆ next.holding := by
  cases move with
  | kept same => exact same ▸ List.Subset.refl _
  | step label _ stepped => exact PartitionState.step_holding stepped

end Managers

/-! ## What a step of the pool does -/

/-- What a step of the pool does to the managers, the nodes handed out and the nodes that are done. -/
structure PoolMoves (commitNum : Int) (state next : PoolState) : Prop where
  managers : ∀ partition, ManagerMove commitNum (state.manager partition) (next.manager partition)
  handled : ∀ data ∈ next.handled, data ∈ state.handled ∨
    (state.manager data.partition).world.messages[data.node]? = some data.msg
  marked : state.marked ⊆ next.marked

section PoolSteps

variable {env : Env} {commitNum : Int} {workerNum maxTaskNum : Nat} {state next : PoolState}

theorem managerMoves_update {partition : Int} {manager : PartitionState}
    (moved : ManagerMove commitNum (state.manager partition) manager)
    (managers : next.consumer.managers = Function.update state.consumer.managers partition manager)
    (other : Int) : ManagerMove commitNum (state.manager other) (next.manager other) := by
  by_cases same : other = partition
  · subst same
    rw [PoolState.manager, PoolState.manager, managers, Function.update_self]
    exact moved
  · refine .kept ?_
    rw [PoolState.manager, PoolState.manager, managers, Function.update_of_ne same]

/-- A step that leaves the managers alone. -/
theorem PoolMoves.aside (managers : next.consumer.managers = state.consumer.managers)
    (handled : next.handled = state.handled) (marked : state.marked ⊆ next.marked) :
    PoolMoves commitNum state next where
  managers partition := .kept (by rw [PoolState.manager, PoolState.manager, managers])
  handled _ mem := .inl (handled ▸ mem)
  marked := marked

/-- A step of one manager. -/
theorem PoolMoves.update {partition : Int} {manager : PartitionState}
    (moved : ManagerMove commitNum (state.manager partition) manager)
    (managers : next.consumer.managers = Function.update state.consumer.managers partition manager)
    (handled : next.handled = state.handled) (marked : state.marked ⊆ next.marked) :
    PoolMoves commitNum state next where
  managers := managerMoves_update moved managers
  handled _ mem := .inl (handled ▸ mem)
  marked := marked

theorem managerMove_finish (manager : PartitionState) (node : Nat) :
    ManagerMove commitNum manager { manager with world := manager.world.setState node .done } :=
  .step (.finish node) (fun _ impossible => by cases impossible) rfl

theorem poolMoves_of_effect {request : FlowCall} {answer : request.Answer}
    (effect : PoolState.Effect state request answer next) : PoolMoves commitNum state next := by
  cases effect with
  | finalMarks =>
    refine .update (managerMove_finish _ _) rfl rfl ?_
    exact List.append_subset.mpr ⟨List.subset_append_left _ _,
      List.subset_append_of_subset_right _ (List.filterMap_subset _ (List.subset_append_left _ _))⟩
  | storeDone =>
    refine .update (managerMove_finish _ _) rfl rfl ?_
    exact List.append_subset.mpr ⟨List.subset_append_of_subset_left _ (List.subset_append_left _ _),
      List.subset_append_right _ _⟩
  | final =>
    refine .aside rfl rfl ?_
    exact List.append_subset.mpr ⟨List.subset_append_left _ _,
      List.subset_append_of_subset_right _ (List.filterMap_subset _ (List.subset_append_left _ _))⟩
  | pushMsg | sendRequest | destroy | makeShared | outside => exact .aside rfl rfl (List.Subset.refl _)

theorem poolMoves_of_step {label : PoolLabel} (own : ∀ msg, label ≠ .process msg)
    (stepped : state.step env commitNum workerNum maxTaskNum label = some next) :
    PoolMoves commitNum state next := by
  cases PoolState.step_cases stepped with
  | @process msg => exact absurd rfl (own msg)
  | @manager partition label manager isOwn moved =>
    refine .update (.step label ?_ moved) rfl rfl (List.Subset.refl _)
    rintro data rfl
    cases isOwn
  | handle node msg called found =>
    refine ⟨fun _ => .kept rfl, ?_, List.Subset.refl _⟩
    intro data mem
    cases List.mem_append.mp mem with
    | inl old => exact .inl old
    | inr last =>
      rw [List.mem_singleton.mp last]
      exact .inr found
  | get | respond | returns => exact .aside rfl rfl (List.Subset.refl _)
  | handled thread accepted owner data manager found returned role moved =>
    exact .update (.step _ (fun _ impossible => by cases impossible) moved) rfl rfl (List.Subset.refl _)
  | calls thread request rest given result found calling executed =>
    have moves : PoolMoves commitNum state result := poolMoves_of_effect (PoolState.effect_of_exec executed)
    exact ⟨moves.managers, moves.handled, moves.marked⟩

end PoolSteps

/-! ## What a process holds -/

section Members

variable {env : Env} {commitNum : Int} {workerNum maxTaskNum : Nat}
variable {log : CommitLog Message TopicPartition} {settled more : Set Message}

/-- A manager may take a message once everything before it in its partition is settled or taken. -/
def Follows (log : CommitLog Message TopicPartition) (settled : Set Message) (messages : List Message)
    (msg : Message) : Prop :=
  log.has msg ∧ log.Covered settled messages (log.place msg) (log.offset msg)

theorem Follows.grow {messages : List Message} {msg : Message} (follows : Follows log settled messages msg)
    (grown : settled ⊆ more) : Follows log more messages msg :=
  ⟨follows.1, follows.2.grow grown⟩

/-- The messages of a manager are from the log, in its order. -/
structure ManagerSafe (log : CommitLog Message TopicPartition) (settled : Set Message)
    (manager : PartitionState) : Prop where
  safe : manager.Safe (Follows log settled)
  inOrder : log.InOrder settled manager.world.messages
  has : ∀ msg ∈ manager.world.messages, log.has msg

theorem ManagerSafe.start : ManagerSafe log settled {} where
  safe := Consumer.partition_start_safe _
  inOrder := .nil
  has := by
    intro msg mem
    cases mem

theorem ManagerSafe.grow {manager : PartitionState} (managerSafe : ManagerSafe log settled manager)
    (grown : settled ⊆ more) : ManagerSafe log more manager where
  safe := managerSafe.safe.imp fun _ _ follows => follows.grow grown
  inOrder := managerSafe.inOrder.grow grown
  has := managerSafe.has

theorem ManagerSafe.step {manager next : PartitionState} {label : PartitionLabel}
    (managerSafe : ManagerSafe log settled manager)
    (accepted : ∀ data, label = .emplaceBack data → Follows log settled manager.world.messages data.msg)
    (stepped : manager.step commitNum label = some next) : ManagerSafe log settled next := by
  have safe := Consumer.partition_step_safe managerSafe.safe accepted stepped
  cases Consumer.partition_step_cases managerSafe.safe stepped with
  | append data follows messages =>
    refine ⟨safe, ?_, ?_⟩
    · rw [messages]
      exact managerSafe.inOrder.append follows.2
    · rw [messages]
      intro msg mem
      cases List.mem_append.mp mem with
      | inl old => exact managerSafe.has msg old
      | inr last => exact (List.mem_singleton.mp last) ▸ follows.1
  | kept messages | commit _ _ _ _ _ _ _ messages | remove _ _ _ _ _ messages =>
    exact ⟨safe, messages ▸ managerSafe.inOrder, messages ▸ managerSafe.has⟩

theorem ManagerSafe.move {manager next : PartitionState} (managerSafe : ManagerSafe log settled manager)
    (move : ManagerMove commitNum manager next) : ManagerSafe log settled next := by
  cases move with
  | kept same => exact same ▸ managerSafe
  | step label own stepped => exact managerSafe.step (fun data arrives => absurd arrives (own data)) stepped

/-- The nodes of a process carry the messages of its managers, and everything below a position of its
    consumer is settled or held by the manager of the partition. -/
structure MemberSafe (log : CommitLog Message TopicPartition) (settled : Set Message)
    (member : GroupMember) : Prop where
  pool : PoolState.PoolInv member.pool
  handled : ∀ data ∈ member.pool.handled,
    (member.pool.manager data.partition).world.messages[data.node]? = some data.msg
  managers : ∀ partition, ManagerSafe log settled (member.pool.manager partition)
  position : ∀ partition position, member.position partition = some position →
    log.Covered settled (member.pool.manager partition.2).holding partition position

theorem MemberSafe.start : MemberSafe log settled {} where
  pool := .start
  handled := by
    intro data mem
    cases mem
  managers _ := .start
  position := by
    intro partition position none
    cases none

theorem MemberSafe.grow {member : GroupMember} (memberSafe : MemberSafe log settled member)
    (grown : settled ⊆ more) : MemberSafe log more member where
  pool := memberSafe.pool
  handled := memberSafe.handled
  managers partition := (memberSafe.managers partition).grow grown
  position partition position known := (memberSafe.position partition position known).grow grown

/-- The position in one partition changes. -/
theorem MemberSafe.seek {member : GroupMember} (memberSafe : MemberSafe log settled member)
    {partition : TopicPartition} {position : Option Int}
    (covered : ∀ bound, position = some bound →
      log.Covered settled (member.pool.manager partition.2).holding partition bound) :
    MemberSafe log settled
      { member with position := Function.update member.position partition position } where
  pool := memberSafe.pool
  handled := memberSafe.handled
  managers := memberSafe.managers
  position other bound known := by
    by_cases same : other = partition
    · subst same
      exact covered bound (by simpa using known)
    · exact memberSafe.position other bound (by simpa [Function.update_of_ne same] using known)

theorem messages_getElem?_of_prefix {before after : List Message} (grown : before <+: after) {node : Nat}
    {msg : Message} (found : before[node]? = some msg) : after[node]? = some msg := by
  obtain ⟨rest, rfl⟩ := grown
  rw [List.getElem?_append_left (List.getElem?_eq_some_iff.mp found).1]
  exact found

/-- A step of the process other than the arrival of a message. -/
theorem MemberSafe.move {member : GroupMember} {pool : PoolState} {label : PoolLabel}
    (memberSafe : MemberSafe log settled member) (own : ∀ msg, label ≠ .process msg)
    (stepped : member.pool.step env commitNum workerNum maxTaskNum label = some pool) :
    MemberSafe log settled { member with pool := pool } := by
  have moves := poolMoves_of_step own stepped
  refine ⟨(PoolState.poolInv_step memberSafe.pool stepped).1, ?_, ?_, ?_⟩
  · intro data mem
    apply messages_getElem?_of_prefix (moves.managers data.partition).messages
    cases moves.handled data mem with
    | inl old => exact memberSafe.handled data old
    | inr new => exact new
  · exact fun partition => (memberSafe.managers partition).move (moves.managers partition)
  · intro partition position known
    refine (memberSafe.position partition position known).mono (Set.Subset.refl _) ?_
    exact fun msg mem => .inr ((moves.managers partition.2).holding mem)

/-- What `process` does with a message. -/
theorem process_cases {text : JsonText} {state next : PoolState} {msg : Message}
    (processed : state.process text commitNum msg = some next) :
    next.handled = state.handled ∧ next.marked = state.marked ∧
      (readMessage text msg = none ∧ next.consumer.managers = state.consumer.managers ∨
        ∃ data manager, data.msg = msg ∧
          (state.manager msg.partition).step commitNum (.emplaceBack data) = some manager ∧
          next.consumer.managers = Function.update state.consumer.managers msg.partition manager) := by
  simp only [PoolState.process, Option.ite_none_right_eq_some, Option.map_eq_some_iff] at processed
  obtain ⟨-, consumer, processed, rfl⟩ := processed
  simp only [ConsumerState.process] at processed
  split at processed
  · next unread =>
    cases processed
    exact ⟨rfl, rfl, .inl ⟨unread, rfl⟩⟩
  · next data read =>
    simp only [Option.map_eq_some_iff] at processed
    obtain ⟨manager, emplaced, rfl⟩ := processed
    exact ⟨rfl, rfl, .inr ⟨data, manager, readMessage_msg read, emplaced, rfl⟩⟩

end Members

/-! ## Reading a partition -/

section Reading

variable {env : Env} {commitNum : Int} {workerNum maxTaskNum : Nat} {brokers : Brokers}
variable {settled : Set Message} {member after : GroupMember} {msg : Message}

/-- There is one message at an offset. -/
theorem brokers_one {other entry : Message} (hasOther : brokers.log.has other)
    (has : brokers.log.has entry) (place : brokers.log.place other = brokers.log.place entry)
    (offset : brokers.log.offset other = brokers.log.offset entry) : other = entry := by
  simp only [Brokers.log] at hasOther has place offset
  rw [place, offset, has] at hasOther
  cases other
  cases entry
  simp_all [topicPartition]

/-- The message is the only one that the position passes. -/
theorem covered_passed {held : List Message} (has : brokers.log.has msg)
    (covered : brokers.log.Covered settled held (topicPartition msg) msg.offset)
    (taken : msg ∈ settled ∨ msg ∈ held) :
    brokers.log.Covered settled held (topicPartition msg) (msg.offset + 1) := by
  refine covered.raise fun other hasOther own low high => ?_
  obtain rfl : other = msg := brokers_one hasOther has own (by simp only [Brokers.log] at *; omega)
  exact taken

/-- `process` drops the message. -/
theorem MemberSafe.drop (memberSafe : MemberSafe brokers.log settled member) {pool : PoolState}
    (processed : member.pool.process env.text commitNum msg = some pool)
    (managers : pool.consumer.managers = member.pool.consumer.managers) :
    MemberSafe brokers.log settled { member with pool := pool } := by
  have same : ∀ partition, pool.manager partition = member.pool.manager partition := by
    intro partition
    rw [PoolState.manager, PoolState.manager, managers]
  refine ⟨(PoolState.poolInv_process memberSafe.pool processed).1, ?_, ?_, ?_⟩
  · simp only [(process_cases processed).1, same]
    exact memberSafe.handled
  · simp only [same]
    exact memberSafe.managers
  · simp only [same]
    exact memberSafe.position

/-- `process` hands the message to the manager of its partition. -/
theorem MemberSafe.emplace (memberSafe : MemberSafe brokers.log settled member) {pool : PoolState}
    {data : Consumer.PmData} {manager : PartitionState} (has : brokers.log.has data.msg)
    (covered : brokers.log.Covered settled (member.pool.manager data.msg.partition).holding
      (topicPartition data.msg) data.msg.offset)
    (processed : member.pool.process env.text commitNum data.msg = some pool)
    (emplaced : (member.pool.manager data.msg.partition).step commitNum (.emplaceBack data) = some manager)
    (managers : pool.consumer.managers =
      Function.update member.pool.consumer.managers data.msg.partition manager) :
    MemberSafe brokers.log settled { member with pool := pool } := by
  have own : pool.manager data.msg.partition = manager := by
    rw [PoolState.manager, managers, Function.update_self]
  have others : ∀ other, other ≠ data.msg.partition → pool.manager other = member.pool.manager other := by
    intro other different
    rw [PoolState.manager, PoolState.manager, managers, Function.update_of_ne different]
  refine ⟨(PoolState.poolInv_process memberSafe.pool processed).1, ?_, ?_, ?_⟩
  · intro node mem
    rw [(process_cases processed).1] at mem
    have carried := memberSafe.handled node mem
    by_cases same : node.partition = data.msg.partition
    · rw [same] at carried
      dsimp only
      rw [same, own]
      exact messages_getElem?_of_prefix (partition_messages_grow emplaced) carried
    · dsimp only
      rw [others _ same]
      exact carried
  · intro partition
    by_cases same : partition = data.msg.partition
    · subst same
      dsimp only
      rw [own]
      refine (memberSafe.managers _).step ?_ emplaced
      rintro _ ⟨⟩
      -- the thread of the manager is free, so what it holds is what it has appended
      cases Consumer.partitionStep_of_step emplaced with
      | emplaceBack _ idle =>
        rw [PartitionState.holding_returned idle] at covered
        exact ⟨has, covered⟩
    · dsimp only
      rw [others partition same]
      exact memberSafe.managers partition
  · intro partition position known
    have covered := memberSafe.position partition position known
    by_cases same : partition.2 = data.msg.partition
    · rw [same] at covered
      dsimp only
      rw [same, own]
      exact covered.mono (Set.Subset.refl _) fun msg mem => .inr (PartitionState.step_holding emplaced mem)
    · dsimp only
      rw [others _ same]
      exact covered

/-- A position and what the manager of its partition holds, after `process` has taken the next message. -/
theorem MemberSafe.process (memberSafe : MemberSafe brokers.log settled member) {pool : PoolState}
    (skip : skipped env ⊆ settled) (has : brokers.log.has msg)
    (covered : brokers.log.Covered settled (member.pool.manager msg.partition).holding
      (topicPartition msg) msg.offset)
    (processed : member.pool.process env.text commitNum msg = some pool) :
    MemberSafe brokers.log settled { member with
      pool := pool
      position := Function.update member.position (topicPartition msg) (some (msg.offset + 1)) } := by
  obtain ⟨-, -, ⟨unread, managers⟩ | ⟨data, manager, rfl, emplaced, managers⟩⟩ := process_cases processed
  · refine (memberSafe.drop processed managers).seek ?_
    rintro _ ⟨⟩
    rw [show pool.manager (topicPartition msg).2 = member.pool.manager msg.partition from
      congrFun managers msg.partition]
    exact covered_passed has covered (.inl (skip (.inr unread)))
  · refine (memberSafe.emplace has covered processed emplaced managers).seek ?_
    rintro _ ⟨⟩
    have own : pool.manager (topicPartition data.msg).2 = manager := by
      rw [topicPartition, PoolState.manager, managers, Function.update_self]
    rw [own]
    refine covered_passed has (covered.mono (Set.Subset.refl _) ?_)
      (.inr (PartitionState.emplaceBack_holding emplaced))
    exact fun msg mem => .inr (PartitionState.step_holding emplaced mem)

/-- One round of `threadFun`. -/
theorem MemberSafe.consume (memberSafe : MemberSafe brokers.log settled member)
    (skip : skipped env ⊆ settled) (consumed : member.consume env commitNum brokers msg = some after) :
    MemberSafe brokers.log settled after ∧ after.pool.marked = member.pool.marked := by
  simp only [GroupMember.consume, Option.bind_eq_some_iff, Option.ite_none_right_eq_some] at consumed
  obtain ⟨position, known, ⟨has, le, none, -⟩, consumed⟩ := consumed
  -- no message lies between the position and this one
  have covered : brokers.log.Covered settled (member.pool.manager msg.partition).holding
      (topicPartition msg) msg.offset := by
    refine (memberSafe.position _ position known).raise fun other hasOther own low high => ?_
    simp only [Brokers.log] at hasOther own low high
    have gap := none (other.offset - position).toNat (List.mem_range.mpr (by omega))
    rw [Int.toNat_of_nonneg (by omega), add_sub_cancel, ← own, hasOther] at gap
    cases gap
  split at consumed
  · next empty =>
    cases consumed
    refine ⟨memberSafe.seek ?_, rfl⟩
    rintro _ ⟨⟩
    exact covered_passed has covered (.inl (skip (.inl empty)))
  · simp only [Option.map_eq_some_iff] at consumed
    obtain ⟨pool, processed, rfl⟩ := consumed
    exact ⟨memberSafe.process skip has covered processed, (process_cases processed).2.1⟩

/-! ## Committing an offset -/

theorem PoolState.PoolInv.marked_handled {state : PoolState} (inv : PoolState.PoolInv state) {data : PmPtr}
    (mem : data ∈ state.marked) : data ∈ state.handled := by
  cases List.mem_append.mp mem with
  | inl rejected =>
    have nodes := inv.accounted.nodes data
    have positive := List.count_pos_iff.mpr rejected
    exact List.count_pos_iff.mp (by omega)
  | inr final =>
    obtain ⟨entry, mem, own⟩ := List.mem_filterMap.mp final
    have sessions := inv.accounted.sessions entry
    have positive := List.count_pos_iff.mpr mem
    have made : entry ∈ state.made := List.count_pos_iff.mp (by omega)
    exact inv.accounted.handled_of_made (List.mem_filterMap.mpr ⟨entry, made, own⟩)

/-- A node of a manager that is done carries a message that was dealt with. -/
theorem MemberSafe.verdict {log : CommitLog Message TopicPartition} (memberSafe : MemberSafe log settled member)
    {partition : Int} {node : Nat} (finished : (member.pool.manager partition).world.Finished node)
    (found : (member.pool.manager partition).world.messages[node]? = some msg) :
    msg ∈ member.pool.verdicts := by
  obtain ⟨running, -, handedOut⟩ := memberSafe.pool.managed partition
  obtain ⟨data, mem, place⟩ := List.mem_map.mp ((handedOut.order.done node).mp finished.1)
  simp only [PmPtr.place, Prod.mk.injEq] at place
  obtain ⟨rfl, rfl⟩ := place
  have carried := memberSafe.handled data (memberSafe.pool.marked_handled mem)
  rw [found] at carried
  cases carried
  exact List.mem_map_of_mem mem

/-- What `do_something` commits is behind settled messages only. -/
theorem MemberSafe.commit (memberSafe : MemberSafe brokers.log settled member)
    (verdicts : ∀ msg ∈ member.pool.verdicts, msg ∈ settled) {label : PoolLabel} {succeeded : Bool}
    (committing : member.pool.committing label = some (msg, succeeded)) :
    brokers.log.Covered settled [] (topicPartition msg) (msg.offset + 1) := by
  simp only [PoolState.committing] at committing
  split at committing
  · next partition answer =>
    split at committing
    · next node rest scanning =>
      simp only [Option.map_eq_some_iff, Prod.mk.injEq] at committing
      obtain ⟨msg, found, rfl, -⟩ := committing
      have safe := memberSafe.managers partition
      obtain ⟨-, _, ⟨⟩, -, finished⟩ := (safe.safe.scanner _ scanning).called.1
      obtain ⟨bound, carried⟩ := List.getElem?_eq_some_iff.mp found
      have split : (member.pool.manager partition).world.messages =
          (member.pool.manager partition).world.messages.take node ++
            msg :: (member.pool.manager partition).world.messages.drop (node + 1) := by
        rw [← carried, List.cons_getElem_drop_succ, List.take_append_drop]
      refine safe.inOrder.commit (fun _ _ => brokers_one) split (safe.has msg (List.mem_of_getElem? found)) ?_
      intro earlier mem
      cases List.mem_append.mp mem with
      | inl before =>
        obtain ⟨index, lt, same⟩ := List.mem_take_iff_getElem.mp before
        refine verdicts _ (memberSafe.verdict (finished index (by omega)) ?_)
        exact List.getElem?_eq_some_iff.mpr ⟨by omega, same⟩
      | inr last =>
        rw [List.mem_singleton.mp last]
        exact verdicts _ (memberSafe.verdict (finished node (Nat.le_refl _)) found)
    · cases committing
  · cases committing

end Reading

/-! ## The group -/

section Group

variable {env : Env} {commitNum : Int} {workerNum maxTaskNum : Nat} {brokers : Brokers}
variable {state next : GroupState} {member : Nat} {after : GroupMember}

/-- The processes are safe, and the abstract group has settled and committed what they have. -/
structure GroupSafe (env : Env) (brokers : Brokers) (state : GroupState)
    (progress : CommitLog.Progress Message TopicPartition) : Prop where
  members : ∀ member, MemberSafe brokers.log (state.settled env) (state.members member)
  settled : progress.settled = state.settled env
  committed : progress.committed = state.committed

theorem skipped_settled (state : GroupState) : skipped env ⊆ state.settled env := fun _ => .inl

theorem verdicts_settled (state : GroupState) (member : Nat) :
    ∀ msg ∈ (state.members member).pool.verdicts, msg ∈ state.settled env :=
  fun _ mem => .inr (.inr ⟨member, mem⟩)

/-- A step of one process takes no verdict back. -/
theorem settled_subset (members : next.members = Function.update state.members member after)
    (ended : state.ended ⊆ next.ended)
    (kept : ∀ msg ∈ (state.members member).pool.verdicts, msg ∈ next.ended ∨ msg ∈ after.pool.verdicts) :
    state.settled env ⊆ next.settled env := by
  rintro msg (skip | gone | ⟨other, mem⟩)
  · exact .inl skip
  · exact .inr (.inl (ended gone))
  · by_cases same : other = member
    · subst same
      cases kept msg mem with
      | inl gone => exact .inr (.inl gone)
      | inr own => exact .inr (.inr ⟨other, by rw [members, Function.update_self]; exact own⟩)
    · exact .inr (.inr ⟨other, by rw [members, Function.update_of_ne same]; exact mem⟩)

/-- The abstract group settles what a step of one process has settled. -/
theorem GroupSafe.answer {progress : CommitLog.Progress Message TopicPartition}
    (safe : ∀ member, MemberSafe brokers.log (state.settled env) (state.members member))
    (settled : progress.settled = state.settled env) (committed : progress.committed = next.committed)
    (members : next.members = Function.update state.members member after)
    (grown : state.settled env ⊆ next.settled env)
    (memberSafe : MemberSafe brokers.log (state.settled env) after) :
    ∃ progress', (brokers.log.commitMachine (skipped env)).run progress [.settle (next.settled env)] =
      some progress' ∧ GroupSafe env brokers next progress' := by
  refine ⟨_, rfl, ?_, ?_, committed⟩
  · intro other
    rw [members]
    by_cases same : other = member
    · subst same
      rw [Function.update_self]
      exact memberSafe.grow grown
    · rw [Function.update_of_ne same]
      exact (safe other).grow grown
  · dsimp only
    rw [settled]
    exact Set.union_eq_self_of_subset_left grown

theorem verdicts_grow {pool after : PoolState} (marked : pool.marked ⊆ after.marked) {ended : List Message} :
    ∀ msg ∈ pool.verdicts, msg ∈ ended ∨ msg ∈ after.verdicts :=
  fun _ mem => .inr (List.map_subset _ marked mem)

/-- What a step of a process does to the group. -/
theorem stepPool_cases {label : PoolLabel} {performed : Bool}
    (stepped : state.step env commitNum workerNum maxTaskNum brokers (.pool member label performed) =
      some next) :
    (∀ msg, label ≠ .process msg) ∧
    ∃ pool, (state.members member).pool.step env commitNum workerNum maxTaskNum label = some pool ∧
      next.members = Function.update state.members member { state.members member with pool := pool } ∧
      next.ended = state.ended ∧
      (next.committed = state.committed ∨ ∃ msg succeeded,
        (state.members member).pool.committing label = some (msg, succeeded) ∧
        next.committed = Function.update state.committed (topicPartition msg) (msg.offset + 1)) := by
  have own : ∀ msg, label ≠ .process msg := by
    rintro msg rfl
    cases stepped
  have stepped : state.stepPool env commitNum workerNum maxTaskNum member label performed = some next := by
    cases label with
    | process msg => exact absurd rfl (own msg)
    | _ => exact stepped
  simp only [GroupState.stepPool, Option.map_eq_some_iff] at stepped
  obtain ⟨pool, moved, after⟩ := stepped
  refine ⟨own, pool, moved, ?_⟩
  split at after
  · next msg succeeded committing =>
    split at after <;> cases after
    · exact ⟨rfl, rfl, .inr ⟨msg, succeeded, committing, rfl⟩⟩
    · exact ⟨rfl, rfl, .inl rfl⟩
  · cases after
    exact ⟨rfl, rfl, .inl rfl⟩

/-- The group is one log that is read in order and committed behind what is settled. -/
theorem group_simulates (env : Env) (commitNum : Int) (workerNum maxTaskNum : Nat) (brokers : Brokers) :
    Machine.Simulates (groupMachine env commitNum workerNum maxTaskNum brokers)
      (brokers.log.commitMachine (skipped env)) (GroupSafe env brokers) where
  start := by
    refine ⟨fun _ => .start, ?_, rfl⟩
    ext msg
    constructor
    · exact .inl
    · rintro (skip | gone | ⟨member, mem⟩)
      · exact skip
      · cases gone
      · cases mem
  step := by
    intro state progress label next reachable related stepped
    obtain ⟨safe, settled, committed⟩ := related
    have behind := CommitLog.covered_of_reachable reachable
    cases label with
    | assign member partition =>
      cases stepped
      refine ⟨_, GroupSafe.answer safe settled committed rfl ?_ ((safe member).seek ?_)⟩
      · exact settled_subset rfl (List.Subset.refl _) (verdicts_grow (List.Subset.refl _))
      · rintro _ ⟨⟩
        have covered := behind partition
        rw [settled, committed] at covered
        exact covered.mono (Set.Subset.refl _) fun _ mem => absurd mem List.not_mem_nil
    | unassign member partition =>
      cases stepped
      refine ⟨_, GroupSafe.answer safe settled committed rfl ?_ ((safe member).seek ?_)⟩
      · exact settled_subset rfl (List.Subset.refl _) (verdicts_grow (List.Subset.refl _))
      · rintro _ ⟨⟩
    | consume member msg =>
      simp only [groupMachine, GroupState.step, Option.map_eq_some_iff] at stepped
      obtain ⟨after, consumed, rfl⟩ := stepped
      obtain ⟨memberSafe, marked⟩ := (safe member).consume (skipped_settled state) consumed
      refine ⟨_, GroupSafe.answer safe settled committed rfl ?_ memberSafe⟩
      exact settled_subset rfl (List.Subset.refl _) (verdicts_grow (marked ▸ List.Subset.refl _))
    | pool member label performed =>
      obtain ⟨own, pool, moved, members, ended, committing⟩ := stepPool_cases stepped
      have memberSafe := (safe member).move own moved
      have grown : state.settled env ⊆ next.settled env := by
        refine settled_subset members (ended ▸ List.Subset.refl _) ?_
        exact verdicts_grow (poolMoves_of_step own moved).marked
      cases committing with
      | inl same => exact ⟨_, GroupSafe.answer safe settled (same ▸ committed) members grown memberSafe⟩
      | inr commits =>
        -- a commit, of an offset behind settled messages only
        obtain ⟨msg, succeeded, committing, moves⟩ := commits
        have covered := (safe member).commit (verdicts_settled state member) committing
        rw [← settled] at covered
        have answered : ∃ progress', (brokers.log.commitMachine (skipped env)).run
            ⟨progress.settled, next.committed⟩ [.settle (next.settled env)] = some progress' ∧
              GroupSafe env brokers next progress' :=
          GroupSafe.answer safe settled rfl members grown memberSafe
        obtain ⟨progress', settles, related⟩ := answered
        refine ⟨[.commit (topicPartition msg) (msg.offset + 1), .settle (next.settled env)], progress', ?_,
          related⟩
        rw [Machine.run_cons]
        simp only [CommitLog.commitMachine, CommitLog.progressStep, if_pos covered, Option.bind_some,
          committed, ← moves]
        exact settles
    | crash member =>
      cases stepped
      refine ⟨_, GroupSafe.answer safe settled committed rfl ?_ .start⟩
      refine settled_subset rfl (List.subset_append_left _ _) ?_
      exact fun msg mem => .inl (List.mem_append_right _ mem)

end Group

/-! ## No message is lost -/

/-- What holds of the messages of the log in every reachable state of the group. -/
structure Delivered (env : Env) (brokers : Brokers) (state : GroupState) : Prop where
  /-- Below the committed offset every message was dropped, rejected, or brought to its `Final`. -/
  committed : ∀ msg, brokers.log.has msg → brokers.start (topicPartition msg) ≤ msg.offset →
    msg.offset < state.committed (topicPartition msg) → msg ∈ state.settled env
  /-- What a process has read of a partition assigned to it is settled, or with its manager. -/
  read : ∀ msg, brokers.log.has msg → brokers.start (topicPartition msg) ≤ msg.offset →
    ∀ member position, (state.members member).position (topicPartition msg) = some position →
      msg.offset < position → msg ∈ state.settled env ∨
        msg ∈ ((state.members member).pool.manager msg.partition).holding

theorem delivered_at_least_once (env : Env) (commitNum : Int) (workerNum maxTaskNum : Nat)
    (brokers : Brokers) (state : GroupState)
    (reachable : (groupMachine env commitNum workerNum maxTaskNum brokers).Reachable state) :
    Delivered env brokers state := by
  obtain ⟨progress, reached, safe, settled, committed⟩ :=
    (group_simulates env commitNum workerNum maxTaskNum brokers).reachable reachable
  constructor
  case committed =>
    intro msg has begun below
    rw [← committed] at below
    have covered := CommitLog.covered_of_reachable reached (topicPartition msg) msg has rfl begun below
    rw [← settled]
    exact covered.resolve_right List.not_mem_nil
  case read =>
    intro msg has begun member position known below
    exact (safe member).position _ position known msg has rfl begun below

/-- A message with an id and nothing else, which `handle` rejects. -/
def bareMessage : String := "\x7b\"msg_id\":\"m\"\x7d"

def bareEnv : Env := { poolEnv with text := tableText [(bareMessage, .object [("msg_id", .string "m")])] }

/-- Two such messages with an empty one between them. -/
def bareBrokers : Brokers where
  payload partition offset :=
    if partition = ("gzc", 0) then
      if offset = 4 ∨ offset = 6 then some bareMessage else if offset = 5 then some "" else none
    else
      none
  start _ := 4

/-- The message is read and handed to `handle`, which rejects it. -/
def readBare (member : Nat) (offset : Int) (calls : Nat) : List GroupLabel :=
  let labels : List PoolLabel :=
    List.replicate 5 (.manager 0 (.advance .consumer Consumer.acceptAll)) ++ .handle 0 .consumer ::
      poolCalls 0 calls ++ List.replicate 2 (.manager 0 (.advance .consumer Consumer.acceptAll))
  .consume member ⟨"gzc", 0, offset, bareMessage⟩ :: labels.map fun label => .pool member label false

/-- A process reads everything, commits, and ends; another one is assigned the partition. -/
def commitAndCrash : List GroupLabel :=
  .assign 0 ("gzc", 0) :: readBare 0 4 2 ++ .consume 0 ⟨"gzc", 0, 5, ""⟩ :: readBare 0 6 2 ++
    .pool 0 (.manager 0 .doSomething) false ::
    List.replicate 19 (.pool 0 (.manager 0 (.advance .scanner Consumer.acceptAll)) false) ++
    [.crash 0, .assign 1 ("gzc", 0)]

theorem delivered_at_least_once_commitAndCrash :
    ∃ state, (groupMachine bareEnv 1 1 10 bareBrokers).run (groupMachine bareEnv 1 1 10 bareBrokers).start
        commitAndCrash = some state ∧ state.committed ("gzc", 0) = 7 ∧
      (state.members 1).position ("gzc", 0) = some 7 ∧ Delivered bareEnv bareBrokers state :=
  ⟨_, rfl, rfl, rfl, delivered_at_least_once bareEnv 1 1 10 bareBrokers _ ⟨commitAndCrash, rfl⟩⟩

end XBusiness
