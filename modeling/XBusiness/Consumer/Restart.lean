import XBusiness.Consumer.ConsumeProcess

/-! # `Initialize` and `Restart` of `MsgConsumer`

The `CConsumeProcess` of `MsgConsumer` has a `KafkaConsumerImp` and a manager for each partition, and
every manager has a reference of its own to the consumer that it was made with.  `Restart` puts
another consumer in the place of the first one and leaves the managers as they are.  A consumer goes,
with its thread, when nobody refers to it any more.

* `restartMachine` — the thread that calls `Initialize` and `Restart`, beside the receive threads and
  what runs in the managers.
* `Consistent` — one receive thread, every accepted message in the manager of its partition, every
  commit on the consumer that delivered the message.
* `restart_consistent` — it holds in every run in which the consumer is replaced before a message
  comes.
* `restart_inconsistent` — after one message there are two receive threads, and the commits of the
  second go to the first.
-/

namespace XBusiness.Consumer

open Interaction

/-! ## The objects -/

/-- Where the receive thread of a consumer is: it does not run, it is in the loop of `threadFun`, in
    `process`, or in the destructors of consumers whose last reference it has given up. -/
inductive ReceivePoint where
  | absent
  | loop
  | consume
  | lookUp (data : PmData)
  | emplace (data : PmData) (manager : Nat)
  | create (data : PmData)
  | emplaceNew (data : PmData) (manager : Nat)
  | release (consumers : List Nat)
  deriving DecidableEq, Repr

/-- `KafkaConsumerImp`, with the object whose `process` its callback is bound to. -/
structure KafkaConsumerImp where
  process : Nat := 0
  run : Bool := false
  thread : ReceivePoint := .absent

/-- `CPartitionManager`; `delivered` notes which consumers delivered its messages. -/
structure PartitionManager where
  kafkaConsumer : Option Nat := none
  state : PartitionState := {}
  delivered : List Nat := []

/-- `CConsumeProcess`; `isRun` says that its `Run` thread is there, and `destroyed` that its destructor
    has destroyed the map. -/
structure ConsumeProcess where
  kafkaConsumer : Option Nat := none
  partitionManagers : List (Int × Nat) := []
  isRun : Bool := false
  destroyed : Bool := false

/-- Where the thread that calls `Initialize` and `Restart` is: in the destructor of the
    `CConsumeProcess` before, in `Release`, or at one of the calls of `Init` that may fail. -/
inductive CallPoint where
  | idle
  | destroy (old process : Nat)
  | destroyManagers (old process : Nat)
  | destroyConsumer (old process : Nat)
  | release (process : Nat)
  | init (process : Nat)
  | subscribe (process : Nat)
  | createThread (process : Nat)
  deriving DecidableEq, Repr

/-- The objects are numbered in the order in which they are made.  `destroying` are the consumers in
    whose destructors the calling thread is, `accepted` the messages that `process` has accepted, and
    `undefined` says that an object has been used after its destructor. -/
structure RestartState where
  consumers : Nat → KafkaConsumerImp := fun _ => {}
  consumerNum : Nat := 0
  managers : Nat → PartitionManager := fun _ => {}
  managerNum : Nat := 0
  processes : Nat → ConsumeProcess := fun _ => {}
  processNum : Nat := 0
  consumeProcess : Option Nat := none
  point : CallPoint := .idle
  destroying : List Nat := []
  accepted : List Message := []
  undefined : Bool := false

namespace RestartState

def setConsumer (state : RestartState) (consumer : Nat) (value : KafkaConsumerImp) : RestartState :=
  { state with consumers := Function.update state.consumers consumer value }

def setThread (state : RestartState) (consumer : Nat) (point : ReceivePoint) : RestartState :=
  state.setConsumer consumer { state.consumers consumer with thread := point }

def setManager (state : RestartState) (manager : Nat) (value : PartitionManager) : RestartState :=
  { state with managers := Function.update state.managers manager value }

def setProcess (state : RestartState) (process : Nat) (value : ConsumeProcess) : RestartState :=
  { state with processes := Function.update state.processes process value }

def setPoint (state : RestartState) (point : CallPoint) : RestartState := { state with point := point }

/-! ## References -/

/-- The manager is in a map, or in the hands of the thread that made it. -/
def isHeld (state : RestartState) (manager : Nat) : Bool :=
  (List.range state.processNum).any (fun process =>
    (state.processes process).partitionManagers.any fun entry => entry.2 = manager) ||
  (List.range state.consumerNum).any fun consumer =>
    match (state.consumers consumer).thread with
    | .emplaceNew _ made => made = manager
    | _ => false

/-- Some `shared_ptr` to the consumer is left. -/
def isReferenced (state : RestartState) (consumer : Nat) : Bool :=
  (List.range state.processNum).any (fun process => (state.processes process).kafkaConsumer = some consumer) ||
  (List.range state.managerNum).any fun manager =>
    state.isHeld manager && (state.managers manager).kafkaConsumer = some consumer

/-- The consumers whose last reference is gone. -/
def dropped (state after : RestartState) : List Nat :=
  (List.range state.consumerNum).filter fun consumer =>
    state.isReferenced consumer && !after.isReferenced consumer

/-- The calling thread gives up references, and goes on when the destructors have returned. -/
def giveUp (state after : RestartState) : RestartState := { after with destroying := state.dropped after }

/-- Some thread is in the destructor of the consumer. -/
def isDestroyed (state : RestartState) (consumer : Nat) : Bool :=
  state.destroying.contains consumer ||
  (List.range state.consumerNum).any fun other =>
    match (state.consumers other).thread with
    | .release consumers => consumers.contains consumer
    | _ => false

/-- `shutdown` has been called, and the thread has left its loop. -/
def hasExited (state : RestartState) (consumer : Nat) : Bool :=
  !(state.consumers consumer).run && (state.consumers consumer).thread = .absent

/-! ## `Initialize`, `Restart` and what they call -/

/-- `MsgConsumer::Initialize`, up to the destructor of the process before or to `Init`. -/
def initializeProcess (state : RestartState) : RestartState :=
  let process := state.processNum
  let made := { state.setProcess process {} with
    processNum := process + 1, consumeProcess := some process }
  match state.consumeProcess with
  | some old => made.setPoint (.destroy old process)
  | none => made.setPoint (.init process)

/-- `MsgConsumer::Restart`, up to `Release`. -/
def restart (state : RestartState) : RestartState :=
  match state.consumeProcess with
  | some process => state.setPoint (.release process)
  | none => state

/-- No manager of the process is in `do_something`: the `Run` thread can be joined. -/
def isScanned (state : RestartState) (process : Nat) : Bool :=
  (state.processes process).partitionManagers.all fun entry => (state.managers entry.2).state.scanner.isNone

/-- `CConsumeProcess::Release`. -/
def release (state : RestartState) (process : Nat) (next : CallPoint) : Option RestartState :=
  if state.isScanned process then
    some ((state.setProcess process { state.processes process with isRun := false }).setPoint next)
  else none

/-- The process refers to no consumer any more, as after `gracefully_exit`. -/
def resetConsumer (state : RestartState) (process : Nat) (next : CallPoint) : RestartState :=
  state.giveUp
    ((state.setProcess process { state.processes process with kafkaConsumer := none }).setPoint next)

/-- `m_kafka_consumer.reset(new KafkaConsumerImp(..))`. -/
def makeConsumer (state : RestartState) (process : Nat) : RestartState :=
  let consumer := state.consumerNum
  let made := { state.setConsumer consumer { process := process } with consumerNum := consumer + 1 }
  state.giveUp ((made.setProcess process { state.processes process with kafkaConsumer := some consumer }).setPoint
    (.subscribe process))

/-- `KafkaConsumerImp::startup`. -/
def startup (state : RestartState) (consumer : Nat) : RestartState :=
  state.setConsumer consumer { state.consumers consumer with run := true, thread := .loop }

/-- The next step of the calling thread; `succeeds` is what the configuration, `subscribe` or the
    system says.  Without brokers, `Init` leaves everything as it is. -/
def call (state : RestartState) (succeeds : Bool) : Option RestartState :=
  if state.destroying ≠ [] then none
  else
    match state.point with
    | .idle => none
    | .destroy old process => state.release old (.destroyManagers old process)
    | .destroyManagers old process =>
      some (state.giveUp
        ((state.setProcess old { state.processes old with partitionManagers := [], destroyed := true }).setPoint
          (.destroyConsumer old process)))
    | .destroyConsumer old process => some (state.resetConsumer old (.init process))
    | .release process => state.release process (.init process)
    | .init process => some (if succeeds then state.makeConsumer process else state.setPoint .idle)
    | .subscribe process =>
      if succeeds then
        (state.processes process).kafkaConsumer.map fun consumer =>
          (state.startup consumer).setPoint (.createThread process)
      else some (state.resetConsumer process .idle)
    | .createThread process =>
      if succeeds then
        some ((state.setProcess process { state.processes process with isRun := true }).setPoint .idle)
      else some (state.resetConsumer process .idle)

/-! ## The receive threads -/

/-- `emplace_back` of a manager begins. -/
def emplace (commitNum : Int) (state : RestartState) (consumer manager : Nat) (data : PmData) :
    Option RestartState :=
  let target := state.managers manager
  (target.state.step commitNum (.emplaceBack data)).map fun after =>
    state.setManager manager { target with state := after, delivered := target.delivered ++ [consumer] }

/-- A new manager, with the consumer that the process refers to. -/
def makeManager (state : RestartState) (process : Nat) : RestartState :=
  { state.setManager state.managerNum { kafkaConsumer := (state.processes process).kafkaConsumer } with
    managerNum := state.managerNum + 1 }

/-- `m_partition_managers[nPartition] = pmPtr`. -/
def register (state : RestartState) (process : Nat) (partition : Int) (manager : Nat) : RestartState :=
  let target := state.processes process
  state.setProcess process { target with
    partitionManagers := (partition, manager) :: target.partitionManagers.filter fun entry => entry.1 ≠ partition }

def accept (state : RestartState) (data : PmData) : RestartState :=
  { state with accepted := state.accepted ++ [data.msg] }

/-- `emplace_back` has returned. -/
def isEmplaced (state : RestartState) (manager : Nat) : Bool := (state.managers manager).state.consumer.isNone

/-- The next step of a receive thread, through `threadFun` and `process`; `msg` is what Kafka has for
    it. -/
def receive (text : JsonText) (commitNum : Int) (state : RestartState) (consumer : Nat)
    (msg : Option Message) : Option RestartState :=
  let process := (state.consumers consumer).process
  match (state.consumers consumer).thread with
  | .absent => none
  | .loop => some (state.setThread consumer (if (state.consumers consumer).run then .consume else .absent))
  | .consume =>
    match msg.bind (readMessage text) with
    | none => some (state.setThread consumer .loop)
    | some data => some (state.setThread consumer (.lookUp data))
  | .lookUp data =>
    if (state.processes process).destroyed then some { state with undefined := true }
    else
      match (state.processes process).partitionManagers.lookup data.msg.partition with
      | some manager =>
        (state.emplace commitNum consumer manager data).map (·.setThread consumer (.emplace data manager))
      | none => some (state.setThread consumer (.create data))
  | .emplace data manager =>
    if state.isEmplaced manager then some ((state.accept data).setThread consumer .loop) else none
  | .create data =>
    if (state.processes process).destroyed then some { state with undefined := true }
    else
      ((state.makeManager process).emplace commitNum consumer state.managerNum data).map
        (·.setThread consumer (.emplaceNew data state.managerNum))
  | .emplaceNew data manager =>
    if (state.processes process).destroyed then some { state with undefined := true }
    else if state.isEmplaced manager then
      let after := ((state.register process data.msg.partition manager).accept data).setThread consumer (.release [])
      some (after.setThread consumer (.release (state.dropped after)))
    else none
  | .release [] => some (state.setThread consumer .loop)
  | .release (other :: rest) =>
    if state.hasExited other then some (state.setThread consumer (.release rest)) else none

/-- What runs in a manager.  `do_something` is called by the `Run` thread of the process that has the
    manager in its map. -/
def runManager (commitNum : Int) (state : RestartState) (manager : Nat) :
    PartitionLabel → Option RestartState
  | .emplaceBack _ => none
  | label =>
    let scanned := (List.range state.processNum).any fun process =>
      (state.processes process).isRun &&
        (state.processes process).partitionManagers.any fun entry => entry.2 = manager
    if label matches .doSomething && !scanned then none
    else
      ((state.managers manager).state.step commitNum label).map fun after =>
        state.setManager manager { state.managers manager with state := after }

end RestartState

/-! ## Runs -/

/-- `call` is a step of the thread that calls `Initialize` and `Restart`, `shutdown` the first step of a
    destructor, `joined` the return of the one that the calling thread waits for. -/
inductive RestartLabel where
  | initializeProcess
  | restart
  | call (succeeds : Bool)
  | shutdown (consumer : Nat)
  | joined
  | receive (consumer : Nat) (msg : Option Message)
  | manager (manager : Nat) (label : PartitionLabel)

namespace RestartState

def step (text : JsonText) (commitNum : Int) (state : RestartState) : RestartLabel → Option RestartState
  | .initializeProcess => if state.point = .idle ∧ state.destroying = [] then some state.initializeProcess else none
  | .restart => if state.point = .idle ∧ state.destroying = [] then some state.restart else none
  | .call succeeds => state.call succeeds
  | .shutdown consumer =>
    if state.isDestroyed consumer then
      some (state.setConsumer consumer { state.consumers consumer with run := false })
    else none
  | .joined =>
    match state.destroying with
    | [] => none
    | consumer :: rest => if state.hasExited consumer then some { state with destroying := rest } else none
  | .receive consumer msg => state.receive text commitNum consumer msg
  | .manager manager label => state.runManager commitNum manager label

end RestartState

/-- `MsgConsumer` with its configured `commit_num`, before the first `Initialize`. -/
def restartMachine (text : JsonText) (commitNum : Int) : Machine RestartState RestartLabel where
  start := {}
  step := RestartState.step text commitNum

/-! ## Consistency -/

namespace RestartState

/-- The receive thread of the consumer runs. -/
def Receives (state : RestartState) (consumer : Nat) : Prop := (state.consumers consumer).thread ≠ .absent

/-- The manager that `MsgConsumer` has for the partition of the message has the message. -/
def Holds (state : RestartState) (msg : Message) : Prop :=
  ∃ process manager, state.consumeProcess = some process ∧
    (state.processes process).partitionManagers.lookup msg.partition = some manager ∧
    msg ∈ (state.managers manager).state.world.messages

/-- One consumer delivers, what `process` accepted is with the manager of its partition, and a message is
    committed on the consumer that delivered it. -/
structure Consistent (state : RestartState) : Prop where
  defined : state.undefined = false
  one : ∀ consumer other, state.Receives consumer → state.Receives other → consumer = other
  held : ∀ msg ∈ state.accepted, state.Holds msg
  commits : ∀ manager, ∀ entry ∈ (state.managers manager).state.world.commits, ∀ consumer,
    (state.managers manager).delivered[entry.1]? = some consumer →
      (state.managers manager).kafkaConsumer = some consumer

/-- `Init` is about to put another consumer in place. -/
def replaces (state : RestartState) (succeeds : Bool) : Bool := succeeds && state.point matches .init _

/-- The condition on a step: no manager is there when a process or a consumer is replaced, and a message
    that comes in the meantime does not get to a manager. -/
def Orderly (state : RestartState) : RestartLabel → Prop
  | .initializeProcess => state.managerNum = 0
  | .call succeeds => state.replaces succeeds = true → state.managerNum = 0
  | .receive consumer _ =>
    let self := state.consumers consumer
    (self.thread matches .lookUp _ → state.consumeProcess = some self.process) ∧
      (self.thread matches .create _ → state.consumeProcess = some self.process ∧
        (state.processes self.process).kafkaConsumer = some consumer)
  | _ => True

instance (state : RestartState) : ∀ label, Decidable (state.Orderly label)
  | .initializeProcess => inferInstanceAs (Decidable (state.managerNum = 0))
  | .call succeeds => inferInstanceAs (Decidable (state.replaces succeeds = true → state.managerNum = 0))
  | .receive consumer _ => inferInstanceAs (Decidable (
      ((state.consumers consumer).thread matches .lookUp _ →
        state.consumeProcess = some (state.consumers consumer).process) ∧
      ((state.consumers consumer).thread matches .create _ →
        state.consumeProcess = some (state.consumers consumer).process ∧
          (state.processes (state.consumers consumer).process).kafkaConsumer = some consumer)))
  | .restart | .shutdown _ | .joined | .manager _ _ => inferInstanceAs (Decidable True)

end RestartState

/-! ## What a manager has -/

def pushedBy : PartitionCall → List Message
  | .pushBack data => [data.msg]
  | _ => []

def appends : PartitionProg Unit → List Message
  | .call request _ => pushedBy request
  | _ => []

/-- The message that a running `emplace_back` has not appended yet. -/
def unpushed : Option (PartitionProg Unit) → List Message
  | some (.call .lock next) => appends (next ())
  | some program => appends program
  | none => []

namespace PartitionState

variable {commitNum : Int} {state next : PartitionState}

/-- The messages of the manager, with the one that is being appended. -/
def holding (state : PartitionState) : List Message := state.world.messages ++ unpushed state.consumer

theorem holding_returned (returned : state.consumer = none) : state.holding = state.world.messages := by
  rw [holding, returned]
  exact List.append_nil _

theorem appends_subset (program : PartitionProg Unit) : appends program ⊆ unpushed (some program) := by
  cases program with
  | ret | raise => exact List.Subset.refl _
  | call request next =>
    cases request with
    | lock => exact List.nil_subset _
    | _ => exact List.Subset.refl _

/-- No call takes a message away. -/
theorem exec_messages {owner : Owner} {world : Partition} {request : PartitionCall}
    {answer : request.Answer} {result : request.Answer × Partition}
    (ran : world.exec owner request answer = some result) :
    result.2.messages = world.messages ++ pushedBy request := by
  cases request with
  | lock =>
    simp only [Partition.exec] at ran
    split at ran
    · cases ran; exact (List.append_nil _).symm
    · cases ran
  | loadState node =>
    simp only [Partition.exec, Option.map_eq_some_iff] at ran
    obtain ⟨found, _, rfl⟩ := ran
    exact (List.append_nil _).symm
  | pushBack data => cases ran; simp [Partition.messages, pushedBy]
  | handle node =>
    cases ran
    dsimp only
    split <;> simp [pushedBy]
  | commitSync kmsg =>
    cases ran
    cases kmsg <;> simp [Partition.logCommit, Partition.messages, pushedBy]
  | storeState | storeTime => cases ran; simp [pushedBy]
  | unlock | loadList | storeList => cases ran; exact (List.append_nil _).symm

/-- What `emplace_back` appends is in its program, or has been pushed. -/
theorem exec_holding {owner : Owner} {world : Partition} {request : PartitionCall}
    {rest : request.Answer → PartitionProg Unit} {answer : request.Answer}
    {result : request.Answer × Partition} (ran : world.exec owner request answer = some result) :
    world.messages ++ unpushed (some (.call request rest)) ⊆
      result.2.messages ++ unpushed (some (rest result.1)) := by
  rw [exec_messages ran]
  cases request with
  | lock =>
    simp only [Partition.exec] at ran
    split at ran
    · cases ran
      show world.messages ++ appends (rest ()) ⊆ (world.messages ++ []) ++ unpushed (some (rest ()))
      rw [List.append_nil]
      exact List.append_subset.mpr ⟨List.subset_append_left _ _,
        List.subset_append_of_subset_right _ (appends_subset _)⟩
    · cases ran
  | _ => exact List.subset_append_left _ _

/-- A step of a manager keeps its messages and appends at most what was to be appended. -/
theorem step_messages {label : PartitionLabel} (stepped : state.step commitNum label = some next) :
    state.world.messages ⊆ next.world.messages := by
  cases partitionStep_of_step stepped with
  | finish node =>
    rw [Partition.messages_setState]
    exact List.Subset.refl _
  | consumerCall answer running effect | scannerCall answer running effect =>
    have messages := exec_messages effect
    dsimp only at messages ⊢
    rw [messages]
    exact List.subset_append_left _ _
  | _ => exact List.Subset.refl _

theorem step_holding {label : PartitionLabel} (stepped : state.step commitNum label = some next) :
    state.holding ⊆ next.holding := by
  have messages := step_messages stepped
  cases partitionStep_of_step stepped with
  | emplaceBack data idle =>
    rw [holding_returned idle]
    exact List.subset_append_of_subset_left _ messages
  | emplaced answer running =>
    rw [holding, running]
    exact List.Subset.refl _
  | consumerCall answer running effect =>
    rw [holding, running]
    exact exec_holding effect
  -- the scanner and the workers leave the program of `emplace_back` alone
  | doSomething | finish | scanned | scannerCall =>
    exact List.append_subset.mpr ⟨List.subset_append_of_subset_left _ messages, List.subset_append_right _ _⟩

theorem emplaceBack_holding {data : PmData} (stepped : state.step commitNum (.emplaceBack data) = some next) :
    data.msg ∈ next.holding := by
  cases partitionStep_of_step stepped with
  | emplaceBack data idle => exact List.mem_append_right _ List.mem_cons_self

end PartitionState

/-! ## What a run keeps -/

namespace RestartState

/-- The process whose consumer may have a thread: while `Initialize` destroys the one before, that. -/
def active (state : RestartState) : Option Nat :=
  match state.point with
  | .destroy old _ | .destroyManagers old _ | .destroyConsumer old _ => some old
  | _ => state.consumeProcess

/-- The consumer whose thread may run, unless it is being destroyed; a new one has not been started. -/
def source (state : RestartState) : Option Nat :=
  match state.point with
  | .subscribe _ => none
  | _ => state.active.bind fun process => (state.processes process).kafkaConsumer

/-- What the place of the calling thread says. -/
def PointKept (state : RestartState) : Prop :=
  match state.point with
  | .idle => True
  | .destroy old process | .destroyManagers old process | .destroyConsumer old process =>
    state.managerNum = 0 ∧ state.consumeProcess = some process ∧ old ≠ process ∧ old < state.processNum
  | .release process | .init process | .createThread process => state.consumeProcess = some process
  | .subscribe process => state.managerNum = 0 ∧ state.consumeProcess = some process ∧
      ∀ consumer, (state.processes process).kafkaConsumer = some consumer → ¬state.Receives consumer

/-- What the place of a receive thread says about its message. -/
def ThreadKept (state : RestartState) (consumer : Nat) : Prop :=
  let process := (state.consumers consumer).process
  let managers := (state.processes process).partitionManagers
  match (state.consumers consumer).thread with
  | .create data => managers.lookup data.msg.partition = none
  | .emplace data manager => state.consumeProcess = some process ∧
      managers.lookup data.msg.partition = some manager ∧
      manager < state.managerNum ∧ data.msg ∈ (state.managers manager).state.holding
  | .emplaceNew data manager => state.consumeProcess = some process ∧
      managers.lookup data.msg.partition = none ∧
      manager < state.managerNum ∧ data.msg ∈ (state.managers manager).state.holding
  | _ => True

/-- Every manager has the consumer whose thread runs, and got its messages from it. -/
structure Kept (state : RestartState) : Prop where
  defined : state.undefined = false
  one : ∀ consumer other, state.Receives consumer → state.Receives other → consumer = other
  numbered : ∀ consumer, state.Receives consumer → consumer < state.consumerNum
  known : ∀ process, state.consumeProcess = some process → process < state.processNum
  alive : ∀ process, state.consumeProcess = some process → (state.processes process).destroyed = false
  made : ∀ process consumer, (state.processes process).kafkaConsumer = some consumer →
    consumer < state.consumerNum
  referred : ∀ process consumer, (state.processes process).kafkaConsumer = some consumer →
    state.active = some process
  source : ∀ consumer, state.Receives consumer →
    state.source = some consumer ∨ consumer ∈ state.destroying ∨ state.managerNum ≠ 0
  point : state.PointKept
  mapped : ∀ process partition manager,
    (state.processes process).partitionManagers.lookup partition = some manager → manager < state.managerNum
  own : ∀ consumer, state.Receives consumer → ∀ manager, manager < state.managerNum →
    (state.managers manager).kafkaConsumer = some consumer
  delivered : ∀ manager, ∀ consumer ∈ (state.managers manager).delivered,
    (state.managers manager).kafkaConsumer = some consumer
  threads : ∀ consumer, state.ThreadKept consumer
  held : ∀ msg ∈ state.accepted, state.Holds msg

variable {commitNum : Int} {text : JsonText} {state next after : RestartState}

theorem kept_start : Kept {} where
  defined := rfl
  one _ _ receives := absurd rfl receives
  numbered _ receives := absurd rfl receives
  known _ found := by cases found
  alive _ found := by cases found
  made _ _ found := by cases found
  referred _ _ found := by cases found
  source _ receives := absurd rfl receives
  point := trivial
  mapped _ _ _ found := by cases found
  own _ receives := absurd rfl receives
  delivered _ _ member := by cases member
  threads _ := trivial
  held _ member := by cases member

theorem Kept.consistent (kept : state.Kept) : state.Consistent where
  defined := kept.defined
  one := kept.one
  held := kept.held
  commits manager _ _ consumer found := kept.delivered manager consumer (List.mem_of_getElem? found)

/-- Without managers, nothing has been accepted. -/
theorem Kept.accepted_nil (kept : state.Kept) (empty : state.managerNum = 0) : state.accepted = [] := by
  rw [List.eq_nil_iff_forall_not_mem]
  intro msg member
  obtain ⟨process, manager, _, found, _⟩ := kept.held msg member
  have bound := kept.mapped process _ manager found
  rw [empty] at bound
  cases bound

/-! ## The references that are given up -/

theorem isReferenced_of_process {process consumer : Nat} (bound : process < state.processNum)
    (refers : (state.processes process).kafkaConsumer = some consumer) : state.isReferenced consumer = true := by
  rw [isReferenced, Bool.or_eq_true]
  left
  rw [List.any_eq_true]
  exact ⟨process, List.mem_range.mpr bound, by simp [refers]⟩

theorem not_isReferenced {consumer : Nat} (empty : state.managerNum = 0)
    (unreferred : ∀ process, (state.processes process).kafkaConsumer ≠ some consumer) :
    state.isReferenced consumer = false := by
  rw [isReferenced, empty]
  simp [unreferred]

theorem mem_dropped {process consumer : Nat} (numbered : consumer < state.consumerNum)
    (bound : process < state.processNum) (refers : (state.processes process).kafkaConsumer = some consumer)
    (empty : after.managerNum = 0)
    (unreferred : ∀ process, (after.processes process).kafkaConsumer ≠ some consumer) :
    consumer ∈ state.dropped after := by
  rw [dropped, List.mem_filter]
  have before := isReferenced_of_process bound refers
  have gone := not_isReferenced empty unreferred
  rw [before, gone]
  exact ⟨List.mem_range.mpr numbered, rfl⟩

/-! ## Steps of the calling thread -/

/-- The calling thread goes on, with the same consumer. -/
theorem Kept.setPoint {point : CallPoint} (kept : state.Kept)
    (sameActive : (state.setPoint point).active = state.active)
    (sameSource : (state.setPoint point).source = state.source)
    (pointKept : (state.setPoint point).PointKept) : (state.setPoint point).Kept :=
  { kept with
    referred := fun process consumer refers => sameActive.trans (kept.referred process consumer refers)
    source := fun consumer receives => sameSource ▸ kept.source consumer receives
    point := pointKept }

/-- What threads and messages need of the processes: their maps. -/
theorem Kept.ofMaps (kept : state.Kept) {processes : Nat → ConsumeProcess} {point : CallPoint}
    {destroying : List Nat}
    (maps : ∀ other, (processes other).partitionManagers = (state.processes other).partitionManagers)
    (destroyed : ∀ other, (processes other).destroyed = (state.processes other).destroyed)
    (isNext : next = { state with processes := processes, point := point, destroying := destroying })
    (referred : ∀ process consumer, (processes process).kafkaConsumer = some consumer →
      (state.processes process).kafkaConsumer = some consumer ∧ next.active = some process)
    (source : ∀ consumer, state.Receives consumer →
      next.source = some consumer ∨ consumer ∈ destroying ∨ state.managerNum ≠ 0)
    (pointKept : next.PointKept) : next.Kept := by
  subst isNext
  constructor
  case defined => exact kept.defined
  case one => exact kept.one
  case numbered => exact kept.numbered
  case known => exact kept.known
  case alive => exact fun other isCurrent => (destroyed other).trans (kept.alive other isCurrent)
  case made =>
    exact fun process consumer refers => kept.made process consumer (referred process consumer refers).1
  case referred => exact fun process consumer refers => (referred process consumer refers).2
  case source => exact source
  case point => exact pointKept
  case mapped =>
    exact fun other partition manager found => kept.mapped other partition manager (maps other ▸ found)
  case own => exact kept.own
  case delivered => exact kept.delivered
  case threads =>
    -- a thread looks at the map of its process only
    intro consumer
    have thread := kept.threads consumer
    rw [ThreadKept] at thread ⊢
    simp only [maps]
    exact thread
  case held =>
    intro msg member
    obtain ⟨other, manager, isCurrent, found, has⟩ := kept.held msg member
    exact ⟨other, manager, isCurrent, maps other ▸ found, has⟩

/-- The `Run` thread of a process comes or goes, and the calling thread goes on. -/
theorem Kept.setRun (kept : state.Kept) (process : Nat) (isRun : Bool) (point : CallPoint)
    (sameActive : (state.setPoint point).active = state.active)
    (sameSource : (state.setPoint point).source = state.source)
    (pointKept : (state.setPoint point).PointKept) :
    ((state.setProcess process { state.processes process with isRun := isRun }).setPoint point).Kept := by
  generalize isNext :
    (state.setProcess process { state.processes process with isRun := isRun }).setPoint point = next
  have same : ∀ other, (next.processes other).kafkaConsumer = (state.processes other).kafkaConsumer ∧
      (next.processes other).partitionManagers = (state.processes other).partitionManagers ∧
      (next.processes other).destroyed = (state.processes other).destroyed := by
    intro other
    rw [← isNext]
    show (Function.update state.processes process _ other).kafkaConsumer = _ ∧
      (Function.update state.processes process _ other).partitionManagers = _ ∧
      (Function.update state.processes process _ other).destroyed = _
    rw [Function.update_apply]
    split
    · next isIt => rw [isIt]; exact ⟨rfl, rfl, rfl⟩
    · exact ⟨rfl, rfl, rfl⟩
  -- of the processes, only what does not change is left to speak of
  have isOther : next = { state with processes := next.processes, point := point } := by rw [← isNext]; rfl
  clear isNext
  generalize next.processes = processes at isOther same
  subst isOther
  apply kept.ofMaps (fun other => (same other).2.1) (fun other => (same other).2.2) rfl
  · intro other consumer refers
    have before := (same other).1.symm.trans refers
    exact ⟨before, sameActive.trans (kept.referred other consumer before)⟩
  · intro consumer receives
    have source := kept.source consumer receives
    rw [← sameSource, RestartState.source] at source
    rw [RestartState.source]
    simp only [same]
    exact source
  · rw [PointKept] at pointKept ⊢
    simp only [same]
    exact pointKept

/-- The consumer that the active process refers to is destroyed, unless a manager has it. -/
theorem Kept.resetConsumer (kept : state.Kept) (settled : state.destroying = []) {process : Nat}
    {point : CallPoint} (isActive : state.active = some process) (bound : process < state.processNum)
    (pointKept : (state.resetConsumer process point).PointKept) :
    (state.resetConsumer process point).Kept := by
  have maps : ∀ other, ((state.resetConsumer process point).processes other).partitionManagers =
      (state.processes other).partitionManagers := by
    intro other
    show (Function.update state.processes process _ other).partitionManagers = _
    rw [Function.update_apply]
    split
    · next isIt => rw [isIt]
    · rfl
  have destroyed : ∀ other, ((state.resetConsumer process point).processes other).destroyed =
      (state.processes other).destroyed := by
    intro other
    show (Function.update state.processes process _ other).destroyed = _
    rw [Function.update_apply]
    split
    · next isIt => rw [isIt]
    · rfl
  -- the active process was the only one with a consumer
  have unreferred : ∀ other, ((state.resetConsumer process point).processes other).kafkaConsumer = none := by
    intro other
    show (Function.update state.processes process _ other).kafkaConsumer = _
    rw [Function.update_apply]
    split
    · rfl
    · next isOther =>
      cases refers : (state.processes other).kafkaConsumer with
      | none => rfl
      | some consumer =>
        have same := isActive.symm.trans (kept.referred other consumer refers)
        exact absurd (Option.some.inj same).symm isOther
  apply kept.ofMaps maps destroyed rfl
  · intro other consumer refers
    rw [unreferred other] at refers
    cases refers
  · intro consumer receives
    by_cases empty : state.managerNum = 0
    · right; left
      obtain source | member | occupied := kept.source consumer receives
      · -- without managers nobody else has the consumer, so it is destroyed
        have refers : (state.processes process).kafkaConsumer = some consumer := by
          rw [RestartState.source] at source
          split at source
          · cases source
          · rwa [isActive] at source
        refine mem_dropped (kept.numbered consumer receives) bound refers empty fun other refers => ?_
        cases (unreferred other).symm.trans refers
      · rw [settled] at member
        cases member
      · exact absurd empty occupied
    · exact .inr (.inr empty)
  · exact pointKept

/-- Another consumer is put in place of the one before, which is destroyed. -/
theorem Kept.makeConsumer (kept : state.Kept) (settled : state.destroying = []) {process : Nat}
    (isInit : state.point = .init process) (empty : state.managerNum = 0) :
    (state.makeConsumer process).Kept := by
  have isCurrent : state.consumeProcess = some process := by
    have point := kept.point
    rwa [PointKept, isInit] at point
  have isActive : state.active = some process := by rw [active, isInit]; exact isCurrent
  have processes : ∀ other, (state.makeConsumer process).processes other =
      if other = process then { state.processes process with kafkaConsumer := some state.consumerNum }
      else state.processes other :=
    fun other => Function.update_apply ..
  have consumers : ∀ other, (state.makeConsumer process).consumers other =
      if other = state.consumerNum then { process := process } else state.consumers other :=
    fun other => Function.update_apply ..
  -- the new consumer has no thread, and the threads are those of before
  have receives : ∀ consumer, (state.makeConsumer process).Receives consumer → state.Receives consumer := by
    intro consumer receives
    rw [Receives, consumers] at receives
    split at receives
    · exact absurd rfl receives
    · exact receives
  have unreferred : ∀ consumer, consumer < state.consumerNum → ∀ other,
      ((state.makeConsumer process).processes other).kafkaConsumer ≠ some consumer := by
    intro consumer numbered other refers
    rw [processes] at refers
    split at refers
    · have same : state.consumerNum = consumer := Option.some.inj refers
      omega
    · next isOther =>
      have same := isActive.symm.trans (kept.referred other consumer refers)
      exact isOther (Option.some.inj same).symm
  constructor
  case defined => exact kept.defined
  case one =>
    intro consumer other first second
    exact kept.one consumer other (receives consumer first) (receives other second)
  case numbered =>
    intro consumer receiving
    exact Nat.lt_succ_of_lt (kept.numbered consumer (receives consumer receiving))
  case known => exact kept.known
  case alive =>
    intro other isOther
    rw [processes]
    split
    · exact kept.alive process isCurrent
    · exact kept.alive other isOther
  case made =>
    intro other consumer refers
    rw [processes] at refers
    split at refers
    · have same : state.consumerNum = consumer := Option.some.inj refers
      exact same ▸ Nat.lt_succ_self _
    · exact Nat.lt_succ_of_lt (kept.made other consumer refers)
  case referred =>
    intro other consumer refers
    rw [processes] at refers
    split at refers
    · next isIt => rw [isIt]; exact isCurrent
    · have same := kept.referred other consumer refers
      rwa [active, isInit] at same
  case source =>
    intro consumer receiving
    right; left
    have before := receives consumer receiving
    have numbered := kept.numbered consumer before
    obtain source | member | occupied := kept.source consumer before
    · rw [RestartState.source, isInit, isActive] at source
      exact mem_dropped numbered (kept.known process isCurrent) source empty (unreferred consumer numbered)
    · rw [settled] at member
      cases member
    · exact absurd empty occupied
  case point =>
    refine ⟨empty, isCurrent, fun consumer refers receiving => ?_⟩
    rw [processes, if_pos rfl] at refers
    have numbered := kept.numbered consumer (receives consumer receiving)
    have same : state.consumerNum = consumer := Option.some.inj refers
    omega
  case mapped =>
    intro other partition manager found
    rw [processes] at found
    split at found
    · exact kept.mapped process partition manager found
    · exact kept.mapped other partition manager found
  case own => exact fun consumer receiving => kept.own consumer (receives consumer receiving)
  case delivered => exact kept.delivered
  case threads =>
    intro consumer
    have thread := kept.threads consumer
    have maps : ∀ other, ((state.makeConsumer process).processes other).partitionManagers =
        (state.processes other).partitionManagers := by
      intro other
      rw [processes]
      split
      · next isIt => rw [isIt]
      · rfl
    rw [ThreadKept] at thread ⊢
    by_cases isNew : consumer = state.consumerNum
    · simp only [consumers, if_pos isNew]
    · simp only [maps, consumers, if_neg isNew]
      exact thread
  case held =>
    intro msg member
    rw [show (state.makeConsumer process).accepted = state.accepted from rfl, kept.accepted_nil empty] at member
    cases member

/-- Nobody receives while a new consumer waits to be started. -/
theorem Kept.none_receives (kept : state.Kept) (settled : state.destroying = []) {process : Nat}
    (isSubscribe : state.point = .subscribe process) (consumer : Nat) : ¬state.Receives consumer := by
  intro receives
  have point := kept.point
  rw [PointKept, isSubscribe] at point
  obtain source | member | occupied := kept.source consumer receives
  · rw [RestartState.source, isSubscribe] at source
    cases source
  · rw [settled] at member
    cases member
  · exact occupied point.1

theorem Kept.startup (kept : state.Kept) (settled : state.destroying = []) {process consumer : Nat}
    (isSubscribe : state.point = .subscribe process)
    (refers : (state.processes process).kafkaConsumer = some consumer) :
    ((state.startup consumer).setPoint (.createThread process)).Kept := by
  obtain ⟨empty, isCurrent, _⟩ : state.managerNum = 0 ∧ state.consumeProcess = some process ∧ _ := by
    have point := kept.point
    rwa [PointKept, isSubscribe] at point
  have consumers : ∀ other, ((state.startup consumer).setPoint (.createThread process)).consumers other =
      if other = consumer then { state.consumers consumer with run := true, thread := .loop }
      else state.consumers other :=
    fun other => Function.update_apply ..
  -- before the start nobody receives, so this thread is the only one
  have only : ∀ other, ((state.startup consumer).setPoint (.createThread process)).Receives other →
      other = consumer := by
    intro other receives
    by_contra isOther
    rw [Receives, consumers, if_neg isOther] at receives
    exact kept.none_receives settled isSubscribe other receives
  constructor
  case defined => exact kept.defined
  case one => exact fun first second receives other => (only first receives).trans (only second other).symm
  case numbered => exact fun other receives => only other receives ▸ kept.made process consumer refers
  case known => exact kept.known
  case alive => exact kept.alive
  case made => exact kept.made
  case referred =>
    intro other consumer refers
    have same := kept.referred other consumer refers
    rwa [active, isSubscribe] at same
  case source =>
    intro other receives
    left
    rw [only other receives]
    show state.consumeProcess.bind _ = _
    rw [isCurrent]
    exact refers
  case point => exact isCurrent
  case mapped => exact kept.mapped
  case own =>
    intro _ _ manager bound
    rw [show ((state.startup consumer).setPoint (.createThread process)).managerNum = 0 from empty] at bound
    cases bound
  case delivered => exact kept.delivered
  case threads =>
    intro other
    have thread := kept.threads other
    rw [ThreadKept] at thread ⊢
    by_cases isIt : other = consumer
    · simp only [consumers, if_pos isIt]
    · simp only [consumers, if_neg isIt]
      exact thread
  case held => exact kept.held

/-- Without managers, a thread needs only that no partition got one. -/
theorem Kept.threads_of_maps (kept : state.Kept) (empty : state.managerNum = 0)
    (same : after.consumers = state.consumers)
    (maps : ∀ process partition, (state.processes process).partitionManagers.lookup partition = none →
      (after.processes process).partitionManagers.lookup partition = none) (consumer : Nat) :
    after.ThreadKept consumer := by
  have thread := kept.threads consumer
  rw [ThreadKept] at thread ⊢
  rw [same]
  split
  · next data isCreate =>
    rw [isCreate] at thread
    exact maps _ _ thread
  · next data manager isEmplace =>
    rw [isEmplace] at thread
    exact absurd thread.2.2.1 (by omega)
  · next data manager isEmplace =>
    rw [isEmplace] at thread
    exact absurd thread.2.2.1 (by omega)
  · trivial

/-- The destructor of the process before destroys the map, which has no managers. -/
theorem Kept.destroyManagers (kept : state.Kept) (settled : state.destroying = []) {old process : Nat}
    (isDestroy : state.point = .destroyManagers old process) :
    (state.giveUp
      ((state.setProcess old { state.processes old with partitionManagers := [], destroyed := true }).setPoint
        (.destroyConsumer old process))).Kept := by
  have point := kept.point
  rw [PointKept, isDestroy] at point
  obtain ⟨empty, isCurrent, isOther, bound⟩ := point
  generalize isNext : state.giveUp
    ((state.setProcess old { state.processes old with partitionManagers := [], destroyed := true }).setPoint
      (.destroyConsumer old process)) = next
  have processes : ∀ other, next.processes other =
      if other = old then { state.processes old with partitionManagers := [], destroyed := true }
      else state.processes other := by
    intro other
    rw [← isNext]
    exact Function.update_apply ..
  have consumer : ∀ other, (next.processes other).kafkaConsumer = (state.processes other).kafkaConsumer := by
    intro other
    rw [processes]
    split
    · next isIt => rw [isIt]
    · rfl
  have unchanged : next = { state with
      processes := next.processes, point := .destroyConsumer old process, destroying := next.destroying } := by
    rw [← isNext]
    rfl
  clear isNext
  generalize next.processes = after at unchanged processes consumer
  generalize next.destroying = destroying at unchanged
  subst unchanged
  constructor
  case defined => exact kept.defined
  case one => exact kept.one
  case numbered => exact kept.numbered
  case known => exact kept.known
  case alive =>
    intro other current
    show (after other).destroyed = false
    rw [processes, if_neg]
    · exact kept.alive other current
    · -- the destroyed process is not the current one
      intro isOld
      rw [isOld] at current
      exact isOther (Option.some.inj (current.symm.trans isCurrent))
  case made => exact fun other made refers => kept.made other made ((consumer other).symm.trans refers)
  case referred =>
    intro other made refers
    have same := kept.referred other made ((consumer other).symm.trans refers)
    rwa [active, isDestroy] at same
  case source =>
    intro other receives
    left
    -- its consumer stays: it is reset in the next step
    obtain source | member | occupied := kept.source other receives
    · rw [RestartState.source, isDestroy, active, isDestroy] at source
      exact (consumer old).trans source
    · rw [settled] at member
      cases member
    · exact absurd empty occupied
  case point => exact ⟨empty, isCurrent, isOther, bound⟩
  case mapped =>
    intro other partition manager found
    change (after other).partitionManagers.lookup partition = some manager at found
    rw [processes] at found
    split at found
    · cases found
    · exact kept.mapped other partition manager found
  case own => exact kept.own
  case delivered => exact kept.delivered
  case threads =>
    refine kept.threads_of_maps empty rfl fun other partition free => ?_
    show (after other).partitionManagers.lookup partition = none
    rw [processes]
    split
    · rfl
    · exact free
  case held =>
    intro msg member
    rw [kept.accepted_nil empty] at member
    cases member

/-- `Initialize` before there is a manager. -/
theorem Kept.initializeProcess (kept : state.Kept) (idle : state.point = .idle) (settled : state.destroying = [])
    (empty : state.managerNum = 0) : state.initializeProcess.Kept := by
  have activeIs : state.active = state.consumeProcess := by rw [active, idle]
  have sourceIs : state.source =
      state.consumeProcess.bind fun process => (state.processes process).kafkaConsumer := by
    rw [RestartState.source, idle, ← activeIs]
  -- the old process may have a consumer with a thread; the new one is empty
  have next : ∀ point : CallPoint, ∀ made : RestartState,
      made = { state with
        processes := Function.update state.processes state.processNum {}
        processNum := state.processNum + 1, consumeProcess := some state.processNum, point := point } →
      made.active = state.consumeProcess ∨ state.consumeProcess = none →
      (∀ consumer, state.source = some consumer → made.source = some consumer) →
      made.PointKept → made.Kept := by
    intro point made isMade sameActive sameSource pointKept
    have processes : ∀ other, made.processes other =
        if other = state.processNum then {} else state.processes other := by
      intro other
      rw [isMade]
      exact Function.update_apply ..
    subst isMade
    constructor
    case defined => exact kept.defined
    case one => exact kept.one
    case numbered => exact kept.numbered
    case known =>
      intro process isCurrent
      cases isCurrent
      exact Nat.lt_succ_self _
    case alive =>
      intro process isCurrent
      cases isCurrent
      rw [processes, if_pos rfl]
    case made =>
      intro process consumer refers
      rw [processes] at refers
      split at refers
      · cases refers
      · exact kept.made process consumer refers
    case referred =>
      intro process consumer refers
      rw [processes] at refers
      split at refers
      · cases refers
      · have isActive := activeIs.symm.trans (kept.referred process consumer refers)
        obtain same | none := sameActive
        · exact same.trans isActive
        · rw [none] at isActive
          cases isActive
    case source =>
      intro consumer receives
      left
      obtain source | member | occupied := kept.source consumer receives
      · exact sameSource consumer source
      · rw [settled] at member
        cases member
      · exact absurd empty occupied
    case point => exact pointKept
    case mapped =>
      intro process partition manager found
      rw [processes] at found
      split at found
      · cases found
      · exact kept.mapped process partition manager found
    case own => exact kept.own
    case delivered => exact kept.delivered
    case threads =>
      refine kept.threads_of_maps empty rfl fun process partition free => ?_
      rw [processes]
      split
      · rfl
      · exact free
    case held =>
      intro msg member
      rw [kept.accepted_nil empty] at member
      cases member
  rw [RestartState.initializeProcess]
  cases current : state.consumeProcess with
  | none =>
    apply next (.init state.processNum) _ rfl (.inr current)
    · intro consumer source
      rw [sourceIs, current] at source
      cases source
    · exact rfl
  | some old =>
    have bound := kept.known old current
    have isOther : old ≠ state.processNum := Nat.ne_of_lt bound
    apply next (.destroy old state.processNum) _ rfl (.inl current.symm)
    · intro consumer source
      rw [sourceIs, current] at source
      show (Function.update state.processes state.processNum {} old).kafkaConsumer = some consumer
      rw [Function.update_of_ne isOther]
      exact source
    · exact ⟨empty, rfl, isOther, Nat.lt_succ_of_lt bound⟩

/-- One step of the calling thread. -/
theorem Kept.call (kept : state.Kept) {succeeds : Bool} (orderly : state.Orderly (.call succeeds))
    (stepped : state.call succeeds = some next) : next.Kept := by
  rw [RestartState.call] at stepped
  split at stepped
  · cases stepped
  -- the calling thread waits until the consumers it dropped are destroyed
  next settled =>
  rw [not_not] at settled
  have point := kept.point
  cases isAt : state.point with
  | idle => rw [isAt] at stepped; cases stepped
  | destroy old process =>
    rw [PointKept, isAt] at point
    simp only [isAt, RestartState.release] at stepped
    split at stepped
    · cases stepped
      apply kept.setRun old false (.destroyManagers old process)
      · simp only [active, isAt, RestartState.setPoint]
      · simp only [RestartState.source, active, isAt, RestartState.setPoint]
      · exact point
    · cases stepped
  | destroyManagers old process =>
    simp only [isAt] at stepped
    cases stepped
    exact kept.destroyManagers settled isAt
  | destroyConsumer old process =>
    rw [PointKept, isAt] at point
    simp only [isAt] at stepped
    cases stepped
    apply kept.resetConsumer settled
    · simp only [active, isAt]
    · exact point.2.2.2
    · exact point.2.1
  | release process =>
    rw [PointKept, isAt] at point
    simp only [isAt, RestartState.release] at stepped
    split at stepped
    · cases stepped
      apply kept.setRun process false (.init process)
      · simp only [active, isAt, RestartState.setPoint]
      · simp only [RestartState.source, active, isAt, RestartState.setPoint]
      · exact point
    · cases stepped
  | init process =>
    rw [PointKept, isAt] at point
    simp only [isAt] at stepped
    cases succeeds with
    | true =>
      cases stepped
      apply kept.makeConsumer settled isAt
      -- an orderly run makes a new consumer before there is a manager only
      exact orderly (by rw [replaces, isAt]; rfl)
    | false =>
      cases stepped
      apply kept.setPoint
      · simp only [active, isAt, RestartState.setPoint]
      · simp only [RestartState.source, active, isAt, RestartState.setPoint]
      · trivial
  | subscribe process =>
    rw [PointKept, isAt] at point
    have isActive : state.active = some process := by
      simp only [active, isAt]
      exact point.2.1
    simp only [isAt] at stepped
    split at stepped
    · simp only [Option.map_eq_some_iff] at stepped
      obtain ⟨consumer, refers, rfl⟩ := stepped
      exact kept.startup settled isAt refers
    · cases stepped
      exact kept.resetConsumer settled isActive (kept.known process point.2.1) trivial
  | createThread process =>
    rw [PointKept, isAt] at point
    have isActive : state.active = some process := by
      simp only [active, isAt]
      exact point
    simp only [isAt] at stepped
    split at stepped
    · cases stepped
      apply kept.setRun process true .idle
      · simp only [active, isAt, RestartState.setPoint]
      · simp only [RestartState.source, active, isAt, RestartState.setPoint]
      · trivial
    · cases stepped
      exact kept.resetConsumer settled isActive (kept.known process point) trivial

/-! ## Steps of the receive threads and of the managers -/

/-- What the place of the calling thread says does not depend on what the other threads do, unless one
    makes a manager. -/
theorem PointKept.of_same (pointKept : state.PointKept) (point : after.point = state.point)
    (managerNum : after.managerNum = state.managerNum) (current : after.consumeProcess = state.consumeProcess)
    (processNum : after.processNum = state.processNum)
    (consumer : ∀ process, (after.processes process).kafkaConsumer = (state.processes process).kafkaConsumer)
    (receives : ∀ consumer, after.Receives consumer → state.Receives consumer) : after.PointKept := by
  rw [PointKept] at pointKept ⊢
  rw [point, managerNum, current, processNum]
  cases isAt : state.point with
  | subscribe process =>
    rw [isAt] at pointKept
    refine ⟨pointKept.1, pointKept.2.1, fun made refers receiving => ?_⟩
    exact pointKept.2.2 made ((consumer process).symm.trans refers) (receives made receiving)
  | _ =>
    rw [isAt] at pointKept
    exact pointKept

/-- A consumer changes; its thread does not start. -/
theorem Kept.setConsumer (kept : state.Kept) {consumer : Nat} {value : KafkaConsumerImp}
    (receives : value.thread ≠ .absent → state.Receives consumer)
    (threadKept : (state.setConsumer consumer value).ThreadKept consumer) :
    (state.setConsumer consumer value).Kept := by
  have consumers : ∀ other, (state.setConsumer consumer value).consumers other =
      if other = consumer then value else state.consumers other :=
    fun other => Function.update_apply ..
  -- who receives now received before
  have before : ∀ other, (state.setConsumer consumer value).Receives other → state.Receives other := by
    intro other receiving
    rw [Receives, consumers] at receiving
    split at receiving
    · next isIt => rw [isIt]; exact receives receiving
    · exact receiving
  constructor
  case defined => exact kept.defined
  case one => exact fun first second one other => kept.one first second (before first one) (before second other)
  case numbered => exact fun other receiving => kept.numbered other (before other receiving)
  case known => exact kept.known
  case alive => exact kept.alive
  case made => exact kept.made
  case referred => exact kept.referred
  case source => exact fun other receiving => kept.source other (before other receiving)
  case point => exact kept.point.of_same rfl rfl rfl rfl (fun _ => rfl) before
  case mapped => exact kept.mapped
  case own => exact fun other receiving => kept.own other (before other receiving)
  case delivered => exact kept.delivered
  case threads =>
    intro other
    by_cases isIt : other = consumer
    · rw [isIt]; exact threadKept
    · have thread := kept.threads other
      rw [ThreadKept] at thread ⊢
      simp only [consumers, if_neg isIt]
      exact thread
  case held => exact kept.held

/-- A manager goes on: it keeps its messages and its consumer. -/
theorem Kept.setManager (kept : state.Kept) {manager : Nat} {value : PartitionManager}
    (sameConsumer : value.kafkaConsumer = (state.managers manager).kafkaConsumer)
    (delivered : ∀ consumer ∈ value.delivered, value.kafkaConsumer = some consumer)
    (messages : (state.managers manager).state.world.messages ⊆ value.state.world.messages)
    (holding : (state.managers manager).state.holding ⊆ value.state.holding) :
    (state.setManager manager value).Kept := by
  have managers : ∀ other, (state.setManager manager value).managers other =
      if other = manager then value else state.managers other :=
    fun other => Function.update_apply ..
  have holds : ∀ other, (state.managers other).state.holding ⊆
      ((state.setManager manager value).managers other).state.holding := by
    intro other
    rw [managers]
    split
    · next isIt => rw [isIt]; exact holding
    · exact List.Subset.refl _
  constructor
  case defined => exact kept.defined
  case one => exact kept.one
  case numbered => exact kept.numbered
  case known => exact kept.known
  case alive => exact kept.alive
  case made => exact kept.made
  case referred => exact kept.referred
  case source => exact kept.source
  case point => exact kept.point.of_same rfl rfl rfl rfl (fun _ => rfl) fun _ receiving => receiving
  case mapped => exact kept.mapped
  case own =>
    intro consumer receiving other bound
    rw [managers]
    split
    · next isIt => rw [sameConsumer, ← isIt]; exact kept.own consumer receiving other bound
    · exact kept.own consumer receiving other bound
  case delivered =>
    intro other consumer member
    rw [managers] at member ⊢
    split at member
    · next isIt => rw [if_pos isIt]; exact delivered consumer member
    · next isOther => rw [if_neg isOther]; exact kept.delivered other consumer member
  case threads =>
    intro consumer
    have thread := kept.threads consumer
    rw [ThreadKept] at thread ⊢
    rw [show (state.setManager manager value).consumers = state.consumers from rfl]
    split
    · next data isCreate => rw [isCreate] at thread; exact thread
    · next data target isEmplace =>
      rw [isEmplace] at thread
      exact ⟨thread.1, thread.2.1, thread.2.2.1, holds target thread.2.2.2⟩
    · next data target isEmplace =>
      rw [isEmplace] at thread
      exact ⟨thread.1, thread.2.1, thread.2.2.1, holds target thread.2.2.2⟩
    · trivial
  case held =>
    intro msg member
    obtain ⟨process, other, isCurrent, found, has⟩ := kept.held msg member
    refine ⟨process, other, isCurrent, found, ?_⟩
    rw [managers]
    split
    · -- a message that was held is held still
      next isIt => rw [isIt] at has; exact messages has
    · exact has

/-- A thread makes a manager with its own consumer. -/
theorem Kept.makeManager (kept : state.Kept) {process consumer : Nat} (receives : state.Receives consumer)
    (isCurrent : state.consumeProcess = some process)
    (refers : (state.processes process).kafkaConsumer = some consumer) : (state.makeManager process).Kept := by
  have managers : ∀ other, (state.makeManager process).managers other =
      if other = state.managerNum then { kafkaConsumer := some consumer } else state.managers other := by
    intro other
    rw [← refers]
    exact Function.update_apply ..
  have isActive := kept.referred process consumer refers
  -- neither the destructor of another process nor a new consumer is there
  have pointKept : (state.makeManager process).PointKept := by
    have point := kept.point
    rw [PointKept] at point ⊢
    rw [show (state.makeManager process).point = state.point from rfl]
    cases isAt : state.point with
    | idle => trivial
    | destroy old | destroyManagers old | destroyConsumer old =>
      simp only [isAt] at point
      simp only [active, isAt] at isActive
      have same : old = process := Option.some.inj isActive
      exact absurd (same.trans (Option.some.inj (isCurrent.symm.trans point.2.1))) point.2.2.1
    | subscribe made =>
      simp only [isAt] at point
      have same : process = made := Option.some.inj (isCurrent.symm.trans point.2.1)
      exact absurd receives (point.2.2 consumer (same ▸ refers))
    | release | init | createThread =>
      simp only [isAt] at point
      exact point
  constructor
  case defined => exact kept.defined
  case one => exact kept.one
  case numbered => exact kept.numbered
  case known => exact kept.known
  case alive => exact kept.alive
  case made => exact kept.made
  case referred => exact kept.referred
  case source => exact fun other receiving => .inr (.inr (Nat.succ_ne_zero _))
  case point => exact pointKept
  case mapped =>
    exact fun other partition manager found => Nat.lt_succ_of_lt (kept.mapped other partition manager found)
  case own =>
    intro other receiving manager bound
    rw [managers]
    split
    · rw [kept.one other consumer receiving receives]
    · next isOther =>
      have bound : manager < state.managerNum + 1 := bound
      exact kept.own other receiving manager (by omega)
  case delivered =>
    intro manager other member
    rw [managers] at member ⊢
    split at member
    · cases member
    · next isOther => rw [if_neg isOther]; exact kept.delivered manager other member
  case threads =>
    intro other
    have thread := kept.threads other
    have holding : ∀ manager, manager < state.managerNum →
        (state.makeManager process).managers manager = state.managers manager := by
      intro manager bound
      rw [managers, if_neg (Nat.ne_of_lt bound)]
    rw [ThreadKept] at thread ⊢
    rw [show (state.makeManager process).consumers = state.consumers from rfl]
    split
    · next data isCreate => rw [isCreate] at thread; exact thread
    · next data manager isEmplace =>
      rw [isEmplace] at thread
      refine ⟨thread.1, thread.2.1, Nat.lt_succ_of_lt thread.2.2.1, ?_⟩
      rw [holding manager thread.2.2.1]
      exact thread.2.2.2
    · next data manager isEmplace =>
      rw [isEmplace] at thread
      refine ⟨thread.1, thread.2.1, Nat.lt_succ_of_lt thread.2.2.1, ?_⟩
      rw [holding manager thread.2.2.1]
      exact thread.2.2.2
    · trivial
  case held =>
    intro msg member
    obtain ⟨other, manager, isCurrent, found, has⟩ := kept.held msg member
    refine ⟨other, manager, isCurrent, found, ?_⟩
    rw [managers, if_neg (Nat.ne_of_lt (kept.mapped other _ manager found))]
    exact has

/-- A message that the manager of its partition has is accepted. -/
theorem Kept.accept (kept : state.Kept) {data : PmData} (holds : state.Holds data.msg) :
    (state.accept data).Kept :=
  { kept with
    point := kept.point
    source := kept.source
    held := by
      intro msg member
      cases List.mem_append.mp member with
      | inl old => exact kept.held msg old
      | inr new =>
        rw [List.mem_singleton] at new
        rw [new]
        exact holds }

/-- What the map gives after a manager has been put into it. -/
theorem lookup_register {process : Nat} {partition other : Int} {manager : Nat} :
    ((state.register process partition manager).processes process).partitionManagers.lookup other =
      if other = partition then some manager else (state.processes process).partitionManagers.lookup other := by
  show List.lookup other (Function.update state.processes process _ process).partitionManagers = _
  rw [Function.update_self, lookup_cons_ite, lookup_filter _ fun key => decide (key ≠ partition)]
  by_cases isIt : other = partition
  · rw [if_pos isIt, if_pos isIt]
  · rw [if_neg isIt, if_neg isIt, if_pos (decide_eq_true isIt)]

/-- The thread that made a manager puts it into the map, for a partition that had none. -/
theorem Kept.register (kept : state.Kept) {process manager : Nat} {partition : Int}
    (isCurrent : state.consumeProcess = some process)
    (free : (state.processes process).partitionManagers.lookup partition = none)
    (bound : manager < state.managerNum)
    (leaves : ∀ consumer, state.Receives consumer → (state.consumers consumer).thread = .release []) :
    (state.register process partition manager).Kept := by
  have others : ∀ other, other ≠ process →
      (state.register process partition manager).processes other = state.processes other :=
    fun other isOther => Function.update_of_ne isOther ..
  have self : (state.register process partition manager).processes process = { state.processes process with
      partitionManagers := (partition, manager) ::
        (state.processes process).partitionManagers.filter fun entry => entry.1 ≠ partition } :=
    Function.update_self ..
  have consumer : ∀ other, ((state.register process partition manager).processes other).kafkaConsumer =
      (state.processes other).kafkaConsumer := by
    intro other
    by_cases isIt : other = process
    · rw [isIt, self]
    · rw [others other isIt]
  constructor
  case defined => exact kept.defined
  case one => exact kept.one
  case numbered => exact kept.numbered
  case known => exact kept.known
  case alive =>
    intro other current
    cases current.symm.trans isCurrent
    rw [self]
    exact kept.alive process isCurrent
  case made => exact fun other made refers => kept.made other made ((consumer other).symm.trans refers)
  case referred => exact fun other made refers => kept.referred other made ((consumer other).symm.trans refers)
  case source =>
    intro other receiving
    have source := kept.source other receiving
    rw [RestartState.source] at source ⊢
    simp only [consumer]
    exact source
  case point => exact kept.point.of_same rfl rfl rfl rfl consumer fun _ receiving => receiving
  case mapped =>
    intro other key target found
    by_cases isIt : other = process
    · rw [isIt, lookup_register] at found
      split at found
      · cases found; exact bound
      · exact kept.mapped process key target found
    · rw [others other isIt] at found
      exact kept.mapped other key target found
  case own => exact kept.own
  case delivered => exact kept.delivered
  case threads =>
    intro other
    rw [ThreadKept, show (state.register process partition manager).consumers = state.consumers from rfl]
    by_cases receiving : state.Receives other
    · rw [leaves other receiving]
      trivial
    · rw [Receives, not_not] at receiving
      rw [receiving]
      trivial
  case held =>
    intro msg member
    obtain ⟨other, target, current, found, has⟩ := kept.held msg member
    cases current.symm.trans isCurrent
    refine ⟨process, target, isCurrent, ?_, has⟩
    -- the partition had no manager, so the message is another one's
    have differs : msg.partition ≠ partition := by
      intro isIt
      rw [isIt, free] at found
      cases found
    rw [lookup_register, if_neg differs]
    exact found

/-- A receive thread goes on. -/
theorem Kept.setThread (kept : state.Kept) {consumer : Nat} {point : ReceivePoint}
    (receives : state.Receives consumer) (threadKept : (state.setThread consumer point).ThreadKept consumer) :
    (state.setThread consumer point).Kept :=
  kept.setConsumer (fun _ => receives) threadKept

theorem setThread_thread {consumer : Nat} {point : ReceivePoint} :
    ((state.setThread consumer point).consumers consumer).thread = point := by
  show (Function.update state.consumers consumer _ consumer).thread = point
  rw [Function.update_self]

theorem setThread_process {consumer : Nat} {point : ReceivePoint} :
    ((state.setThread consumer point).consumers consumer).process = (state.consumers consumer).process := by
  show (Function.update state.consumers consumer _ consumer).process = _
  rw [Function.update_self]

/-- `emplace_back` of a manager that has the consumer begins. -/
theorem Kept.emplace (kept : state.Kept) {consumer manager : Nat} {data : PmData}
    (own : (state.managers manager).kafkaConsumer = some consumer)
    (stepped : state.emplace commitNum consumer manager data = some next) :
    next.Kept ∧ next.consumers = state.consumers ∧ next.processes = state.processes ∧
      next.consumeProcess = state.consumeProcess ∧ next.managerNum = state.managerNum ∧
      data.msg ∈ (next.managers manager).state.holding := by
  simp only [RestartState.emplace, Option.map_eq_some_iff] at stepped
  obtain ⟨running, began, rfl⟩ := stepped
  refine ⟨?_, rfl, rfl, rfl, rfl, ?_⟩
  · refine kept.setManager rfl ?_ ?_ ?_
    · intro other member
      cases List.mem_append.mp member with
      | inl old => exact kept.delivered manager other old
      | inr new =>
        rw [List.mem_singleton] at new
        rw [new]
        exact own
    · exact PartitionState.step_messages began
    · exact PartitionState.step_holding began
  · show _ ∈ (Function.update state.managers manager _ manager).state.holding
    rw [Function.update_self]
    exact PartitionState.emplaceBack_holding began

theorem receives_of_thread {consumer : Nat} {point : ReceivePoint}
    (isAt : (state.consumers consumer).thread = point) (present : point ≠ .absent) : state.Receives consumer := by
  rw [Receives, isAt]
  exact present

/-- A place that says nothing about a message. -/
def IsFree : ReceivePoint → Prop
  | .create _ | .emplace _ _ | .emplaceNew _ _ => False
  | .absent | .loop | .consume | .lookUp _ | .release _ => True

theorem Kept.setThread_free (kept : state.Kept) {consumer : Nat} {point : ReceivePoint}
    (receives : state.Receives consumer) (free : IsFree point) : (state.setThread consumer point).Kept := by
  apply kept.setThread receives
  rw [ThreadKept, setThread_thread]
  cases point with
  | create | emplace | emplaceNew => exact free.elim
  | absent | loop | consume | lookUp | release => trivial

/-- Once `emplace_back` has begun, the thread waits for it. -/
theorem Kept.emplace_waits (kept : state.Kept) {consumer manager : Nat} {data : PmData} {point : ReceivePoint}
    (receives : state.Receives consumer) (own : (state.managers manager).kafkaConsumer = some consumer)
    (isCurrent : state.consumeProcess = some (state.consumers consumer).process)
    (bound : manager < state.managerNum)
    (stepped : state.emplace commitNum consumer manager data = some next)
    (waits : point = .emplace data manager ∧
        (state.processes (state.consumers consumer).process).partitionManagers.lookup data.msg.partition =
          some manager ∨
      point = .emplaceNew data manager ∧
        (state.processes (state.consumers consumer).process).partitionManagers.lookup data.msg.partition = none) :
    (next.setThread consumer point).Kept := by
  obtain ⟨keptNext, consumers, processes, current, managerNum, holding⟩ := kept.emplace own stepped
  apply keptNext.setThread
  · rw [Receives, consumers]
    exact receives
  · have sameCurrent : next.consumeProcess = some (state.consumers consumer).process := current.trans isCurrent
    have sameBound : manager < next.managerNum := managerNum ▸ bound
    have sameMaps : (next.processes (state.consumers consumer).process).partitionManagers =
        (state.processes (state.consumers consumer).process).partitionManagers := by
      rw [processes]
    rw [ThreadKept, setThread_thread, setThread_process, consumers]
    rcases waits with ⟨rfl, found⟩ | ⟨rfl, free⟩
    · exact ⟨sameCurrent, (congrArg _ sameMaps).trans found, sameBound, holding⟩
    · exact ⟨sameCurrent, (congrArg _ sameMaps).trans free, sameBound, holding⟩

/-- The new manager goes into the map, and its first message is accepted. -/
theorem Kept.acceptFirst (kept : state.Kept) {consumer manager : Nat} {data : PmData} {dropped : List Nat}
    (receives : state.Receives consumer)
    (isCurrent : state.consumeProcess = some (state.consumers consumer).process)
    (free : (state.processes (state.consumers consumer).process).partitionManagers.lookup data.msg.partition = none)
    (bound : manager < state.managerNum) (returned : data.msg ∈ (state.managers manager).state.world.messages) :
    ((((state.register (state.consumers consumer).process data.msg.partition manager).accept data).setThread
      consumer (.release [])).setThread consumer (.release dropped)).Kept := by
  -- the thread leaves `process`, with the manager in the map and the message in the manager
  have leaving : (state.setThread consumer (.release [])).Kept := kept.setThread_free receives trivial
  have leaves : ∀ other, (state.setThread consumer (.release [])).Receives other →
      ((state.setThread consumer (.release [])).consumers other).thread = .release [] := by
    intro other receiving
    by_cases isIt : other = consumer
    · rw [isIt, setThread_thread]
    · change (Function.update state.consumers consumer _ other).thread ≠ _ at receiving
      rw [Function.update_of_ne isIt] at receiving
      exact absurd (kept.one other consumer receiving receives) isIt
  have registered : ((state.setThread consumer (.release [])).register (state.consumers consumer).process
      data.msg.partition manager).Kept := leaving.register isCurrent free bound leaves
  have holds : ((state.setThread consumer (.release [])).register (state.consumers consumer).process
      data.msg.partition manager).Holds data.msg := by
    refine ⟨_, manager, isCurrent, ?_, returned⟩
    rw [lookup_register, if_pos rfl]
  exact (registered.accept holds).setThread_free (receives_of_thread setThread_thread (by simp)) trivial

/-- One step of a receive thread. -/
theorem Kept.receive (kept : state.Kept) {consumer : Nat} {msg : Option Message}
    (orderly : state.Orderly (.receive consumer msg))
    (stepped : state.receive text commitNum consumer msg = some next) : next.Kept := by
  have thread := kept.threads consumer
  rw [ThreadKept] at thread
  simp only [RestartState.receive] at stepped
  cases isAt : (state.consumers consumer).thread with
  | absent => rw [isAt] at stepped; cases stepped
  | loop =>
    rw [isAt] at stepped
    cases stepped
    apply kept.setThread_free (receives_of_thread isAt (by simp))
    cases (state.consumers consumer).run <;> trivial
  | consume =>
    have receives := receives_of_thread isAt (by simp)
    simp only [isAt] at stepped
    split at stepped
    · cases stepped
      exact kept.setThread_free receives trivial
    · cases stepped
      exact kept.setThread_free receives trivial
  | lookUp data =>
    have receives := receives_of_thread isAt (by simp)
    have isCurrent := orderly.1 (by rw [isAt])
    simp only [isAt, kept.alive _ isCurrent, Bool.false_eq_true, if_false] at stepped
    split at stepped
    · next manager found =>
      simp only [Option.map_eq_some_iff] at stepped
      obtain ⟨began, emplaced, rfl⟩ := stepped
      have bound := kept.mapped _ _ manager found
      exact kept.emplace_waits receives (kept.own consumer receives manager bound) isCurrent bound emplaced
        (.inl ⟨rfl, found⟩)
    · next free =>
      cases stepped
      apply kept.setThread receives
      rw [ThreadKept, setThread_thread, setThread_process]
      exact free
  | emplace data manager =>
    rw [isAt] at thread
    obtain ⟨isCurrent, found, _, holding⟩ := thread
    simp only [isAt] at stepped
    split at stepped
    · next emplaced =>
      cases stepped
      rw [isEmplaced, Option.isNone_iff_eq_none] at emplaced
      rw [PartitionState.holding_returned emplaced] at holding
      exact (kept.accept ⟨_, manager, isCurrent, found, holding⟩).setThread_free
        (receives_of_thread isAt (by simp)) trivial
    · cases stepped
  | create data =>
    have receives := receives_of_thread isAt (by simp)
    obtain ⟨isCurrent, refers⟩ := orderly.2 (by rw [isAt])
    rw [isAt] at thread
    simp only [isAt, kept.alive _ isCurrent, Bool.false_eq_true, if_false, Option.map_eq_some_iff] at stepped
    obtain ⟨began, emplaced, rfl⟩ := stepped
    -- the manager that was made has the consumer, and is not in the map yet
    have made := kept.makeManager receives isCurrent refers
    have bound : state.managerNum < (state.makeManager (state.consumers consumer).process).managerNum :=
      Nat.lt_succ_self _
    exact made.emplace_waits receives (made.own consumer receives state.managerNum bound) isCurrent bound emplaced
      (.inr ⟨rfl, thread⟩)
  | emplaceNew data manager =>
    rw [isAt] at thread
    obtain ⟨isCurrent, free, bound, holding⟩ := thread
    simp only [isAt, kept.alive _ isCurrent, Bool.false_eq_true, if_false] at stepped
    split at stepped
    · next emplaced =>
      cases stepped
      rw [isEmplaced, Option.isNone_iff_eq_none] at emplaced
      rw [PartitionState.holding_returned emplaced] at holding
      exact kept.acceptFirst (receives_of_thread isAt (by simp)) isCurrent free bound holding
    · cases stepped
  | release consumers =>
    have receives := receives_of_thread isAt (by simp)
    rw [isAt] at stepped
    cases consumers with
    | nil =>
      cases stepped
      exact kept.setThread_free receives trivial
    | cons other rest =>
      simp only at stepped
      split at stepped
      · cases stepped
        exact kept.setThread_free receives trivial
      · cases stepped

/-- One step of what runs in a manager. -/
theorem Kept.runManager (kept : state.Kept) {manager : Nat} {label : PartitionLabel}
    (stepped : state.runManager commitNum manager label = some next) : next.Kept := by
  have goes : ∀ running, (state.managers manager).state.step commitNum label = some running →
      (state.setManager manager { state.managers manager with state := running }).Kept := by
    intro running ran
    refine kept.setManager rfl ?_ ?_ ?_
    · exact kept.delivered manager
    · exact PartitionState.step_messages ran
    · exact PartitionState.step_holding ran
  cases label with
  | emplaceBack data => cases stepped
  | doSomething =>
    simp only [RestartState.runManager] at stepped
    split at stepped
    · cases stepped
    · simp only [Option.map_eq_some_iff] at stepped
      obtain ⟨running, ran, rfl⟩ := stepped
      exact goes running ran
  | _ =>
    simp only [RestartState.runManager, Bool.false_and, Bool.false_eq_true, if_false,
      Option.map_eq_some_iff] at stepped
    obtain ⟨running, ran, rfl⟩ := stepped
    exact goes running ran

/-- The destructor that the calling thread waits for has returned. -/
theorem Kept.joined (kept : state.Kept) {consumer : Nat} {rest : List Nat}
    (destroying : state.destroying = consumer :: rest) (exited : state.hasExited consumer = true) :
    Kept { state with destroying := rest } :=
  { kept with
    point := kept.point
    source := by
      intro other receives
      obtain source | member | occupied := kept.source other receives
      · exact .inl source
      · rw [destroying] at member
        cases List.mem_cons.mp member with
        | inl isIt =>
          rw [hasExited, Bool.and_eq_true, decide_eq_true_eq, ← isIt] at exited
          exact absurd exited.2 receives
        | inr later => exact .inr (.inl later)
      · exact .inr (.inr occupied) }

/-- One step of `MsgConsumer`, by which no consumer is replaced once there is a manager. -/
theorem kept_step (kept : state.Kept) {label : RestartLabel} (orderly : state.Orderly label)
    (stepped : state.step text commitNum label = some next) : next.Kept := by
  cases label with
  | initializeProcess =>
    simp only [step] at stepped
    split at stepped
    · next idle =>
      cases stepped
      exact kept.initializeProcess idle.1 idle.2 orderly
    · cases stepped
  | restart =>
    simp only [step] at stepped
    split at stepped
    · next idle =>
      cases stepped
      rw [RestartState.restart]
      split
      · next process isCurrent =>
        apply kept.setPoint
        · simp only [active, idle.1, RestartState.setPoint]
        · simp only [RestartState.source, active, idle.1, RestartState.setPoint]
        · exact isCurrent
      · exact kept
    · cases stepped
  | call succeeds => exact kept.call orderly stepped
  | shutdown consumer =>
    simp only [step] at stepped
    split at stepped
    · cases stepped
      apply kept.setConsumer
      · exact fun receives => receives
      · have thread := kept.threads consumer
        rw [ThreadKept] at thread ⊢
        simp only [RestartState.setConsumer, Function.update_self]
        exact thread
    · cases stepped
  | joined =>
    simp only [step] at stepped
    split at stepped
    · cases stepped
    · next consumer rest destroying =>
      split at stepped
      · next exited =>
        cases stepped
        exact kept.joined destroying exited
      · cases stepped
  | receive consumer msg => exact kept.receive orderly stepped
  | manager manager label => exact kept.runManager stepped

end RestartState

/-- In every run that replaces processes and consumers only while there is no manager, one consumer
    delivers, what `process` accepted is with the manager of its partition, and every commit is issued on
    the consumer that delivered the message. -/
theorem restart_consistent (text : JsonText) (commitNum : Int) (labels : List RestartLabel)
    {state : RestartState}
    (orderly : (restartMachine text commitNum).Meets RestartState.Orderly
      (restartMachine text commitNum).start labels)
    (ran : (restartMachine text commitNum).run (restartMachine text commitNum).start labels = some state) :
    state.Consistent := by
  have start : (restartMachine text commitNum).start.Kept := RestartState.kept_start
  refine (Machine.run_invariant_of_meets ?_ start orderly ran).consistent
  exact fun _ _ _ kept orderly stepped => RestartState.kept_step kept orderly stepped

/-- `Init` makes a consumer, subscribes and starts its threads. -/
def startUp : List RestartLabel := List.replicate 3 (.call true)

/-- A consumer delivers a flow message to a manager, with so many steps in `process`. -/
def deliverTo (consumer manager : Nat) (offset : Int) (steps : Nat) : List RestartLabel :=
  .receive consumer none :: .receive consumer (some ⟨"gzc", 0, offset, flowPayload⟩) ::
    List.replicate steps (.receive consumer none) ++
    List.replicate 8 (.manager manager (.advance .consumer acceptAll))

/-- A pass commits the second of two messages of a manager. -/
def commitOfTwo : List RestartLabel :=
  [.manager 0 (.finish 0), .manager 0 (.finish 1), .manager 0 .doSomething] ++
    List.replicate 19 (.manager 0 (.advance .scanner acceptAll))

/-- `Restart` before the first message: the first consumer is destroyed. -/
def restartEarly : List RestartLabel :=
  .initializeProcess :: startUp ++ [.restart, .call true, .call true, .shutdown 0, .receive 0 none, .joined] ++
    List.replicate 2 (.call true) ++ deliverTo 1 0 7 2 ++ [.receive 1 none, .receive 1 none] ++
    deliverTo 1 0 8 1 ++ [.receive 1 none] ++ commitOfTwo

/-- `Restart` after a message: the manager keeps the first consumer alive. -/
def restartLate : List RestartLabel :=
  .initializeProcess :: startUp ++ deliverTo 0 0 7 2 ++ [.receive 0 none, .receive 0 none] ++
    [.restart, .call true] ++ startUp ++ deliverTo 1 0 8 1 ++ [.receive 1 none] ++ commitOfTwo

set_option maxRecDepth 16000 in
theorem restart_consistent_early :
    ∃ state, (restartMachine flowText 1).run (restartMachine flowText 1).start restartEarly = some state ∧
      (state.managers 0).state.world.commits = [(1, true)] ∧ state.Consistent :=
  ⟨_, rfl, rfl, restart_consistent flowText 1 restartEarly (by decide) rfl⟩

set_option maxRecDepth 16000 in
/-- The thread of the first consumer goes on beside that of the second, and what the second delivers is
    committed on the first. -/
theorem restart_inconsistent :
    ∃ state, (restartMachine flowText 1).run (restartMachine flowText 1).start restartLate = some state ∧
      (state.consumers 0).thread = .loop ∧ (state.consumers 1).thread = .loop ∧
      (state.managers 0).state.world.commits = [(1, true)] ∧ (state.managers 0).delivered = [0, 1] ∧
      (state.managers 0).kafkaConsumer = some 0 ∧ ¬state.Consistent := by
  refine ⟨_, rfl, rfl, rfl, rfl, rfl, rfl, fun consistent => ?_⟩
  have same := consistent.one 0 1 (fun absent => nomatch absent) (fun absent => nomatch absent)
  cases same

end XBusiness.Consumer
