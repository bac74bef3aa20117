import Mathlib.Data.List.Basic
import XBusiness.Lib.Machine
import XBusiness.Consumer.DataDefine

/-! # `CPartitionManager`

`emplaceBack`, `doSomething` and `removeFromHead` are programs over the calls
that touch memory shared with other threads: the mutex, the list, the atomic
node states, and the Kafka consumer.  A node is named by its position in the
sequence of accepted messages, so `m_list_data` is a list of positions.

`partitionMachine` interleaves one thread that delivers messages, one thread
that scans, and workers that finish messages, one call at a time.
-/

namespace XBusiness.Consumer

open Interaction

/-! ## Calls -/

/-- The threads that take `m_mutex`. -/
inductive Owner where
  | consumer
  | scanner
  deriving DecidableEq, Repr

inductive PartitionCall where
  | lock
  | unlock
  | pushBack (data : PmData)
  | loadList
  | storeList (listData : List Nat)
  | loadState (node : Nat)
  | storeState (node : Nat) (state : NodeState)
  | storeTime (node : Nat)
  | handle (node : Nat)
  | commitSync (kmsg : Option Nat)

abbrev PartitionCall.Answer : PartitionCall → Type
  | pushBack _ => Nat
  | loadList => List Nat
  | loadState _ => NodeState
  | storeTime _ => Nat
  | handle _ => Bool
  | commitSync _ => Bool
  | _ => Unit

abbrev PartitionProg := Prog PartitionCall PartitionCall.Answer Empty

open PartitionCall
open Prog (perform)

/-! ## The member functions -/

def nodeOps (node : Nat) : NodeOps PartitionProg where
  loadState := perform (loadState node)
  storeState state := perform (storeState node state)
  storeTime := do
    let _ ← perform (storeTime node)
  handle := perform (handle node)

/-- `CPartitionManager::emplace_back`. -/
def emplaceBack (data : PmData) : PartitionProg Unit := do
  perform lock
  let node ← perform (pushBack data)
  let _ ← processTodo (nodeOps node)
  perform unlock

/-- The erasing loop of `remove_from_head`. -/
def eraseHead : List Nat → Nat → List Nat
  | [], _ => []
  | listData, 0 => listData
  | _ :: rest, num + 1 => eraseHead rest num

/-- `CPartitionManager::remove_from_head`. -/
def removeFromHead (num : Nat) : PartitionProg Unit := do
  perform lock
  let listData ← perform loadList
  perform (storeList (eraseHead listData num))
  perform unlock

/-- The locals of `do_something`. -/
structure Scan where
  firstNotDonePos : Nat := 0
  forceCommit : Bool := false
  processNum : Nat := 0
  kmsg : Option Nat := none
  isFirst : Bool := true
  pos : Nat := 0
  status : PmStatus := {}

/-- The prefix test of one visit. `prev` is the element before `it`, if any. -/
def testPrefix (size : Nat) (prev : Option Nat) (it : Nat) (scan : Scan) : PartitionProg Scan := do
  if scan.isFirst then
    if (← perform (loadState it)) ≠ .done then
      match prev with
      | some itTmp => return { scan with isFirst := false, firstNotDonePos := scan.pos, kmsg := some itTmp }
      | none => return { scan with isFirst := false }
    else if scan.pos = size - 1 then
      -- every element up to the last one is done: commit whatever the batch size
      return { scan with
        isFirst := false, firstNotDonePos := scan.pos + 1, kmsg := some it, forceCommit := true }
    else
      return scan
  else
    return scan

/-- The counting tests of one visit, each with its own load. -/
def countState (it : Nat) (status : PmStatus) : PartitionProg PmStatus := do
  if (← perform (loadState it)) = .todo then
    return { status with todoNum := status.todoNum + 1 }
  else if (← perform (loadState it)) = .doing then
    return { status with doingNum := status.doingNum + 1 }
  else if (← perform (loadState it)) = .done then
    return { status with doneNum := status.doneNum + 1 }
  else
    return status

/-- One iteration of the scanning loop. -/
def scanNode (size : Nat) (prev : Option Nat) (it : Nat) (scan : Scan) : PartitionProg Scan := do
  let scan ← testPrefix size prev it scan
  let processed ← processTodo (nodeOps it)
  let processNum := if processed then scan.processNum + 1 else scan.processNum
  let status ← countState it scan.status
  return { scan with processNum := processNum, status := status, pos := scan.pos + 1 }

/-- The scanning loop. -/
def scanNodes (size : Nat) : Option Nat → List Nat → Scan → PartitionProg Scan
  | _, [], scan => return scan
  | prev, it :: rest, scan => do
    let scan ← scanNode size prev it scan
    scanNodes size (some it) rest scan

/-- What `do_something` does after the scan, with the mutex released. -/
def commitScanned (commitNum : Int) (scan : Scan) : PartitionProg PmStatus := do
  if scan.forceCommit || decide (commitNum ≤ scan.firstNotDonePos) then
    let _ ← perform (commitSync scan.kmsg)
    removeFromHead scan.firstNotDonePos
    return { scan.status with commitNum := scan.firstNotDonePos, processNum := scan.processNum }
  else
    return { scan.status with processNum := scan.processNum }

/-- `CPartitionManager::do_something`. -/
def doSomething (commitNum : Int) : PartitionProg PmStatus := do
  perform lock
  let listData ← perform loadList
  let scan ← scanNodes listData.length none listData
    { status := { cacheSize := listData.length } }
  perform unlock
  commitScanned commitNum scan

/-- `m_commit_num` as the constructor of `CPartitionManager` sets it. -/
def floorCommitNum (commitNum : Int) : Int := if commitNum ≤ 0 then 1 else commitNum

theorem floorCommitNum_pos (commitNum : Int) : 0 < floorCommitNum commitNum := by
  unfold floorCommitNum
  split <;> omega

/-! ## The shared memory of a partition -/

/-- `nodes` are the nodes of all accepted messages in order of acceptance, `listData` is
    `m_list_data`, and `commits` records each `commitSync` with its result.  `pending` is the
    node that a running `emplace_back` has appended. -/
structure Partition where
  nodes : List PmData := []
  listData : List Nat := []
  mutex : Option Owner := none
  pending : Option Nat := none
  commits : List (Nat × Bool) := []
  deriving DecidableEq, Repr

namespace Partition

def messages (world : Partition) : List Message := world.nodes.map PmData.msg

def stateAt (world : Partition) (node : Nat) : Option NodeState :=
  world.nodes[node]?.map PmData.state

def setState (world : Partition) (node : Nat) (state : NodeState) : Partition :=
  { world with nodes := world.nodes.modify node fun data => { data with state := state } }

def setTime (world : Partition) (node : Nat) (stime : Nat) : Partition :=
  { world with nodes := world.nodes.modify node fun data => { data with stime := stime } }

/-- `KafkaConsumerImp::commit` on the message of a node; it does nothing with a null one. -/
def logCommit (world : Partition) (result : Bool) : Option Nat → Partition
  | some node => { world with commits := world.commits ++ [(node, result)] }
  | none => world

/-- One call of a thread, with the answer of the outside world where the memory does not
    determine it; `none` when the thread has to wait for the mutex. -/
def exec (owner : Owner) (world : Partition) :
    (request : PartitionCall) → request.Answer → Option (request.Answer × Partition)
  | lock, _ => if world.mutex = none then some ((), { world with mutex := some owner }) else none
  | unlock, _ => some ((), { world with mutex := none, pending := none })
  | pushBack data, _ => some (world.nodes.length,
      { world with
        nodes := world.nodes ++ [data]
        listData := world.listData ++ [world.nodes.length]
        pending := some world.nodes.length })
  | loadList, _ => some (world.listData, world)
  | storeList listData, _ => some ((), { world with listData := listData })
  | loadState node, _ => (world.stateAt node).map (·, world)
  | storeState node state, _ => some ((), world.setState node state)
  | storeTime node, now => some (now, world.setTime node now)
  -- a message that does not parse is done at once, any other stays with its session
  | handle node, accepted => some (accepted, if accepted then world else world.setState node .done)
  | commitSync kmsg, result => some (result, world.logCommit result kmsg)

/-! ## What each call leaves -/

variable {owner : Owner} {world after : Partition}

theorem exec_lock {given answer : Unit} : world.exec owner lock given = some (answer, after) ↔
    world.mutex = none ∧ { world with mutex := some owner } = after := by
  simp [exec]

theorem exec_unlock {given answer : Unit} : world.exec owner unlock given = some (answer, after) ↔
    { world with mutex := none, pending := none } = after := by
  simp [exec]

theorem exec_pushBack {data : PmData} {given node : Nat} :
    world.exec owner (pushBack data) given = some (node, after) ↔
      world.nodes.length = node ∧
        { world with
          nodes := world.nodes ++ [data]
          listData := world.listData ++ [world.nodes.length]
          pending := some world.nodes.length } = after := by
  simp [exec]

theorem exec_loadList {given listData : List Nat} :
    world.exec owner loadList given = some (listData, after) ↔ world.listData = listData ∧ world = after := by
  simp [exec]

theorem exec_storeList {listData : List Nat} {given answer : Unit} :
    world.exec owner (storeList listData) given = some (answer, after) ↔
      { world with listData := listData } = after := by
  simp [exec]

theorem exec_loadState {node : Nat} {given state : NodeState} :
    world.exec owner (loadState node) given = some (state, after) ↔
      world.stateAt node = some state ∧ world = after := by
  simp [exec]

theorem exec_storeState {node : Nat} {state : NodeState} {given answer : Unit} :
    world.exec owner (storeState node state) given = some (answer, after) ↔
      world.setState node state = after := by
  simp [exec]

theorem exec_storeTime {node given now : Nat} :
    world.exec owner (storeTime node) given = some (now, after) ↔
      given = now ∧ world.setTime node given = after := by
  simp [exec]

theorem exec_handle {node : Nat} {given accepted : Bool} :
    world.exec owner (handle node) given = some (accepted, after) ↔
      given = accepted ∧ (if given then world else world.setState node .done) = after := by
  simp [exec]

theorem exec_commitSync {kmsg : Option Nat} {given result : Bool} :
    world.exec owner (commitSync kmsg) given = some (result, after) ↔
      given = result ∧ world.logCommit given kmsg = after := by
  simp [exec]

end Partition

/-! ## Runs of one partition -/

structure PartitionState where
  world : Partition := {}
  consumer : Option (PartitionProg Unit) := none
  scanner : Option (PartitionProg PmStatus) := none

/-- `emplaceBack` and `doSomething` start a call of the function, `advance` makes the next
    call of a running function, and `finish` is a worker that sets a node to done. -/
inductive PartitionLabel where
  | emplaceBack (data : PmData)
  | doSomething
  | advance (owner : Owner) (answer : ∀ request : PartitionCall, request.Answer)
  | finish (node : Nat)

/-- One call of a running function; a function that has returned leaves its thread free. -/
def advanceProg {α : Type} (owner : Owner) (world : Partition)
    (answer : ∀ request : PartitionCall, request.Answer) :
    PartitionProg α → Option (Partition × Option (PartitionProg α))
  | .ret _ => some (world, none)
  | .raise fault => nomatch fault
  | .call request next =>
    (world.exec owner request (answer request)).map fun result => (result.2, some (next result.1))

def PartitionState.step (commitNum : Int) (state : PartitionState) :
    PartitionLabel → Option PartitionState
  | .emplaceBack data =>
    match state.consumer with
    | none => some { state with consumer := some (emplaceBack { data with state := .todo }) }
    | some _ => none
  | .doSomething =>
    match state.scanner with
    | none => some { state with scanner := some (doSomething (floorCommitNum commitNum)) }
    | some _ => none
  | .advance .consumer answer =>
    state.consumer.bind fun program =>
      (advanceProg .consumer state.world answer program).map fun result =>
        { state with world := result.1, consumer := result.2 }
  | .advance .scanner answer =>
    state.scanner.bind fun program =>
      (advanceProg .scanner state.world answer program).map fun result =>
        { state with world := result.1, scanner := result.2 }
  | .finish node => some { state with world := state.world.setState node .done }

/-- One `CPartitionManager` built with `commit_num`, with an empty list. -/
def partitionMachine (commitNum : Int) : Machine PartitionState PartitionLabel where
  start := {}
  step := PartitionState.step commitNum

/-- The ways a step can go: a function is called or returns, a running one makes its next call,
    or a worker finishes a message. -/
inductive PartitionStep (commitNum : Int) (state : PartitionState) : PartitionLabel → PartitionState → Prop
  | emplaceBack (data : PmData) (idle : state.consumer = none) :
      PartitionStep commitNum state (.emplaceBack data)
        { state with consumer := some (emplaceBack { data with state := .todo }) }
  | doSomething (idle : state.scanner = none) :
      PartitionStep commitNum state .doSomething
        { state with scanner := some (doSomething (floorCommitNum commitNum)) }
  | finish (node : Nat) :
      PartitionStep commitNum state (.finish node) { state with world := state.world.setState node .done }
  | emplaced (answer : ∀ request : PartitionCall, request.Answer) {value : Unit}
      (running : state.consumer = some (.ret value)) :
      PartitionStep commitNum state (.advance .consumer answer) { state with consumer := none }
  | consumerCall (answer : ∀ request : PartitionCall, request.Answer) {request : PartitionCall}
      {next : request.Answer → PartitionProg Unit} {given : request.Answer} {after : Partition}
      (running : state.consumer = some (.call request next))
      (effect : state.world.exec .consumer request (answer request) = some (given, after)) :
      PartitionStep commitNum state (.advance .consumer answer)
        { state with world := after, consumer := some (next given) }
  | scanned (answer : ∀ request : PartitionCall, request.Answer) {status : PmStatus}
      (running : state.scanner = some (.ret status)) :
      PartitionStep commitNum state (.advance .scanner answer) { state with scanner := none }
  | scannerCall (answer : ∀ request : PartitionCall, request.Answer) {request : PartitionCall}
      {next : request.Answer → PartitionProg PmStatus} {given : request.Answer} {after : Partition}
      (running : state.scanner = some (.call request next))
      (effect : state.world.exec .scanner request (answer request) = some (given, after)) :
      PartitionStep commitNum state (.advance .scanner answer)
        { state with world := after, scanner := some (next given) }

theorem advanceProg_cases {α : Type} {owner : Owner} {world after : Partition}
    {answer : ∀ request : PartitionCall, request.Answer} {program : PartitionProg α}
    {rest : Option (PartitionProg α)}
    (advanced : advanceProg owner world answer program = some (after, rest)) :
    ((∃ value, program = .ret value) ∧ after = world ∧ rest = none) ∨
      ∃ request next given, program = .call request next ∧
        world.exec owner request (answer request) = some (given, after) ∧ rest = some (next given) := by
  cases program with
  | ret value =>
    simp only [advanceProg, Option.some.injEq, Prod.mk.injEq] at advanced
    exact .inl ⟨⟨value, rfl⟩, advanced.1.symm, advanced.2.symm⟩
  | raise fault => exact fault.elim
  | call request next =>
    simp only [advanceProg, Option.map_eq_some_iff, Prod.mk.injEq] at advanced
    obtain ⟨⟨given, world'⟩, effect, rfl, rfl⟩ := advanced
    exact .inr ⟨request, next, given, rfl, effect, rfl⟩

theorem partitionStep_of_step {commitNum : Int} {state next : PartitionState} {label : PartitionLabel}
    (stepped : state.step commitNum label = some next) : PartitionStep commitNum state label next := by
  cases label with
  | emplaceBack data =>
    simp only [PartitionState.step] at stepped
    split at stepped <;> cases stepped
    next idle => exact .emplaceBack data idle
  | doSomething =>
    simp only [PartitionState.step] at stepped
    split at stepped <;> cases stepped
    next idle => exact .doSomething idle
  | finish node =>
    cases stepped
    exact .finish node
  | advance owner answer =>
    cases owner with
    | consumer =>
      simp only [PartitionState.step, Option.bind_eq_some_iff, Option.map_eq_some_iff] at stepped
      obtain ⟨program, running, ⟨after, rest⟩, advanced, rfl⟩ := stepped
      rcases advanceProg_cases advanced with
        ⟨⟨value, rfl⟩, rfl, rfl⟩ | ⟨request, continuation, given, rfl, effect, rfl⟩
      · exact .emplaced answer running
      · exact .consumerCall answer running effect
    | scanner =>
      simp only [PartitionState.step, Option.bind_eq_some_iff, Option.map_eq_some_iff] at stepped
      obtain ⟨program, running, ⟨after, rest⟩, advanced, rfl⟩ := stepped
      rcases advanceProg_cases advanced with
        ⟨⟨value, rfl⟩, rfl, rfl⟩ | ⟨request, continuation, given, rfl, effect, rfl⟩
      · exact .scanned answer running
      · exact .scannerCall answer running effect

end XBusiness.Consumer
