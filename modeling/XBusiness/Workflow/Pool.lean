import XBusiness.Consumer.ConsumeProcess
import XBusiness.Workflow.Ownership

/-! # The worker pool

One `Worker<Session>` between the consumer process, which hands messages to `handle`, and the
HTTP client, which runs the callbacks of its requests.  `poolMachine` interleaves all threads,
one call at a time; every answer of Mongo, Redis, the producer and the HTTP client is left to
the labels.

A thread carries the sessions that its shared pointers own (`Held`), and the state carries the
history that the theorems speak of: the calls of `handle`, the sessions made, and what became
of them.
-/

namespace XBusiness

open Interaction
open Consumer (Owner PartitionCall PartitionLabel PartitionProg PartitionState ConsumerState Message NodeState)

/-! ## Threads -/

/-- What a thread runs: `handle` for a node, inside `emplace_back` or `do_something`; `Process` of
    a session on a worker; or the callback of a request. -/
inductive Role where
  | handler (owner : Owner) (data : PmPtr)
  | worker
  | callback
  deriving DecidableEq, Repr

/-- A thread inside a function of the work flow. The result is that of `handle`. -/
structure PoolThread where
  role : Role
  held : Held := {}
  program : FlowProg Bool

/-- A function on its session, as what a thread runs. -/
def Flow.runOn (function : Flow Unit) (session : Session) : FlowProg Bool := do
  let _ ← function.run session
  return true

namespace PoolThread

def handler (env : Env) (owner : Owner) (data : PmPtr) : PoolThread where
  role := .handler owner data
  program := handle env data

def worker (env : Env) (session : Session) : PoolThread where
  role := .worker
  held := { entries := [session.entry] }
  program := (sessionProcess env).runOn session

def callback (env : Env) (session : Session) (moduleType : ProcType)
    (response : Option HttpResponse) : PoolThread where
  role := .callback
  held := { entries := [session.entry] }
  program := (requestCallback env moduleType response).runOn session

/-- The thread is the call of `handle` that a thread inside the manager has made. -/
def isHandler (owner : Owner) (partition : Int) (thread : PoolThread) : Bool :=
  match thread.role with
  | .handler caller data => caller = owner && data.partition = partition
  | .worker | .callback => false

/-- The thread is in `Put`. -/
def isPushing (thread : PoolThread) : Bool :=
  match thread.program with
  | .call (.pushMsg _) _ => true
  | _ => false

end PoolThread

/-! ## Runs of the pool -/

/-- `queue` is that of the `FIFOBuffer`, `requests` the pending HTTP requests with their sessions.
    `delivering` is the partition of the last message that the Kafka thread has delivered. -/
structure PoolState where
  consumer : ConsumerState := {}
  delivering : Option Int := none
  queue : List Session := []
  threads : List PoolThread := []
  requests : List (Session × ProcType) := []
  /-- The calls of `handle`. -/
  handled : List PmPtr := []
  /-- The nodes that `handle` has marked as done. -/
  rejected : List PmPtr := []
  /-- The sessions made so far. -/
  made : List Entry := []
  /-- The sessions whose `Final` has taken effect. -/
  finals : List Entry := []
  /-- The sessions that `handleFromRedis` has dropped. -/
  dropped : List Entry := []

/-- `process` is the Kafka thread, `manager` a thread inside a manager, `handle` its call of
    `handle`, `get` a worker, `respond` the HTTP client, and `advance` the next call of a thread,
    or its return. -/
inductive PoolLabel where
  | process (msg : Message)
  | manager (partition : Int) (label : PartitionLabel)
  | handle (partition : Int) (owner : Owner)
  | get
  | respond (index : Nat) (response : Option HttpResponse)
  | advance (index : Nat) (answer : ∀ request : FlowCall, request.Answer)

/-- The node of a call of `handle`. -/
def handleNode {α : Type} : PartitionProg α → Option Nat
  | .call (.handle node) _ => some node
  | _ => none

/-- The node that a thread inside the manager is handing to `handle`. -/
def calling (manager : PartitionState) : Owner → Option Nat
  | .consumer => manager.consumer.bind handleNode
  | .scanner => manager.scanner.bind handleNode

/-- A step of a manager in which neither a message arrives nor a node is handed out. -/
def isOwnStep (manager : PartitionState) : PartitionLabel → Bool
  | .doSomething => true
  | .advance owner _ => calling manager owner = none
  | .emplaceBack _ | .finish _ => false

/-- The return of `handle` to the manager. -/
def handleReturns (accepted : Bool) : ∀ request : PartitionCall, request.Answer
  | .lock | .unlock | .storeList _ | .storeState _ _ => ()
  | .pushBack _ | .storeTime _ => (0 : Nat)
  | .loadList => ([] : List Nat)
  | .loadState _ => NodeState.todo
  | .handle _ => accepted
  | .commitSync _ => true

namespace PoolState

def manager (state : PoolState) (partition : Int) : PartitionState := state.consumer.managers partition

def stepManager (commitNum : Int) (state : PoolState) (partition : Int) (label : PartitionLabel) :
    Option PoolState :=
  ((state.manager partition).step commitNum label).map fun manager =>
    { state with consumer := state.consumer.setManager partition manager }

/-- The Kafka thread delivers one message at a time. -/
def process (text : JsonText) (commitNum : Int) (state : PoolState) (msg : Message) :
    Option PoolState :=
  if state.delivering.all fun partition => (state.manager partition).consumer.isNone then
    (state.consumer.process text commitNum msg).map fun consumer =>
      { state with consumer := consumer, delivering := some msg.partition }
  else
    none

/-- A thread inside a manager calls `handle`. -/
def callHandle (env : Env) (state : PoolState) (partition : Int) (owner : Owner) : Option PoolState :=
  (calling (state.manager partition) owner).bind fun node =>
    ((state.manager partition).world.messages[node]?).bind fun msg =>
      let data : PmPtr := { partition := partition, node := node, msg := msg }
      -- its call of `handle` is running already
      if state.threads.any (PoolThread.isHandler owner partition) then
        none
      else
        some { state with
          handled := state.handled ++ [data], threads := state.threads ++ [.handler env owner data] }

def workers (state : PoolState) : List PoolThread :=
  state.threads.filter fun thread => thread.role = .worker

/-- An idle worker takes the first session of the queue. -/
def get (env : Env) (workerNum : Nat) (state : PoolState) : Option PoolState :=
  if state.workers.length < workerNum then
    match state.queue with
    | [] => none
    | session :: rest =>
      some { state with queue := rest, threads := state.threads ++ [.worker env session] }
  else
    none

/-- The HTTP client calls the callback of a request. -/
def respond (env : Env) (state : PoolState) (index : Nat) (response : Option HttpResponse) :
    Option PoolState :=
  (state.requests[index]?).map fun pending =>
    { state with
      requests := state.requests.eraseIdx index
      threads := state.threads ++ [.callback env pending.1 pending.2 response] }

/-- The node of a message is set to done. -/
def markDone (state : PoolState) (data : PmPtr) : PoolState :=
  let manager := state.manager data.partition
  let done := { manager with world := manager.world.setState data.node .done }
  { state with consumer := state.consumer.setManager data.partition done }

/-- One call of a thread; `none` where it waits for room in the queue. -/
def exec (maxTaskNum : Nat) (state : PoolState) :
    (request : FlowCall) → request.Answer → Option (request.Answer × PoolState)
  | .pushMsg session, _ =>
    if state.queue.length < maxTaskNum then
      some ((), { state with queue := state.queue ++ [session] })
    else
      none
  | .sendRequest session procType _, _ =>
    some ((), { state with requests := state.requests ++ [(session, procType)] })
  | .final session _, _ =>
    -- a session without a node finalises nothing but itself
    let marked := session.kafkaData.data.elim state state.markDone
    some ((), { marked with finals := state.finals ++ [session.entry] })
  | .destroy session, _ => some ((), { state with dropped := state.dropped ++ [session.entry] })
  | .makeShared kafkaData, _ =>
    some (state.made.length, { state with made := state.made ++ [(state.made.length, kafkaData.data)] })
  | .storeDone data, _ =>
    some ((), { state.markDone data with rejected := state.rejected ++ [data] })
  | _, answer => some (answer, state)

/-- A function returns: `handle` to its manager, the others to the loop of their thread. -/
def returns (commitNum : Int) (state : PoolState) (index : Nat) (role : Role) (accepted : Bool) :
    Option PoolState :=
  let state := { state with threads := state.threads.eraseIdx index }
  match role with
  | .handler owner data =>
    state.stepManager commitNum data.partition (.advance owner (handleReturns accepted))
  | .worker | .callback => some state

def advance (commitNum : Int) (maxTaskNum : Nat) (state : PoolState) (index : Nat)
    (answer : ∀ request : FlowCall, request.Answer) : Option PoolState :=
  (state.threads[index]?).bind fun thread =>
    match thread.program with
    | .ret accepted => state.returns commitNum index thread.role accepted
    -- a thread that an exception has left stays where it is
    | .raise _ => none
    | .call request next =>
      (state.exec maxTaskNum request (answer request)).map fun result =>
        { result.2 with
          threads := state.threads.set index
            { thread with held := thread.held.after request result.1, program := next result.1 } }

def step (env : Env) (commitNum : Int) (workerNum maxTaskNum : Nat) (state : PoolState) :
    PoolLabel → Option PoolState
  | .process msg => state.process env.text commitNum msg
  | .manager partition label =>
    if isOwnStep (state.manager partition) label then state.stepManager commitNum partition label
    else none
  | .handle partition owner => state.callHandle env partition owner
  | .get => state.get env workerNum
  | .respond index response => state.respond env index response
  | .advance index answer => state.advance commitNum maxTaskNum index answer

end PoolState

/-- The service with its configured `commit_num`, `worker_thread_num` and `max_task_num`. -/
def poolMachine (env : Env) (commitNum : Int) (workerNum maxTaskNum : Nat) :
    Machine PoolState PoolLabel where
  start := {}
  step := PoolState.step env commitNum workerNum maxTaskNum

end XBusiness
