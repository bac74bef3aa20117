import XBusiness.Consumer.HandOut
import XBusiness.Lib.Threads
import XBusiness.Workflow.Pool

/-! # Sessions of the worker pool

Along every run of the pool each session that was made is in exactly one place: the queue, the
hands of one thread, a pending request, or among those that are finalised or dropped.

* `Effect` / `Step` — what one call of a thread and one step of the pool can do, which every invariant of
  the pool is derived from.
* `Accounted` — the places of the sessions, and the nodes that were handed out.
* `PoolInv` — the invariant: accounts, threads that keep their contracts, and managers.
* `poolInv_step` — every step keeps it and moves node states forward.
-/

namespace XBusiness

open Interaction
open Consumer (Owner PartitionCall PartitionLabel PartitionProg PartitionState ConsumerState Message
  NodeState HandedOut Moved)

/-! ## Threads -/

def PmPtr.place (data : PmPtr) : Int × Nat := (data.partition, data.node)

/-- The node of a call of `handle` for a message of the partition. -/
def Role.handlerNode (partition : Int) : Role → Option Nat
  | .handler _ data => if data.partition = partition then some data.node else none
  | .worker | .callback => none

namespace PoolThread

/-- The node that the thread works for. -/
def node (thread : PoolThread) : Option PmPtr :=
  match thread.role with
  | .handler _ data => some data
  | .worker | .callback => none

/-- The node of a `handle` that has neither marked it nor made its session yet. -/
def unsettled (thread : PoolThread) : Option PmPtr :=
  if thread.held.settled = none then thread.node else none

/-- The thread keeps its contract, and holds nothing when it returns. -/
def Safe (thread : PoolThread) : Prop :=
  thread.program.Safe (heldContract thread.node) (fun _ => True)
    (fun held accepted => held = { settled := thread.node.map fun _ => accepted }) thread.held

theorem handler_safe (env : Env) (owner : Owner) (data : PmPtr) : (handler env owner data).Safe :=
  handle_safe env data

theorem runOn_safe {function : Flow Unit} {session : Session} (unfinished : session.isFinished = false)
    (safe : ∀ held object, Holding session held object →
      FlowSafe (fun held _ _ => Empty held) function held object) :
    (function.runOn session).Safe (heldContract none) (fun _ => True) (fun held _ => held = {})
      { entries := [session.entry] } := by
  apply Prog.Safe.bind
  refine Prog.Safe.mono (safe _ session ⟨rfl, by rw [← unfinished]; rfl⟩) ?_
  rintro held _ empty _ rfl
  exact empty

theorem worker_safe (env : Env) {session : Session} (unfinished : session.isFinished = false) :
    (worker env session).Safe :=
  runOn_safe unfinished fun _ _ => sessionProcess_safe env

theorem callback_safe (env : Env) {session : Session} (moduleType : ProcType)
    (response : Option HttpResponse) (unfinished : session.isFinished = false) :
    (callback env session moduleType response).Safe :=
  runOn_safe unfinished fun _ _ => requestCallback_safe env moduleType response

end PoolThread

/-! ## The invariant -/

namespace PoolState

/-- The sessions that are held somewhere. -/
def places (state : PoolState) : List Entry :=
  state.queue.map Session.entry ++ state.threads.flatMap (fun thread => thread.held.entries) ++
    state.requests.map fun pending => pending.1.entry

/-- The nodes of the sessions made so far. -/
def madeNodes (state : PoolState) : List PmPtr := state.made.filterMap Prod.snd

def unsettled (state : PoolState) : List PmPtr := state.threads.filterMap PoolThread.unsettled

/-- The nodes that were set to done. -/
def marked (state : PoolState) : List PmPtr := state.rejected ++ state.finals.filterMap Prod.snd

/-- The calls of `handle` for messages of the partition that have not returned. -/
def running (state : PoolState) (partition : Int) : List Nat :=
  state.threads.filterMap fun thread => thread.role.handlerNode partition

/-- Every session made is in one place, finalised or dropped; every node handed out was rejected,
    has a session, or is still with its `handle`. -/
structure Accounted (state : PoolState) : Prop where
  refs : state.made.map Prod.fst = List.range state.made.length
  sessions : ∀ entry, state.places.count entry + state.finals.count entry +
    state.dropped.count entry = state.made.count entry
  nodes : ∀ data, state.rejected.count data + state.madeNodes.count data +
    state.unsettled.count data = state.handled.count data
  distinct : (state.handled.map PmPtr.place).Nodup
  dropped : ∀ entry ∈ state.dropped, entry.2 = none

/-- Every thread keeps its contract, and what waits for one is not finished. -/
structure Working (state : PoolState) : Prop where
  safe : ∀ thread ∈ state.threads, thread.Safe
  refused : ∀ thread ∈ state.threads, thread.held.settled = some false →
    ∀ data, thread.node = some data → data ∈ state.rejected
  owner : ∀ thread ∈ state.threads, ∀ owner data, thread.role = .handler owner data →
    owner = .consumer
  queued : ∀ session ∈ state.queue, session.isFinished = false
  requested : ∀ pending ∈ state.requests, pending.1.isFinished = false

/-- A list of nodes, as those of one partition. -/
def ofPartition (nodes : List PmPtr) (partition : Int) (node : Nat) : Prop :=
  (partition, node) ∈ nodes.map PmPtr.place

/-- Every manager hands its nodes out once. -/
def Managed (state : PoolState) : Prop :=
  ∀ partition, ∃ running : Option Nat, state.running partition = running.toList ∧
    HandedOut (ofPartition state.handled partition) (ofPartition state.marked partition) running
      (state.manager partition)

/-! ## What a call does -/

/-- What a call of a thread does to the pool, its own state apart, and the answer it gets. -/
inductive Effect (state : PoolState) : (request : FlowCall) → request.Answer → PoolState → Prop where
  | pushMsg (session : Session) :
      Effect state (.pushMsg session) () { state with queue := state.queue ++ [session] }
  | sendRequest (session : Session) (procType : ProcType) (info : RequestInfo) :
      Effect state (.sendRequest session procType info) ()
        { state with requests := state.requests ++ [(session, procType)] }
  | final (session : Session) (err : ErrCode) (none : session.kafkaData.data = none) :
      Effect state (.final session err) () { state with finals := state.finals ++ [session.entry] }
  | finalMarks (session : Session) (err : ErrCode) (data : PmPtr) (own : session.kafkaData.data = some data) :
      Effect state (.final session err) ()
        { state.markDone data with finals := state.finals ++ [session.entry] }
  | destroy (session : Session) :
      Effect state (.destroy session) () { state with dropped := state.dropped ++ [session.entry] }
  | makeShared (kafkaData : BaseData) :
      Effect state (.makeShared kafkaData) state.made.length
        { state with made := state.made ++ [(state.made.length, kafkaData.data)] }
  | storeDone (data : PmPtr) :
      Effect state (.storeDone data) () { state.markDone data with rejected := state.rejected ++ [data] }
  | outside (request : FlowCall) (answer : request.Answer) (outside : request.isOutside) :
      Effect state request answer state

theorem effect_of_exec {state after : PoolState} {maxTaskNum : Nat} {request : FlowCall}
    {given answer : request.Answer} (executed : state.exec maxTaskNum request given = some (answer, after)) :
    Effect state request answer after := by
  cases request with
  | pushMsg session =>
    simp only [PoolState.exec, Option.ite_none_right_eq_some, Option.some.injEq, Prod.mk.injEq,
      true_and] at executed
    rw [← executed.2]
    exact .pushMsg session
  | sendRequest session procType info => cases executed; exact .sendRequest session procType info
  | final session err =>
    simp only [PoolState.exec, Option.some.injEq, Prod.mk.injEq, true_and] at executed
    rw [← executed]
    cases own : session.kafkaData.data with
    | none => exact .final session err own
    | some data => exact .finalMarks session err data own
  | destroy session => cases executed; exact .destroy session
  | makeShared kafkaData => cases executed; exact .makeShared kafkaData
  | storeDone data => cases executed; exact .storeDone data
  | _ => cases executed; exact .outside _ _ trivial

/-! ## What a step does -/

/-- Each kind of step, with what it needs and what it leaves; a thread returns to its loop or to its manager. -/
inductive Step (env : Env) (commitNum : Int) (workerNum maxTaskNum : Nat) (state : PoolState) :
    PoolLabel → PoolState → Prop where
  | process {msg : Message} (consumer : ConsumerState)
      (free : (state.delivering.all fun partition => (state.manager partition).consumer.isNone) = true)
      (took : state.consumer.process env.text commitNum msg = some consumer) :
      Step env commitNum workerNum maxTaskNum state (.process msg)
        { state with consumer := consumer, delivering := some msg.partition }
  | manager {partition : Int} {label : PartitionLabel} (manager : PartitionState)
      (own : isOwnStep (state.manager partition) label = true)
      (moved : (state.manager partition).step commitNum label = some manager) :
      Step env commitNum workerNum maxTaskNum state (.manager partition label)
        { state with consumer := state.consumer.setManager partition manager }
  | handle {partition : Int} {owner : Owner} (node : Nat) (msg : Message)
      (called : calling (state.manager partition) owner = some node)
      (found : (state.manager partition).world.messages[node]? = some msg)
      (idle : state.threads.any (PoolThread.isHandler owner partition) = false) :
      Step env commitNum workerNum maxTaskNum state (.handle partition owner) { state with
        handled := state.handled ++ [⟨partition, node, msg⟩]
        threads := state.threads ++ [.handler env owner ⟨partition, node, msg⟩] }
  | get (session : Session) (rest : List Session) (idle : state.workers.length < workerNum)
      (queue : state.queue = session :: rest) :
      Step env commitNum workerNum maxTaskNum state .get
        { state with queue := rest, threads := state.threads ++ [.worker env session] }
  | respond {index : Nat} {response : Option HttpResponse} (session : Session) (procType : ProcType)
      (found : state.requests[index]? = some (session, procType)) :
      Step env commitNum workerNum maxTaskNum state (.respond index response) { state with
        requests := state.requests.eraseIdx index
        threads := state.threads ++ [.callback env session procType response] }
  | returns {index : Nat} {answer : ∀ request : FlowCall, request.Answer} (thread : PoolThread) (accepted : Bool)
      (found : state.threads[index]? = some thread) (returned : thread.program = .ret accepted)
      (other : ∀ owner data, thread.role ≠ .handler owner data) :
      Step env commitNum workerNum maxTaskNum state (.advance index answer)
        { state with threads := state.threads.eraseIdx index }
  | handled {index : Nat} {answer : ∀ request : FlowCall, request.Answer} (thread : PoolThread) (accepted : Bool)
      (owner : Owner) (data : PmPtr) (manager : PartitionState) (found : state.threads[index]? = some thread)
      (returned : thread.program = .ret accepted) (role : thread.role = .handler owner data)
      (moved : (state.manager data.partition).step commitNum (.advance owner (handleReturns accepted)) =
        some manager) :
      Step env commitNum workerNum maxTaskNum state (.advance index answer) { state with
        threads := state.threads.eraseIdx index
        consumer := state.consumer.setManager data.partition manager }
  | calls {index : Nat} {answer : ∀ request : FlowCall, request.Answer} (thread : PoolThread) (request : FlowCall)
      (rest : request.Answer → FlowProg Bool) (given : request.Answer) (result : PoolState)
      (found : state.threads[index]? = some thread) (calling : thread.program = .call request rest)
      (executed : state.exec maxTaskNum request (answer request) = some (given, result)) :
      Step env commitNum workerNum maxTaskNum state (.advance index answer) { result with
        threads := state.threads.set index
          { thread with held := thread.held.after request given, program := rest given } }

theorem step_cases {env : Env} {commitNum : Int} {workerNum maxTaskNum : Nat} {state next : PoolState}
    {label : PoolLabel} (stepped : state.step env commitNum workerNum maxTaskNum label = some next) :
    Step env commitNum workerNum maxTaskNum state label next := by
  cases label with
  | process msg =>
    simp only [PoolState.step, PoolState.process, Option.ite_none_right_eq_some, Option.map_eq_some_iff] at stepped
    obtain ⟨free, consumer, took, rfl⟩ := stepped
    exact .process consumer free took
  | manager partition label =>
    simp only [PoolState.step, PoolState.stepManager, Option.ite_none_right_eq_some, Option.map_eq_some_iff]
      at stepped
    obtain ⟨own, manager, moved, rfl⟩ := stepped
    exact .manager manager own moved
  | handle partition owner =>
    simp only [PoolState.step, PoolState.callHandle, Option.bind_eq_some_iff] at stepped
    obtain ⟨node, called, msg, found, stepped⟩ := stepped
    split at stepped <;> cases stepped
    next idle => exact .handle node msg called found (by simpa using idle)
  | get =>
    simp only [PoolState.step, PoolState.get, Option.ite_none_right_eq_some] at stepped
    obtain ⟨idle, stepped⟩ := stepped
    split at stepped <;> cases stepped
    next session rest queue => exact .get session rest idle queue
  | respond index response =>
    simp only [PoolState.step, PoolState.respond, Option.map_eq_some_iff] at stepped
    obtain ⟨⟨session, procType⟩, found, rfl⟩ := stepped
    exact .respond session procType found
  | advance index answer =>
    simp only [PoolState.step, PoolState.advance, Option.bind_eq_some_iff] at stepped
    obtain ⟨thread, found, stepped⟩ := stepped
    split at stepped
    · next accepted returned =>
      cases role : thread.role with
      | worker | callback =>
        rw [role] at stepped
        cases stepped
        exact .returns thread accepted found returned (by simp [role])
      | handler owner data =>
        rw [role] at stepped
        simp only [PoolState.returns, PoolState.stepManager, Option.map_eq_some_iff] at stepped
        obtain ⟨manager, moved, rfl⟩ := stepped
        exact .handled thread accepted owner data manager found returned role moved
    · cases stepped
    · next request rest calling =>
      simp only [Option.map_eq_some_iff] at stepped
      obtain ⟨⟨given, result⟩, executed, rfl⟩ := stepped
      exact .calls thread request rest given result found calling executed

/-! ## What a call does to the accounts -/

section Accounts

variable {state after : PoolState} {index : Nat} {thread new : PoolThread}

theorem count_cons_erase {entries : List Entry} {entry : Entry} (mem : entry ∈ entries)
    (other : Entry) : (entries.erase entry).count other + [entry].count other = entries.count other := by
  have cons := (List.perm_cons_erase mem).count_eq other
  rw [← List.singleton_append, List.count_append] at cons
  omega

theorem count_head (head : Entry) (rest : List Entry) (entry : Entry) :
    (head :: rest).count entry = [head].count entry + rest.count entry := by
  rw [← List.count_append, List.singleton_append]

/-- The accounts after a change of one thread. -/
theorem Accounted.set (accounted : Accounted state) (found : state.threads[index]? = some thread)
    (threads : after.threads = state.threads.set index new)
    (refs : after.made.map Prod.fst = List.range after.made.length)
    (handled : after.handled = state.handled)
    (sessions : ∀ entry, (after.queue.map Session.entry).count entry + new.held.entries.count entry +
        (after.requests.map fun pending => pending.1.entry).count entry + after.finals.count entry +
        after.dropped.count entry + state.made.count entry =
      (state.queue.map Session.entry).count entry + thread.held.entries.count entry +
        (state.requests.map fun pending => pending.1.entry).count entry + state.finals.count entry +
        state.dropped.count entry + after.made.count entry)
    (nodes : ∀ data, after.rejected.count data + after.madeNodes.count data +
        new.unsettled.toList.count data =
      state.rejected.count data + state.madeNodes.count data + thread.unsettled.toList.count data)
    (dropped : ∀ entry ∈ after.dropped, entry.2 = none) : Accounted after := by
  -- only the thread in the middle changes, so the counts of the others cancel
  obtain ⟨front, back, split, -, replaced⟩ := Threads.split_at found
  have threads := threads.trans (replaced new)
  refine ⟨refs, fun entry => ?_, fun data => ?_, handled ▸ accounted.distinct, dropped⟩
  · have before := accounted.sessions entry
    have change := sessions entry
    simp only [places, threads, split, List.flatMap_append, List.flatMap_cons,
      List.count_append] at before ⊢
    omega
  · have before := accounted.nodes data
    have change := nodes data
    have cons : ∀ (head : PoolThread) (rest : List PoolThread),
        (head :: rest).filterMap PoolThread.unsettled =
          head.unsettled.toList ++ rest.filterMap PoolThread.unsettled := by
      intro head rest
      cases unsettled : head.unsettled <;> simp [unsettled]
    simp only [unsettled, threads, split, List.filterMap_append, cons, List.count_append,
      handled] at before ⊢
    omega

theorem made_refs (accounted : Accounted state) (data : Option PmPtr) :
    (state.made ++ [(state.made.length, data)]).map Prod.fst =
      List.range (state.made ++ [(state.made.length, data)]).length := by
  rw [List.map_append, accounted.refs, List.length_append, List.length_singleton, List.range_succ]
  rfl

theorem unsettled_of_settled (settled : new.held.settled ≠ none) : new.unsettled = none := by
  rw [PoolThread.unsettled, if_neg settled]

theorem unsettled_congr (role : new.role = thread.role) (settled : new.held.settled = thread.held.settled) :
    new.unsettled = thread.unsettled := by
  have node : new.node = thread.node := by rw [PoolThread.node, PoolThread.node, role]
  rw [PoolThread.unsettled, PoolThread.unsettled, settled, node]

/-- The accounts after a thread handed a session over. -/
theorem Accounted.handOver (accounted : Accounted state) (found : state.threads[index]? = some thread)
    (threads : after.threads = state.threads.set index new) (made : after.made = state.made)
    (handled : after.handled = state.handled) (rejected : after.rejected = state.rejected)
    (role : new.role = thread.role) (settled : new.held.settled = thread.held.settled)
    {entry : Entry} (mem : entry ∈ thread.held.entries)
    (erased : new.held.entries = thread.held.entries.erase entry)
    (placed : ∀ other, (after.queue.map Session.entry).count other +
        (after.requests.map fun pending => pending.1.entry).count other + after.finals.count other +
        after.dropped.count other =
      (state.queue.map Session.entry).count other +
        (state.requests.map fun pending => pending.1.entry).count other + state.finals.count other +
        state.dropped.count other + [entry].count other)
    (dropped : ∀ entry ∈ after.dropped, entry.2 = none) : Accounted after := by
  have refs : after.made.map Prod.fst = List.range after.made.length := by rw [made, accounted.refs]
  refine accounted.set found threads refs handled ?_ ?_ dropped
  · intro other
    have moved := count_cons_erase mem other
    have gained := placed other
    rw [erased, made]
    omega
  · intro data
    rw [rejected, madeNodes, made, unsettled_congr role settled]
    rfl

theorem Accounted.exec {request : FlowCall} {answer : request.Answer} {result : PoolState}
    (accounted : Accounted state) (found : state.threads[index]? = some thread)
    (allowed : (heldContract thread.node).allowed thread.held request)
    (effect : Effect state request answer result)
    (threads : after = { result with threads := state.threads.set index new })
    (held : new.held = thread.held.after request answer) (role : new.role = thread.role) :
    Accounted after := by
  subst threads
  cases effect with
  | pushMsg session =>
    refine accounted.handOver found rfl rfl rfl rfl role (by rw [held]; rfl) allowed.1 (by rw [held]; rfl) ?_ ?_
    · intro entry
      simp only [List.map_append, List.count_append, List.map_cons, List.map_nil]
      omega
    · exact accounted.dropped
  | sendRequest session procType info =>
    refine accounted.handOver found rfl rfl rfl rfl role (by rw [held]; rfl) allowed.1 (by rw [held]; rfl) ?_ ?_
    · intro entry
      simp only [List.map_append, List.count_append, List.map_cons, List.map_nil]
      omega
    · exact accounted.dropped
  | final session err _ =>
    refine accounted.handOver found rfl rfl rfl rfl role (by rw [held]; rfl) allowed (by rw [held]; rfl) ?_ ?_
    · intro entry
      simp only [List.count_append]
      omega
    · exact accounted.dropped
  | finalMarks session err node _ =>
    refine accounted.handOver found rfl rfl rfl rfl role (by rw [held]; rfl) allowed (by rw [held]; rfl) ?_ ?_
    · intro entry
      simp only [markDone, List.count_append]
      omega
    · exact accounted.dropped
  | destroy session =>
    refine accounted.handOver found rfl rfl rfl rfl role (by rw [held]; rfl) allowed.1 (by rw [held]; rfl) ?_ ?_
    · intro entry
      simp only [List.count_append]
      omega
    · intro entry mem
      cases List.mem_append.mp mem with
      | inl old => exact accounted.dropped entry old
      | inr last =>
        rw [List.mem_singleton.mp last]
        exact allowed.2
  | makeShared kafkaData =>
    refine accounted.set found rfl (made_refs accounted _) rfl ?_ ?_ accounted.dropped
    · intro entry
      simp only [held, Held.after, List.count_append]
      rw [count_head _ thread.held.entries]
      omega
    · intro data
      cases own : kafkaData.data with
      | none =>
        rw [unsettled_congr role (by rw [held]; simp [Held.after, own])]
        simp [madeNodes]
      | some node =>
        -- the first session of the node settles it: it moves from the thread to the sessions made
        obtain ⟨works, settled⟩ := allowed node own
        rw [unsettled_of_settled (by rw [held]; simp [Held.after, own])]
        simp only [madeNodes, List.filterMap_append, List.filterMap_cons, List.filterMap_nil,
          List.count_append, PoolThread.unsettled, settled, works, if_true, Option.toList_none,
          Option.toList_some]
        rw [List.count_nil]
        omega
  | storeDone data =>
    -- a rejection settles the node too
    obtain ⟨works, settled⟩ := allowed
    refine accounted.set found rfl accounted.refs rfl ?_ ?_ accounted.dropped
    · intro entry
      simp only [held, Held.after, markDone]
    · intro other
      rw [unsettled_of_settled (by rw [held]; simp [Held.after])]
      simp only [markDone, madeNodes, List.count_append, PoolThread.unsettled, settled, works, if_true,
        Option.toList_none, Option.toList_some]
      rw [List.count_nil]
      omega
  | outside request answer outside =>
    rw [Held.after_outside outside] at held
    refine accounted.set found rfl accounted.refs rfl ?_ ?_ accounted.dropped
    · intro entry
      rw [held]
    · intro data
      rw [unsettled_congr role (by rw [held])]
      rfl

/-- The accounts with a new thread. -/
theorem Accounted.add (accounted : Accounted state) (threads : after.threads = state.threads ++ [new])
    (made : after.made = state.made) (finals : after.finals = state.finals)
    (dropped : after.dropped = state.dropped) (rejected : after.rejected = state.rejected)
    (sessions : ∀ entry, (after.queue.map Session.entry).count entry + new.held.entries.count entry +
        (after.requests.map fun pending => pending.1.entry).count entry =
      (state.queue.map Session.entry).count entry +
        (state.requests.map fun pending => pending.1.entry).count entry)
    (handled : after.handled = state.handled ++ new.unsettled.toList)
    (distinct : (after.handled.map PmPtr.place).Nodup) : Accounted after := by
  refine ⟨made ▸ accounted.refs, fun entry => ?_, fun data => ?_, distinct, dropped ▸ accounted.dropped⟩
  · have before := accounted.sessions entry
    have change := sessions entry
    simp only [places, threads, made, finals, dropped, List.flatMap_append, List.flatMap_singleton,
      List.count_append] at before ⊢
    omega
  · have before := accounted.nodes data
    have last : [new].filterMap PoolThread.unsettled = new.unsettled.toList := by
      cases unsettled : new.unsettled <;> simp [unsettled]
    simp only [madeNodes, unsettled, threads, made, rejected, handled, List.filterMap_append, last,
      List.count_append] at before ⊢
    omega

/-- The accounts without a thread that holds nothing. -/
theorem Accounted.remove (accounted : Accounted state) (found : state.threads[index]? = some thread)
    (empty : thread.held.entries = []) (settled : thread.unsettled = none) (consumer : ConsumerState) :
    Accounted { state with threads := state.threads.eraseIdx index, consumer := consumer } := by
  obtain ⟨front, back, split, removed, -⟩ := Threads.split_at found
  rw [split] at removed
  refine ⟨accounted.refs, fun entry => ?_, fun data => ?_, accounted.distinct, accounted.dropped⟩
  · have before := accounted.sessions entry
    rw [← before]
    simp only [places, split, removed, List.flatMap_append, List.flatMap_cons, empty, List.nil_append]
  · have before := accounted.nodes data
    rw [← before]
    simp only [madeNodes, unsettled, split, removed, List.filterMap_append,
      List.filterMap_cons_none settled]

end Accounts

/-! ## What a step does to the threads -/

section Threads

variable {state after : PoolState} {index : Nat} {thread new : PoolThread}

theorem Working.set (working : Working state) (found : state.threads[index]? = some thread)
    (threads : after.threads = state.threads.set index new) (role : new.role = thread.role)
    (safe : new.Safe)
    (refused : new.held.settled = some false → ∀ data, new.node = some data → data ∈ after.rejected)
    (rejected : state.rejected ⊆ after.rejected)
    (queued : ∀ session ∈ after.queue, session.isFinished = false)
    (requested : ∀ pending ∈ after.requests, pending.1.isFinished = false) : Working after := by
  have either : ∀ member ∈ after.threads, member = new ∨ member ∈ state.threads := by
    intro member mem
    rw [threads] at mem
    exact (List.mem_or_eq_of_mem_set mem).symm
  refine ⟨?_, ?_, ?_, queued, requested⟩
  · intro member mem
    cases either member mem with
    | inl same => exact same ▸ safe
    | inr old => exact working.safe member old
  · intro member mem settled data node
    cases either member mem with
    | inl same =>
      subst same
      exact refused settled data node
    | inr old => exact rejected (working.refused member old settled data node)
  · intro member mem owner data own
    cases either member mem with
    | inl same =>
      subst same
      exact working.owner thread (List.mem_of_getElem? found) owner data (role ▸ own)
    | inr old => exact working.owner member old owner data own

theorem Working.add (working : Working state) (threads : after.threads = state.threads ++ [new])
    (safe : new.Safe) (settled : new.held.settled = none)
    (owner : ∀ owner data, new.role = .handler owner data → owner = .consumer)
    (rejected : after.rejected = state.rejected)
    (queued : ∀ session ∈ after.queue, session.isFinished = false)
    (requested : ∀ pending ∈ after.requests, pending.1.isFinished = false) : Working after := by
  have either : ∀ member ∈ after.threads, member = new ∨ member ∈ state.threads := by
    intro member mem
    rw [threads, List.mem_append, List.mem_singleton] at mem
    exact mem.symm
  refine ⟨?_, ?_, ?_, queued, requested⟩
  · intro member mem
    cases either member mem with
    | inl same => exact same ▸ safe
    | inr old => exact working.safe member old
  · intro member mem refused data node
    cases either member mem with
    | inl same =>
      subst same
      rw [settled] at refused
      cases refused
    | inr old => exact rejected ▸ working.refused member old refused data node
  · intro member mem
    cases either member mem with
    | inl same => exact same ▸ owner
    | inr old => exact working.owner member old

theorem Working.remove (working : Working state) (index : Nat) (consumer : ConsumerState) :
    Working { state with threads := state.threads.eraseIdx index, consumer := consumer } := by
  have old : ∀ member ∈ state.threads.eraseIdx index, member ∈ state.threads :=
    fun member mem => (List.eraseIdx_sublist _ _).subset mem
  refine ⟨?_, ?_, ?_, working.queued, working.requested⟩
  · exact fun member mem => working.safe member (old member mem)
  · exact fun member mem => working.refused member (old member mem)
  · exact fun member mem => working.owner member (old member mem)

end Threads

/-! ## What a step does to the managers -/

section Managers

variable {state after : PoolState} {index : Nat} {thread new : PoolThread}

@[simp] theorem ofPartition_append (first second : List PmPtr) (partition : Int) (node : Nat) :
    ofPartition (first ++ second) partition node ↔
      ofPartition first partition node ∨ ofPartition second partition node := by
  simp [ofPartition]

@[simp] theorem ofPartition_singleton (data : PmPtr) (partition : Int) (node : Nat) :
    ofPartition [data] partition node ↔ partition = data.partition ∧ node = data.node := by
  simp [ofPartition, PmPtr.place]

@[simp] theorem ofPartition_nil (partition : Int) (node : Nat) : ¬ ofPartition [] partition node := by
  simp [ofPartition]

theorem ofPartition_of_mem {nodes : List PmPtr} {data : PmPtr} (mem : data ∈ nodes) :
    ofPartition nodes data.partition data.node :=
  List.mem_map_of_mem mem

theorem running_set (found : state.threads[index]? = some thread) (role : new.role = thread.role)
    (threads : after.threads = state.threads.set index new) (partition : Int) :
    after.running partition = state.running partition := by
  obtain ⟨front, back, split, -, replaced⟩ := Threads.split_at found
  simp only [running, threads.trans (replaced new), split, List.filterMap_append,
    List.filterMap_cons, role]

theorem running_add (threads : after.threads = state.threads ++ [new]) (partition : Int) :
    after.running partition =
      state.running partition ++ (new.role.handlerNode partition).toList := by
  simp only [running, threads, List.filterMap_append, List.append_cancel_left_eq]
  cases node : new.role.handlerNode partition <;> simp [node]

/-- A thread that is no call of `handle` for the partition leaves. -/
theorem running_remove (found : state.threads[index]? = some thread)
    (threads : after.threads = state.threads.eraseIdx index) {partition : Int}
    (other : thread.role.handlerNode partition = none) :
    after.running partition = state.running partition := by
  obtain ⟨front, back, split, removed, -⟩ := Threads.split_at found
  simp only [running, threads.trans removed, split, List.filterMap_append, List.filterMap_cons, other]

/-- The only call of `handle` for the partition returns. -/
theorem running_return (found : state.threads[index]? = some thread) {partition : Int} {node : Nat}
    {running : Option Nat} (own : thread.role.handlerNode partition = some node)
    (known : state.running partition = running.toList) : running = some node ∧
      { state with threads := state.threads.eraseIdx index : PoolState }.running partition = [] := by
  obtain ⟨front, back, split, removed, -⟩ := Threads.split_at found
  simp only [PoolState.running, split, List.filterMap_append, List.filterMap_cons, own] at known
  simp only [PoolState.running, removed, List.filterMap_append]
  cases running with
  | none => simp at known
  | some last =>
    rw [Option.toList_some, List.append_eq_singleton_iff] at known
    cases known with
    | inl last =>
      obtain ⟨empty, same⟩ := last
      rw [List.cons.injEq] at same
      exact ⟨by rw [same.1], by rw [empty, same.2]; rfl⟩
    | inr impossible => cases impossible.2

/-- No node state goes back. -/
def Forward (state after : PoolState) : Prop :=
  ∀ partition node, Moved ((state.manager partition).world.stateAt node)
    ((after.manager partition).world.stateAt node)

theorem forward_of_managers (managers : after.consumer.managers = state.consumer.managers) :
    Forward state after := by
  intro partition node
  rw [manager, manager, managers]
  exact .refl _

/-- A step that leaves the managers and the nodes alone. -/
theorem Managed.same (managed : Managed state)
    (managers : after.consumer.managers = state.consumer.managers)
    (running : ∀ partition, after.running partition = state.running partition)
    (handled : after.handled = state.handled) (marked : after.marked = state.marked) :
    Managed after := by
  intro partition
  rw [running, handled, marked, manager, managers]
  exact managed partition

/-- A step that concerns one manager. -/
theorem Managed.update (managed : Managed state) {partition : Int} {manager : PartitionState}
    (managers : after.consumer.managers = Function.update state.consumer.managers partition manager)
    (others : ∀ other, other ≠ partition → after.running other = state.running other ∧
      (∀ node, ofPartition after.handled other node ↔ ofPartition state.handled other node) ∧
      ∀ node, ofPartition after.marked other node ↔ ofPartition state.marked other node)
    (own : ∃ running : Option Nat, after.running partition = running.toList ∧
      HandedOut (ofPartition after.handled partition) (ofPartition after.marked partition) running
        manager) : Managed after := by
  intro other
  by_cases same : other = partition
  · subst same
    rw [PoolState.manager, managers, Function.update_self]
    exact own
  · obtain ⟨running, known, handedOut⟩ := managed other
    obtain ⟨sameRunning, handled, marked⟩ := others other same
    rw [PoolState.manager, managers, Function.update_of_ne same]
    exact ⟨running, sameRunning.trans known, handedOut.congr handled marked⟩

theorem forward_update {partition : Int} {manager : PartitionState}
    (managers : after.consumer.managers = Function.update state.consumer.managers partition manager)
    (moved : ∀ node, Moved ((state.manager partition).world.stateAt node) (manager.world.stateAt node)) :
    Forward state after := by
  intro other node
  by_cases same : other = partition
  · subst same
    rw [PoolState.manager, PoolState.manager, managers, Function.update_self]
    exact moved node
  · rw [PoolState.manager, PoolState.manager, managers, Function.update_of_ne same]
    exact .refl _

/-- A node that was handed out is set to done. -/
theorem Managed.markDone (managed : Managed state) {data : PmPtr}
    (handed : ofPartition state.handled data.partition data.node)
    (consumer : after.consumer = (state.markDone data).consumer)
    (running : ∀ partition, after.running partition = state.running partition)
    (handled : after.handled = state.handled)
    (marked : ∀ partition node, ofPartition after.marked partition node ↔
      ofPartition state.marked partition node ∨ partition = data.partition ∧ node = data.node) :
    Managed after ∧ Forward state after := by
  have managers : after.consumer.managers = Function.update state.consumer.managers data.partition
      { state.manager data.partition with
        world := (state.manager data.partition).world.setState data.node .done } := by
    rw [consumer]
    rfl
  have stepped : (state.manager data.partition).step 0 (.finish data.node) =
      some { state.manager data.partition with
        world := (state.manager data.partition).world.setState data.node .done } := rfl
  obtain ⟨own, known, handedOut⟩ := managed data.partition
  obtain ⟨finished, moved⟩ := handedOut.finish handed stepped
  refine ⟨managed.update managers ?_ ⟨own, (running _).trans known, ?_⟩, forward_update managers moved⟩
  · intro other different
    refine ⟨running other, fun node => by rw [handled], fun node => ?_⟩
    rw [marked]
    exact or_iff_left fun same => different same.1
  · apply finished.congr
    · exact fun node => by rw [handled]
    · intro node
      rw [marked]
      simp

end Managers

/-! ## Every step keeps the invariant -/

structure PoolInv (state : PoolState) : Prop where
  accounted : Accounted state
  working : Working state
  managed : Managed state

theorem PoolInv.start : PoolInv {} where
  accounted := by
    refine ⟨rfl, fun _ => rfl, fun _ => rfl, List.nodup_nil, ?_⟩
    intro entry mem
    cases mem
  working := by
    constructor
    case safe => intro thread mem; cases mem
    case refused => intro thread mem; cases mem
    case owner => intro thread mem; cases mem
    case queued => intro session mem; cases mem
    case requested => intro pending mem; cases mem
  managed := fun _ => ⟨none, rfl, HandedOut.start.congr (by simp) (by simp [marked])⟩

section Steps

variable {state next : PoolState} {env : Env} {commitNum : Int} {workerNum maxTaskNum : Nat}

theorem Accounted.handled_of_made (accounted : Accounted state) {data : PmPtr}
    (mem : data ∈ state.madeNodes) : data ∈ state.handled := by
  have nodes := accounted.nodes data
  have positive := List.count_pos_iff.mpr mem
  exact List.count_pos_iff.mp (by omega)

theorem Accounted.handled_of_unsettled (accounted : Accounted state) {data : PmPtr}
    (mem : data ∈ state.unsettled) : data ∈ state.handled := by
  have nodes := accounted.nodes data
  have positive := List.count_pos_iff.mpr mem
  exact List.count_pos_iff.mp (by omega)

/-- What a thread holds was made. -/
theorem Accounted.made_of_held (accounted : Accounted state) {index : Nat} {thread : PoolThread}
    (found : state.threads[index]? = some thread) {entry : Entry}
    (mem : entry ∈ thread.held.entries) : entry ∈ state.made := by
  have placed : entry ∈ state.places := by
    apply List.mem_append_left
    apply List.mem_append_right
    exact List.mem_flatMap.mpr ⟨thread, List.mem_of_getElem? found, mem⟩
  have sessions := accounted.sessions entry
  have positive := List.count_pos_iff.mpr placed
  exact List.count_pos_iff.mp (by omega)

/-- What concerns the consumer process only. -/
theorem PoolInv.consumer (inv : PoolInv state) {consumer : ConsumerState} {delivering : Option Int}
    (managed : Managed { state with consumer := consumer, delivering := delivering }) :
    PoolInv { state with consumer := consumer, delivering := delivering } := by
  obtain ⟨refs, sessions, nodes, distinct, dropped⟩ := inv.accounted
  obtain ⟨safe, refused, owner, queued, requested⟩ := inv.working
  exact ⟨⟨refs, sessions, nodes, distinct, dropped⟩, ⟨safe, refused, owner, queued, requested⟩, managed⟩

/-- A step of one manager that leaves the nodes handed out and marked as they are. -/
theorem PoolInv.stepManager (inv : PoolInv state) {received : List Message} {delivering : Option Int}
    {partition : Int} {manager : PartitionState}
    (kept : ∀ running, state.running partition = running.toList →
      HandedOut (ofPartition state.handled partition) (ofPartition state.marked partition) running
        (state.manager partition) →
      HandedOut (ofPartition state.handled partition) (ofPartition state.marked partition) running
        manager ∧
      ∀ node, Moved ((state.manager partition).world.stateAt node) (manager.world.stateAt node))
    (after : next = { state with
      consumer := ConsumerState.setManager { state.consumer with received := received } partition manager
      delivering := delivering }) :
    PoolInv next ∧ Forward state next := by
  obtain ⟨running, known, handedOut⟩ := inv.managed partition
  obtain ⟨later, moved⟩ := kept running known handedOut
  subst after
  refine ⟨inv.consumer ?_, forward_update rfl moved⟩
  apply inv.managed.update rfl
  · exact fun other different => ⟨rfl, fun _ => Iff.rfl, fun _ => Iff.rfl⟩
  · exact ⟨running, known, later⟩

theorem poolInv_process (inv : PoolInv state) {msg : Message}
    (stepped : state.process env.text commitNum msg = some next) :
    PoolInv next ∧ Forward state next := by
  simp only [PoolState.process, Option.ite_none_right_eq_some, Option.map_eq_some_iff] at stepped
  obtain ⟨-, consumer, processed, rfl⟩ := stepped
  simp only [ConsumerState.process] at processed
  split at processed
  · cases processed
    exact ⟨inv.consumer (inv.managed.same rfl (fun _ => rfl) rfl rfl), forward_of_managers rfl⟩
  · simp only [Option.map_eq_some_iff] at processed
    obtain ⟨manager, emplaced, rfl⟩ := processed
    refine inv.stepManager ?_ rfl
    intro running _ handedOut
    obtain ⟨later, world⟩ := handedOut.emplaceBack emplaced
    exact ⟨later, fun node => world ▸ .refl _⟩

theorem poolInv_manager (inv : PoolInv state) {partition : Int} {label : PartitionLabel}
    (stepped : Step env commitNum workerNum maxTaskNum state (.manager partition label) next) :
    PoolInv next ∧ Forward state next := by
  cases stepped with
  | manager manager own moved =>
    refine inv.stepManager ?_ rfl
    intro running _ handedOut
    cases label with
    | emplaceBack data => cases own
    | finish node => cases own
    | doSomething =>
      obtain ⟨later, world⟩ := handedOut.doSomething moved
      exact ⟨later, fun node => world ▸ .refl _⟩
    | advance owner answer =>
      cases owner with
      | scanner =>
        obtain ⟨later, nodes⟩ := handedOut.scan moved
        exact ⟨later, Consumer.moved_of_nodes nodes⟩
      | consumer =>
        have free : calling (state.manager partition) .consumer = none := of_decide_eq_true own
        have other : ∀ node rest, (state.manager partition).consumer ≠ some (.call (.handle node) rest) := by
          intro node rest calling
          rw [XBusiness.calling, calling] at free
          cases free
        -- while `handle` runs, the consumer thread is in its call
        obtain rfl : running = none := by
          cases running with
          | none => rfl
          | some node =>
            obtain ⟨rest, calling, -⟩ := handedOut.busy node rfl
            exact absurd calling (other node rest)
        exact handedOut.advance other moved

theorem handle_of_handleNode {α : Type} {program : Option (PartitionProg α)} {node : Nat}
    (called : program.bind handleNode = some node) : ∃ rest, program = some (.call (.handle node) rest) := by
  obtain ⟨program, rfl, hands⟩ := Option.bind_eq_some_iff.mp called
  cases program with
  | ret _ => cases hands
  | raise fault => exact fault.elim
  | call request rest =>
    cases request with
    | handle other =>
      cases hands
      exact ⟨rest, rfl⟩
    | _ => cases hands

/-- No call of `handle` is running for a partition whose consumer thread is not inside one. -/
theorem Working.running_none (working : Working state) {partition : Int} {running : Option Nat}
    (idle : ¬state.threads.any (PoolThread.isHandler .consumer partition) = true)
    (known : state.running partition = running.toList) : running = none := by
  cases running with
  | none => rfl
  | some other =>
    have mem : other ∈ state.running partition := by simp [known]
    obtain ⟨thread, mem, own⟩ := List.mem_filterMap.mp mem
    refine absurd ?_ idle
    refine List.any_eq_true.mpr ⟨thread, mem, ?_⟩
    cases role : thread.role with
    | handler owner data =>
      rw [role] at own
      simp only [Role.handlerNode, Option.ite_none_right_eq_some] at own
      simp [PoolThread.isHandler, role, own.1, working.owner thread mem owner data role]
    | worker => rw [role] at own; cases own
    | callback => rw [role] at own; cases own

theorem poolInv_handle (inv : PoolInv state) {partition : Int} {owner : Owner}
    (stepped : Step env commitNum workerNum maxTaskNum state (.handle partition owner) next) :
    PoolInv next ∧ Forward state next := by
  cases stepped with
  | handle node msg called found idle =>
    obtain ⟨running, known, handedOut⟩ := inv.managed partition
    cases owner with
    | scanner =>
      obtain ⟨rest, scanning⟩ := handle_of_handleNode called
      exact absurd scanning handedOut.scanner_not_calling
    | consumer =>
      obtain ⟨rest, delivering⟩ := handle_of_handleNode called
      obtain rfl : running = none := inv.working.running_none (Bool.eq_false_iff.mp idle) known
      obtain ⟨new, later⟩ := handedOut.callHandle rfl delivering
      let data : PmPtr := { partition := partition, node := node, msg := msg }
      have unsettled : (PoolThread.handler env .consumer data).unsettled = some data := rfl
      have distinct : ((state.handled ++ [data]).map PmPtr.place).Nodup := by
        rw [List.map_append, List.nodup_append]
        refine ⟨inv.accounted.distinct, List.nodup_singleton _, ?_⟩
        intro place mem last single
        rw [List.map_singleton, List.mem_singleton] at single
        rintro rfl
        rw [single] at mem
        exact new mem
      refine ⟨⟨?_, ?_, ?_⟩, forward_of_managers rfl⟩
      · refine inv.accounted.add rfl rfl rfl rfl rfl ?_ rfl distinct
        intro entry
        simp [PoolThread.handler]
      · refine inv.working.add rfl (PoolThread.handler_safe env .consumer data) rfl ?_ rfl
          inv.working.queued inv.working.requested
        rintro owner data ⟨⟩
        rfl
      · refine inv.managed.update (Function.update_eq_self partition _).symm ?_ ?_
        · intro other different
          refine ⟨?_, fun other => ?_, fun _ => Iff.rfl⟩
          · rw [running_add rfl]
            simp [PoolThread.handler, Role.handlerNode, Ne.symm different]
          · simp [different]
        · refine ⟨some node, ?_, later.congr ?_ fun _ => Iff.rfl⟩
          · rw [running_add rfl, known]
            simp [PoolThread.handler, Role.handlerNode]
          · intro other
            simp

theorem poolInv_get (inv : PoolInv state)
    (stepped : Step env commitNum workerNum maxTaskNum state .get next) :
    PoolInv next ∧ Forward state next := by
  cases stepped with
  | get session rest idle queue =>
    have queued := inv.working.queued
    rw [queue] at queued
    refine ⟨⟨?_, ?_, ?_⟩, forward_of_managers rfl⟩
    · refine inv.accounted.add rfl rfl rfl rfl rfl ?_ ?_ ?_
      · intro entry
        simp only [queue, List.map_cons, PoolThread.worker]
        rw [count_head session.entry (rest.map Session.entry)]
        omega
      · simp [PoolThread.unsettled, PoolThread.node, PoolThread.worker]
      · exact inv.accounted.distinct
    · refine inv.working.add rfl (PoolThread.worker_safe env (queued session List.mem_cons_self)) rfl
        ?_ ?_ ?_ ?_
      · rintro owner data ⟨⟩
      · rfl
      · exact fun other mem => queued other (List.mem_cons_of_mem _ mem)
      · exact inv.working.requested
    · exact inv.managed.same rfl (fun partition => (running_add rfl partition).trans (List.append_nil _))
        rfl rfl

theorem poolInv_respond (inv : PoolInv state) {index : Nat} {response : Option HttpResponse}
    (stepped : Step env commitNum workerNum maxTaskNum state (.respond index response) next) :
    PoolInv next ∧ Forward state next := by
  cases stepped with
  | respond session procType found =>
    obtain ⟨front, back, split, removed, -⟩ := Threads.split_at found
    rw [split] at removed
    have mem : (session, procType) ∈ state.requests := List.mem_of_getElem? found
    refine ⟨⟨?_, ?_, ?_⟩, forward_of_managers rfl⟩
    · refine inv.accounted.add rfl rfl rfl rfl rfl ?_ ?_ ?_
      · intro entry
        simp only [removed, split, List.map_append, List.map_cons, PoolThread.callback,
          List.count_append]
        rw [count_head session.entry (back.map _)]
        omega
      · simp [PoolThread.unsettled, PoolThread.node, PoolThread.callback]
      · exact inv.accounted.distinct
    · refine inv.working.add rfl (PoolThread.callback_safe env _ _ (inv.working.requested _ mem)) rfl
        ?_ ?_ ?_ ?_
      · rintro owner data ⟨⟩
      · rfl
      · exact inv.working.queued
      · exact fun other mem => inv.working.requested other ((List.eraseIdx_sublist _ _).subset mem)
    · exact inv.managed.same rfl (fun partition => (running_add rfl partition).trans (List.append_nil _))
        rfl rfl

theorem PoolInv.of_managed (accounted : Accounted next) (working : Working next)
    (managed : Managed next ∧ Forward state next) : PoolInv next ∧ Forward state next :=
  ⟨⟨accounted, working, managed.1⟩, managed.2⟩

theorem poolInv_exec (inv : PoolInv state) {index : Nat} {thread new : PoolThread}
    {request : FlowCall} {answer : request.Answer} {result : PoolState}
    (found : state.threads[index]? = some thread)
    (allowed : (heldContract thread.node).allowed thread.held request)
    (effect : Effect state request answer result)
    (held : new.held = thread.held.after request answer) (role : new.role = thread.role)
    (safe : new.Safe) (after : next = { result with threads := state.threads.set index new }) :
    PoolInv next ∧ Forward state next := by
  have accounted : Accounted next := inv.accounted.exec found allowed effect after held role
  subst after
  have running : ∀ partition, ({ result with threads := state.threads.set index new } : PoolState).running
      partition = state.running partition := running_set found role rfl
  have node : new.node = thread.node := by rw [PoolThread.node, PoolThread.node, role]
  have refused : new.held.settled = thread.held.settled → new.held.settled = some false →
      ∀ data, new.node = some data → data ∈ state.rejected := by
    intro same settled data own
    rw [node] at own
    exact inv.working.refused thread (List.mem_of_getElem? found) (same ▸ settled) data own
  cases effect with
  | pushMsg session =>
    refine ⟨⟨accounted, ?_, inv.managed.same rfl running rfl rfl⟩, forward_of_managers rfl⟩
    refine inv.working.set found rfl role safe (refused (by rw [held]; rfl)) (List.Subset.refl _) ?_
      inv.working.requested
    intro other mem
    cases List.mem_append.mp mem with
    | inl old => exact inv.working.queued other old
    | inr last =>
      rw [List.mem_singleton.mp last]
      exact allowed.2
  | sendRequest session procType info =>
    refine ⟨⟨accounted, ?_, inv.managed.same rfl running rfl rfl⟩, forward_of_managers rfl⟩
    refine inv.working.set found rfl role safe (refused (by rw [held]; rfl)) (List.Subset.refl _)
      inv.working.queued ?_
    intro other mem
    cases List.mem_append.mp mem with
    | inl old => exact inv.working.requested other old
    | inr last =>
      rw [List.mem_singleton.mp last]
      exact allowed.2
  | final session err none =>
    refine ⟨⟨accounted, ?_, inv.managed.same rfl running rfl ?_⟩, forward_of_managers rfl⟩
    · exact inv.working.set found rfl role safe (refused (by rw [held]; rfl)) (List.Subset.refl _)
        inv.working.queued inv.working.requested
    · simp [marked, Session.entry, none]
  | finalMarks session err data own =>
    -- the node is one that was handed out: its session was made
    have made := inv.accounted.made_of_held found (show session.entry ∈ thread.held.entries from allowed)
    have handled : data ∈ state.handled := by
      apply inv.accounted.handled_of_made
      exact List.mem_filterMap.mpr ⟨session.entry, made, own⟩
    refine PoolInv.of_managed accounted ?_
      (inv.managed.markDone (ofPartition_of_mem handled) rfl running rfl ?_)
    · exact inv.working.set found rfl role safe (refused (by rw [held]; rfl)) (List.Subset.refl _)
        inv.working.queued inv.working.requested
    · intro partition node
      simp [marked, Session.entry, own, markDone, or_assoc]
  | storeDone data =>
    -- the node is the one that the thread works for, and it was not settled before
    have handled : data ∈ state.handled := by
      apply inv.accounted.handled_of_unsettled
      refine List.mem_filterMap.mpr ⟨thread, List.mem_of_getElem? found, ?_⟩
      rw [PoolThread.unsettled, if_pos allowed.2]
      exact allowed.1
    refine PoolInv.of_managed accounted ?_
      (inv.managed.markDone (ofPartition_of_mem handled) rfl running rfl ?_)
    · refine inv.working.set found rfl role safe ?_ (List.subset_append_left _ _) inv.working.queued
        inv.working.requested
      intro _ other own
      rw [node, allowed.1] at own
      cases own
      exact List.mem_append_right _ (List.mem_singleton_self _)
    · intro partition node
      simp only [marked, markDone, ofPartition_append, ofPartition_singleton]
      exact or_right_comm
  | makeShared kafkaData =>
    refine ⟨⟨accounted, ?_, inv.managed.same rfl running rfl rfl⟩, forward_of_managers rfl⟩
    refine inv.working.set found rfl role safe ?_ (List.Subset.refl _) inv.working.queued
      inv.working.requested
    cases own : kafkaData.data with
    | none => exact refused (by rw [held]; simp [Held.after, own])
    | some data =>
      rw [held]
      intro impossible
      simp [Held.after, own] at impossible
  | destroy session =>
    refine ⟨⟨accounted, ?_, inv.managed.same rfl running rfl rfl⟩, forward_of_managers rfl⟩
    exact inv.working.set found rfl role safe (refused (by rw [held]; rfl)) (List.Subset.refl _)
      inv.working.queued inv.working.requested
  | outside request answer outside =>
    rw [Held.after_outside outside] at held
    refine ⟨⟨accounted, ?_, inv.managed.same rfl running rfl rfl⟩, forward_of_managers rfl⟩
    exact inv.working.set found rfl role safe (refused (by rw [held])) (List.Subset.refl _)
      inv.working.queued inv.working.requested

/-- What returns holds no session, and its node is settled. -/
theorem Working.returned (working : Working state) {index : Nat} {thread : PoolThread} {accepted : Bool}
    (found : state.threads[index]? = some thread) (returned : thread.program = .ret accepted) :
    thread.held = { settled := thread.node.map fun _ => accepted } ∧ thread.held.entries = [] ∧
      thread.unsettled = none := by
  have empty : thread.held = { settled := thread.node.map fun _ => accepted } := by
    have kept := working.safe thread (List.mem_of_getElem? found)
    rw [PoolThread.Safe, returned] at kept
    exact kept _ rfl
  refine ⟨empty, by rw [empty], ?_⟩
  rw [PoolThread.unsettled, empty]
  cases thread.node <;> rfl

/-- A worker or a callback is done with its session. -/
theorem poolInv_returns (inv : PoolInv state) {index : Nat} {thread : PoolThread} {accepted : Bool}
    (found : state.threads[index]? = some thread) (returned : thread.program = .ret accepted)
    (other : ∀ owner data, thread.role ≠ .handler owner data) :
    PoolInv { state with threads := state.threads.eraseIdx index } ∧
      Forward state { state with threads := state.threads.eraseIdx index } := by
  obtain ⟨-, entries, settled⟩ := inv.working.returned found returned
  refine ⟨⟨inv.accounted.remove found entries settled _, inv.working.remove index _, ?_⟩,
    forward_of_managers rfl⟩
  have noNode : ∀ partition, thread.role.handlerNode partition = none := by
    intro partition
    cases role : thread.role with
    | worker | callback => rfl
    | handler owner data => exact absurd role (other owner data)
  exact inv.managed.same rfl (fun partition => running_remove found rfl (noNode partition)) rfl rfl

/-- `handle` is done with its node. -/
theorem poolInv_handled (inv : PoolInv state) {index : Nat} {thread : PoolThread} {accepted : Bool}
    {owner : Owner} {data : PmPtr} {manager : PartitionState} (found : state.threads[index]? = some thread)
    (returned : thread.program = .ret accepted) (role : thread.role = .handler owner data)
    (moved : (state.manager data.partition).step commitNum (.advance owner (handleReturns accepted)) =
      some manager)
    (after : next = { state with
      threads := state.threads.eraseIdx index
      consumer := state.consumer.setManager data.partition manager }) :
    PoolInv next ∧ Forward state next := by
  have mem := List.mem_of_getElem? found
  obtain ⟨empty, entries, settled⟩ := inv.working.returned found returned
  obtain rfl := inv.working.owner thread mem owner data role
  have own : thread.role.handlerNode data.partition = some data.node := by simp [role, Role.handlerNode]
  obtain ⟨running, known, handedOut⟩ := inv.managed data.partition
  obtain ⟨rfl, gone⟩ := running_return found own known
  -- a rejected message: the node was marked by `storeDone`
  have refused : handleReturns accepted (.handle data.node) = false →
      ofPartition state.marked data.partition data.node := by
    intro rejected
    apply ofPartition_of_mem
    apply List.mem_append_left
    refine inv.working.refused thread mem ?_ data (by rw [PoolThread.node, role])
    rw [empty, PoolThread.node, role]
    exact congrArg some rejected
  obtain ⟨later, states⟩ := handedOut.returnHandle refused moved
  subst after
  refine PoolInv.of_managed (inv.accounted.remove found entries settled _) (inv.working.remove index _)
    ⟨?_, forward_update rfl fun node => .inl (states node)⟩
  refine inv.managed.update rfl ?_ ⟨none, gone, later⟩
  intro other different
  refine ⟨running_remove found rfl ?_, fun _ => Iff.rfl, fun _ => Iff.rfl⟩
  rw [role, Role.handlerNode, if_neg (Ne.symm different)]

theorem poolInv_step (inv : PoolInv state) {label : PoolLabel}
    (stepped : state.step env commitNum workerNum maxTaskNum label = some next) :
    PoolInv next ∧ Forward state next := by
  have step := step_cases stepped
  cases label with
  | process msg => exact poolInv_process inv stepped
  | manager partition label => exact poolInv_manager inv step
  | handle partition owner => exact poolInv_handle inv step
  | get => exact poolInv_get inv step
  | respond index response => exact poolInv_respond inv step
  | advance index answer =>
    cases step with
    | returns thread accepted found returned other => exact poolInv_returns inv found returned other
    | handled thread accepted owner data manager found returned role moved =>
      exact poolInv_handled inv found returned role moved rfl
    | calls thread request rest given result found calling executed =>
      have kept := inv.working.safe thread (List.mem_of_getElem? found)
      rw [PoolThread.Safe, calling] at kept
      refine poolInv_exec inv found kept.called.1 (effect_of_exec executed) ?_ ?_ ?_ rfl
      · rfl
      · rfl
      · exact kept.called.2 given _ rfl

end Steps

end PoolState

/-! ## No session is lost or duplicated -/

/-- What holds of the nodes and the sessions in every reachable state. -/
structure SessionsKept (state : PoolState) : Prop where
  /-- `handle` is called once for a node, and for every node but the one that a running
      `emplace_back` is about to hand out. -/
  handledOnce : (state.handled.map PmPtr.place).Nodup
  handledAll : ∀ partition, ∀ node < (state.manager partition).world.nodes.length,
    (partition, node) ∈ state.handled.map PmPtr.place ∨
      (state.manager partition).world.pending = some node
  /-- A node handed out was rejected, has one session, or is still with its `handle`. -/
  settledOnce : (state.rejected ++ state.madeNodes ++ state.unsettled).Perm state.handled
  /-- A session is in one place, or finalised, or dropped, and only one of these once. -/
  refs : (state.made.map Prod.fst).Nodup
  known : ∀ entry ∈ state.places ++ state.finals ++ state.dropped, entry ∈ state.made
  onePlace : ∀ entry ∈ state.made,
    state.places.count entry + state.finals.count entry + state.dropped.count entry = 1
  dropped : ∀ entry ∈ state.dropped, entry.2 = none
  unfinished : ∀ session ∈ state.queue ++ state.requests.map Prod.fst, session.isFinished = false
  /-- A node is done when its message was rejected or its session has executed `Final`. -/
  done : ∀ partition node, (state.manager partition).world.stateAt node = some .done ↔
    (partition, node) ∈ state.rejected.map PmPtr.place ∨
      ∃ entry ∈ state.finals, ∃ data, entry.2 = some data ∧ data.place = (partition, node)

namespace PoolState

theorem PoolInv.sessionsKept {state : PoolState} (inv : PoolInv state) : SessionsKept state where
  handledOnce := inv.accounted.distinct
  handledAll partition node bound := by
    obtain ⟨running, -, handedOut⟩ := inv.managed partition
    exact handedOut.order.all node bound
  settledOnce := by
    rw [List.perm_iff_count]
    intro data
    simp only [List.count_append]
    exact inv.accounted.nodes data
  refs := inv.accounted.refs ▸ List.nodup_range
  known entry mem := by
    have sessions := inv.accounted.sessions entry
    have positive := List.count_pos_iff.mpr mem
    simp only [List.count_append] at positive
    exact List.count_pos_iff.mp (by omega)
  onePlace entry mem := by
    have distinct : state.made.Nodup := by
      apply List.Nodup.of_map Prod.fst
      rw [inv.accounted.refs]
      exact List.nodup_range
    rw [inv.accounted.sessions entry]
    exact List.count_eq_one_of_mem distinct mem
  dropped := inv.accounted.dropped
  unfinished session mem := by
    cases List.mem_append.mp mem with
    | inl queued => exact inv.working.queued session queued
    | inr requested =>
      obtain ⟨pending, waits, rfl⟩ := List.mem_map.mp requested
      exact inv.working.requested pending waits
  done partition node := by
    obtain ⟨running, -, handedOut⟩ := inv.managed partition
    rw [handedOut.order.done, marked, ofPartition_append]
    apply or_congr Iff.rfl
    simp only [ofPartition, List.mem_map, List.mem_filterMap]
    constructor
    · rintro ⟨data, ⟨entry, mem, own⟩, place⟩
      exact ⟨entry, mem, data, own, place⟩
    · rintro ⟨entry, mem, data, own, place⟩
      exact ⟨data, ⟨entry, mem, own⟩, place⟩

end PoolState

theorem poolInv {env : Env} {commitNum : Int} {workerNum maxTaskNum : Nat} {state : PoolState}
    (reachable : (poolMachine env commitNum workerNum maxTaskNum).Reachable state) :
    PoolState.PoolInv state := by
  refine reachable.invariant PoolState.PoolInv.start ?_
  intro before label next inv stepped
  exact (PoolState.poolInv_step inv stepped).1

theorem sessions_kept (env : Env) (commitNum : Int) (workerNum maxTaskNum : Nat) (state : PoolState)
    (reachable : (poolMachine env commitNum workerNum maxTaskNum).Reachable state) :
    SessionsKept state ∧ ∀ label next,
      (poolMachine env commitNum workerNum maxTaskNum).step state label = some next →
        PoolState.Forward state next := by
  have inv := poolInv reachable
  exact ⟨inv.sessionsKept, fun label next stepped => (PoolState.poolInv_step inv stepped).2⟩

/-! ## A session that is dropped -/

def messageJson (payload : String) (ptype : Int) : Json :=
  .object [("data", .object [("app_id", .string "a"), ("did", .string "d"),
    ("payload", .string payload), ("ptype", .int ptype)]), ("msg_id", .string "m")]

/-- A trace message with one face, and a business message of type 2. -/
def traceMessage : String :=
  "\x7b\"data\":\x7b\"app_id\":\"a\",\"did\":\"d\",\"payload\":\"\x7b\\\"capture\\\":\x7b\\\"pesn\\\":\x7b\\\"face\\\":[\x7b\\\"uri\\\":\\\"h/b/k\\\"\x7d]\x7d\x7d\x7d\",\"ptype\":8\x7d,\"msg_id\":\"m\"\x7d"

def businessMessage : String :=
  "\x7b\"data\":\x7b\"app_id\":\"a\",\"did\":\"d\",\"payload\":\"\x7b\\\"event\\\":\x7b\\\"msg_type\\\":2\x7d\x7d\",\"ptype\":32\x7d,\"msg_id\":\"m\"\x7d"

/-- The record of a key under which the business message waits. -/
def waitingRecord : String :=
  "\x7b\"message_list\":[\"\x7b\\\"data\\\":\x7b\\\"app_id\\\":\\\"a\\\",\\\"did\\\":\\\"d\\\",\\\"payload\\\":\\\"\x7b\\\\\\\"event\\\\\\\":\x7b\\\\\\\"msg_type\\\\\\\":2\x7d\x7d\\\",\\\"ptype\\\":32\x7d,\\\"msg_id\\\":\\\"m\\\"\x7d\"],\"ptype\":32\x7d"

/-- An answer of the trace-space service with the code that only `ProcTraceSpaceResponse` accepts. -/
def noPersonAnswer : String :=
  "\x7b\"error_code\":-10041,\"result\":\x7b\"person_result\":\x7b\x7d,\"track_result\":\x7b\x7d\x7d\x7d"

def poolTable : List (String × Json) :=
  [(traceMessage, messageJson "\x7b\"capture\":\x7b\"pesn\":\x7b\"face\":[\x7b\"uri\":\"h/b/k\"\x7d]\x7d\x7d\x7d" 8),
    ("\x7b\"capture\":\x7b\"pesn\":\x7b\"face\":[\x7b\"uri\":\"h/b/k\"\x7d]\x7d\x7d\x7d",
      .object [("capture", .object [("pesn", .object [("face", .array [.object [("uri", .string "h/b/k")]])])])]),
    (businessMessage, messageJson "\x7b\"event\":\x7b\"msg_type\":2\x7d\x7d" 32),
    ("\x7b\"event\":\x7b\"msg_type\":2\x7d\x7d", .object [("event", .object [("msg_type", .int 2)])]),
    (waitingRecord, .object [("message_list", .array [.string businessMessage]), ("ptype", .int 32)]),
    (noPersonAnswer, .object [("error_code", .int (-10041)),
      ("result", .object [("person_result", .object []), ("track_result", .object [])])])]

def poolEnv : Env where
  text := tableText poolTable
  conf := { getValue := fun _ _ => some "/", getIntValue := fun _ _ => none }
  uninit := { timestamp := 0, similar := 0 }

/-- Every command succeeds, and Redis holds one value. -/
def redisHolds (value : String) : ∀ request : FlowCall, request.Answer
  | .redisGet _ => .string value
  | request => request.succeed

def poolCalls (index count : Nat) : List PoolLabel :=
  List.replicate count (.advance index (redisHolds waitingRecord))

/-- A message is delivered, and its session pushed by the thread at the index. -/
def deliver (payload : String) (offset : Int) (index : Nat) : List PoolLabel :=
  .process ⟨"gzc", 0, offset, payload⟩ ::
    List.replicate 5 (.manager 0 (.advance .consumer Consumer.acceptAll)) ++ .handle 0 .consumer ::
    poolCalls index 3 ++ List.replicate 2 (.manager 0 (.advance .consumer Consumer.acceptAll))

/-- The session of the trace message runs up to the end of its picture wait. -/
def traceThroughWait : List PoolLabel :=
  deliver traceMessage 0 0 ++ .get :: poolCalls 0 4 ++
    .get :: poolCalls 0 2 ++ .respond 0 (some ⟨"200 OK", "x"⟩) :: poolCalls 0 2 ++
    .get :: poolCalls 0 2 ++ .respond 0 (some ⟨"200 OK", noPersonAnswer⟩) :: poolCalls 0 2 ++
    .get :: poolCalls 0 9

set_option maxRecDepth 4000 in
/-- The session that `handleFromRedis` has made of the waiting message is nowhere, and has not
    executed `Final`: `getPersonResult` does not accept the answer. -/
theorem session_dropped :
    ∃ state, (poolMachine poolEnv 1 1 10).run (poolMachine poolEnv 1 1 10).start traceThroughWait =
        some state ∧ state.threads.length = 0 ∧ (1, none) ∈ state.made ∧
      (1, none) ∉ state.finals ∧ state.places.count (1, none) = 0 :=
  ⟨_, rfl, rfl, by decide, by decide, by decide⟩

end XBusiness
