import XBusiness.Consumer.LockDiscipline
import XBusiness.Consumer.Pass
import XBusiness.Workflow.Delivery
import XBusiness.Workflow.PoolDeadlock

/-! # The pool at rest

What is left when no thread of the service can go on: no worker finds a session, every response has come,
and neither a message arrives nor a scan begins.

* `disciplined_managers` — the managers of the pool keep their mutexes.
* `manager_idle` — without a thread at work nothing is left inside a manager.
* `rest_settles` — at rest everything is settled, unless an exception has left a thread or the workers
  are deadlocked.
* `pass_empties` — then one pass of a manager commits the last message of its partition.
-/

namespace XBusiness

open Interaction
open Consumer (Owner PartitionCall PartitionLabel PartitionProg PartitionState ConsumerState Message
  NodeState HandedOut partitionMachine partitionStep_of_step floorCommitNum doSomething)

/-- The partition where something begins: its next message arrives, or its manager begins a pass. -/
def PoolLabel.begins : PoolLabel → Option Int
  | .process msg => some msg.partition
  | .manager partition .doSomething => some partition
  | .manager _ _ | .handle _ _ | .get | .respond _ _ | .advance _ _ => none

namespace PoolState

/-! ## States at rest -/

/-- Nothing that has begun can go on. -/
def AtRest (env : Env) (commitNum : Int) (workerNum maxTaskNum : Nat) (state : PoolState) : Prop :=
  ∀ label : PoolLabel, label.begins = none → state.step env commitNum workerNum maxTaskNum label = none

/-- An exception has left a function of a thread. -/
def Faulted (state : PoolState) : Prop :=
  ∃ thread ∈ state.threads, ∃ fault, thread.program = .raise fault

/-- No function of the manager runs. -/
def IdleAt (state : PoolState) (partition : Int) : Prop :=
  ∀ owner, (state.manager partition).program owner = none

/-- Nothing is left to do: no session waits or is at work, and every message taken is done. -/
structure Settled (state : PoolState) : Prop where
  queue : state.queue = []
  threads : state.threads = []
  requests : state.requests = []
  idle : ∀ partition, state.IdleAt partition
  done : ∀ partition, ∀ node < (state.manager partition).world.nodes.length,
    (state.manager partition).world.stateAt node = some .done
  /-- Every session made has executed `Final` once, or was dropped by `handleFromRedis`. -/
  sessions : ∀ entry ∈ state.made, state.finals.count entry + state.dropped.count entry = 1

/-! ## The mutexes -/

section Managers

variable {env : Env} {commitNum : Int} {workerNum maxTaskNum : Nat} {state next : PoolState}

theorem disciplined_step (disciplined : ∀ partition, (state.manager partition).Disciplined) {label : PoolLabel}
    (stepped : state.step env commitNum workerNum maxTaskNum label = some next) (partition : Int) :
    (next.manager partition).Disciplined := by
  by_cases arrives : ∃ msg, label = .process msg
  · obtain ⟨msg, rfl⟩ := arrives
    rcases (process_cases stepped).2.2 with ⟨-, same⟩ | ⟨data, manager, -, emplaced, managers⟩
    · rw [PoolState.manager, same]
      exact disciplined partition
    · rw [PoolState.manager, managers]
      by_cases own : partition = msg.partition
      · subst own
        rw [Function.update_self]
        exact (disciplined msg.partition).step emplaced
      · rw [Function.update_of_ne own]
        exact disciplined partition
  · have moves := poolMoves_of_step (fun msg same => arrives ⟨msg, same⟩) stepped
    cases moves.managers partition with
    | kept same =>
      rw [same]
      exact disciplined partition
    | step label _ moved => exact (disciplined partition).step moved

end Managers

theorem disciplined_managers {env : Env} {commitNum : Int} {workerNum maxTaskNum : Nat} {state : PoolState}
    (reachable : (poolMachine env commitNum workerNum maxTaskNum).Reachable state) :
    ∀ partition, (state.manager partition).Disciplined := by
  refine @Machine.Reachable.invariant _ _ _ (fun state => ∀ partition, (state.manager partition).Disciplined)
    ?_ ?_ state reachable
  · exact fun _ => PartitionState.disciplined_start
  · exact fun _ _ _ disciplined stepped => disciplined_step disciplined stepped

/-! ## Idle managers -/

section Idle

variable {env : Env} {commitNum : Int} {workerNum maxTaskNum : Nat} {state next : PoolState} {partition : Int}

theorem IdleAt.update (idle : state.IdleAt partition) {own : Int} {manager : PartitionState}
    (managers : next.consumer.managers = Function.update state.consumer.managers own manager)
    (kept : own = partition → ∀ owner, manager.program owner = none) : next.IdleAt partition := by
  intro owner
  rw [PoolState.manager, managers]
  by_cases same : partition = own
  · subst same
    rw [Function.update_self]
    exact kept rfl owner
  · rw [Function.update_of_ne same]
    exact idle owner

theorem IdleAt.same (idle : state.IdleAt partition) (managers : next.consumer.managers = state.consumer.managers) :
    next.IdleAt partition := by
  intro owner
  rw [PoolState.manager, managers]
  exact idle owner

/-- A function that does not run does not go on. -/
theorem IdleAt.advance (idle : state.IdleAt partition) {own : Int} {owner : Owner}
    {answer : ∀ request : PartitionCall, request.Answer} {manager : PartitionState}
    (moved : (state.manager own).step commitNum (.advance owner answer) = some manager)
    (managers : next.consumer.managers = Function.update state.consumer.managers own manager) :
    next.IdleAt partition := by
  apply idle.update managers
  rintro rfl
  rw [PartitionState.step_advance, idle owner] at moved
  cases moved

theorem IdleAt.effect (idle : state.IdleAt partition) {request : FlowCall} {answer : request.Answer}
    (effect : PoolState.Effect state request answer next) : next.IdleAt partition := by
  have marked : ∀ data : PmPtr, (state.markDone data).IdleAt partition := by
    intro data
    apply idle.update rfl
    rintro rfl owner
    have running := idle owner
    cases owner <;> exact running
  cases effect with
  | finalMarks session err data own => exact (marked data).same rfl
  | storeDone data => exact (marked data).same rfl
  | pushMsg | sendRequest | final | destroy | makeShared | outside => exact idle.same rfl

/-- A manager that gets no message and begins no pass stays idle. -/
theorem IdleAt.step (idle : state.IdleAt partition) {label : PoolLabel}
    (elsewhere : label.begins ≠ some partition)
    (stepped : state.step env commitNum workerNum maxTaskNum label = some next) : next.IdleAt partition := by
  cases PoolState.step_cases stepped with
  | process =>
    rcases (process_cases stepped).2.2 with ⟨-, same⟩ | ⟨data, manager, -, -, managers⟩
    · exact idle.same same
    · exact idle.update managers fun same => absurd (congrArg some same) elsewhere
  | @manager own label manager isOwn moved =>
    cases label with
    | emplaceBack data => cases isOwn
    | finish node => cases isOwn
    | advance owner answer => exact idle.advance moved rfl
    | doSomething => exact idle.update rfl fun same => absurd (congrArg some same) elsewhere
  | handle | get | respond | returns => exact idle.same rfl
  | handled thread accepted owner data manager found returned role moved => exact idle.advance moved rfl
  | calls thread request rest given result found calling executed =>
    exact (idle.effect (PoolState.effect_of_exec executed)).same rfl

theorem IdleAt.run (idle : state.IdleAt partition) {labels : List PoolLabel}
    (elsewhere : ∀ label ∈ labels, label.begins ≠ some partition)
    (ran : (poolMachine env commitNum workerNum maxTaskNum).run state labels = some next) :
    next.IdleAt partition := by
  induction labels generalizing state with
  | nil =>
    cases ran
    exact idle
  | cons label labels inductionHypothesis =>
    obtain ⟨middle, stepped, rest⟩ := Machine.run_cons_eq_some ran
    exact inductionHypothesis (idle.step (elsewhere label List.mem_cons_self) stepped)
      (fun label mem => elsewhere label (List.mem_cons_of_mem _ mem)) rest

end Idle

/-! ## What waits -/

section Rest

variable {env : Env} {commitNum : Int} {workerNum maxTaskNum : Nat} {state : PoolState}

/-- A function can return to its thread, `handle` to the `emplace_back` that has called it. -/
theorem returns_enabled (inv : PoolInv state) {index : Nat} {thread : PoolThread}
    (found : state.threads[index]? = some thread) (accepted : Bool) :
    ∃ next, state.returns commitNum index thread.role accepted = some next := by
  cases role : thread.role with
  | worker => exact ⟨_, rfl⟩
  | callback => exact ⟨_, rfl⟩
  | handler owner data =>
    obtain rfl := inv.working.owner thread (List.mem_of_getElem? found) owner data role
    have own : thread.role.handlerNode data.partition = some data.node := by simp [role, Role.handlerNode]
    obtain ⟨running, known, handedOut⟩ := inv.managed data.partition
    obtain ⟨rfl, -⟩ := running_return found own known
    obtain ⟨rest, calling, -⟩ := handedOut.busy data.node rfl
    have stepped : ∃ manager, (state.manager data.partition).step commitNum
        (.advance .consumer (handleReturns accepted)) = some manager := by
      rw [PartitionState.step, calling]
      exact ⟨_, rfl⟩
    obtain ⟨manager, stepped⟩ := stepped
    refine ⟨{ state with
      threads := state.threads.eraseIdx index
      consumer := state.consumer.setManager data.partition manager }, ?_⟩
    have same : ({ state with threads := state.threads.eraseIdx index } : PoolState).manager data.partition =
        state.manager data.partition := rfl
    rw [PoolState.returns, stepManager, same, stepped]
    rfl

/-- At rest a thread that no exception has left waits in `Put`. -/
theorem waits_of_rest (inv : PoolInv state) (rest : state.AtRest env commitNum workerNum maxTaskNum)
    {thread : PoolThread} (mem : thread ∈ state.threads)
    (unraised : ∀ fault, thread.program ≠ .raise fault) :
    thread.isPushing = true ∧ maxTaskNum ≤ state.queue.length := by
  obtain ⟨index, found⟩ := List.mem_iff_getElem?.mp mem
  have stuck : state.advance commitNum maxTaskNum index FlowCall.succeed = none := rest (.advance index _) rfl
  rw [PoolState.advance, found, Option.bind_some] at stuck
  cases calling : thread.program with
  | ret accepted =>
    rw [calling] at stuck
    have returned : ∃ next, state.returns commitNum index thread.role accepted = some next :=
      returns_enabled inv found accepted
    obtain ⟨next, returned⟩ := returned
    dsimp only at stuck
    rw [returned] at stuck
    cases stuck
  | raise fault => exact absurd calling (unraised fault)
  | call request continuation =>
    rw [calling] at stuck
    have unable : state.exec maxTaskNum request (FlowCall.succeed request) = none := by
      simpa using stuck
    by_contra moving
    obtain ⟨result, effect⟩ : ∃ result,
        state.exec maxTaskNum request (FlowCall.succeed request) = some result := by
      apply exec_isSome
      rintro session rfl
      by_contra full
      exact moving ⟨by rw [PoolThread.isPushing, calling], by omega⟩
    rw [unable] at effect
    cases effect

/-- Without a thread at work a manager has nothing that it could wait for. -/
theorem manager_idle (inv : PoolInv state) (rest : state.AtRest env commitNum workerNum maxTaskNum)
    (empty : state.threads = []) {partition : Int} (disciplined : (state.manager partition).Disciplined)
    (owner : Owner) : (state.manager partition).program owner = none := by
  obtain ⟨running, known, handedOut⟩ := inv.managed partition
  obtain rfl : running = none := by
    cases running with
    | none => rfl
    | some node =>
      rw [PoolState.running, empty] at known
      cases known
  have notCalling : ∀ other, calling (state.manager partition) other = none := by
    intro other
    apply Option.eq_none_iff_forall_ne_some.mpr
    intro node called
    cases other with
    | scanner =>
      obtain ⟨continuation, scanning⟩ := handle_of_handleNode called
      exact handedOut.scanner_not_calling scanning
    | consumer =>
      -- a node about to be handed out could be
      obtain ⟨continuation, delivering⟩ := handle_of_handleNode called
      have doing := (handedOut.idle rfl _ delivering).called.1.2.2
      obtain ⟨msg, known⟩ : ∃ msg, (state.manager partition).world.messages[node]? = some msg := by
        refine ⟨_, List.getElem?_eq_getElem ?_⟩
        rw [Consumer.Partition.length_messages]
        exact Consumer.Partition.lt_of_stateAt doing
      have stuck := rest (.handle partition .consumer) rfl
      rw [PoolState.step, callHandle, called, Option.bind_some, known, Option.bind_some, empty] at stuck
      cases stuck
  have waits : ∀ other program, (state.manager partition).program other = some program →
      ¬ ((state.manager partition).world.mutex = none ∨
        (state.manager partition).world.mutex = some other) := by
    intro other program found free
    have enabled : ∃ manager, (state.manager partition).step commitNum (.advance other Consumer.acceptAll) =
        some manager := disciplined.enabled found free Consumer.acceptAll
    obtain ⟨manager, stepped⟩ := enabled
    have stuck := rest (.manager partition (.advance other Consumer.acceptAll)) rfl
    rw [PoolState.step, if_pos (by simp [isOwnStep, notCalling]), stepManager, stepped] at stuck
    cases stuck
  by_contra busy
  obtain ⟨program, found⟩ := Option.ne_none_iff_exists'.mp busy
  -- so another thread has the mutex, and it is running too
  cases held : (state.manager partition).world.mutex with
  | none => exact waits owner program found (.inl held)
  | some holder =>
    have runs : (state.manager partition).program holder ≠ none := fun none => disciplined.idle holder none held
    obtain ⟨program, found⟩ := Option.ne_none_iff_exists'.mp runs
    exact waits holder program found (.inr held)

/-- Without a thread at work a message that was taken is done. -/
theorem done_of_idle (inv : PoolInv state) (queue : state.queue = []) (threads : state.threads = [])
    (requests : state.requests = []) {partition : Int}
    (disciplined : (state.manager partition).Disciplined)
    (idle : (state.manager partition).program .consumer = none) {node : Nat}
    (bound : node < (state.manager partition).world.nodes.length) :
    (state.manager partition).world.stateAt node = some .done := by
  obtain ⟨running, -, handedOut⟩ := inv.managed partition
  have handled : ofPartition state.handled partition node := by
    apply (handedOut.order.all node bound).resolve_right
    intro pending
    exact disciplined.idle .consumer idle (handedOut.safe.wf.pendingLast node pending).1
  rw [handedOut.order.done]
  obtain ⟨data, mem, place⟩ := List.mem_map.mp handled
  suffices marked : data ∈ state.marked from List.mem_map.mpr ⟨data, marked, place⟩
  -- it was rejected, or its session is nowhere but among the finalised ones
  have nodes := inv.accounted.nodes data
  have positive := List.count_pos_iff.mpr mem
  simp only [PoolState.unsettled, threads, List.filterMap_nil, List.count_nil] at nodes
  by_cases rejected : data ∈ state.rejected
  · exact List.mem_append_left _ rejected
  · rw [List.count_eq_zero_of_not_mem rejected] at nodes
    have made : data ∈ state.madeNodes := List.count_pos_iff.mp (by omega)
    obtain ⟨entry, made, own⟩ := List.mem_filterMap.mp made
    have sessions := inv.accounted.sessions entry
    have positive := List.count_pos_iff.mpr made
    have notDropped : entry ∉ state.dropped := by
      intro dropped
      rw [inv.accounted.dropped entry dropped] at own
      cases own
    simp only [places, queue, threads, requests, List.map_nil, List.flatMap_nil, List.append_nil,
      List.count_nil, List.count_eq_zero_of_not_mem notDropped] at sessions
    have final : entry ∈ state.finals := List.count_pos_iff.mp (by omega)
    exact List.mem_append_right _ (List.mem_filterMap.mpr ⟨entry, final, own⟩)

theorem settled_of_idle (inv : PoolInv state) (disciplined : ∀ partition, (state.manager partition).Disciplined)
    (queue : state.queue = []) (threads : state.threads = []) (requests : state.requests = [])
    (idle : ∀ partition, state.IdleAt partition) : state.Settled := by
  refine ⟨queue, threads, requests, idle, ?_, ?_⟩
  · intro partition node bound
    exact done_of_idle inv queue threads requests (disciplined partition) (idle partition .consumer) bound
  · intro entry made
    have one := inv.sessionsKept.onePlace entry made
    simpa [places, queue, threads, requests] using one

theorem settled_of_no_threads (inv : PoolInv state)
    (disciplined : ∀ partition, (state.manager partition).Disciplined) (hasWorker : 1 ≤ workerNum)
    (rest : state.AtRest env commitNum workerNum maxTaskNum) (threads : state.threads = []) :
    state.Settled := by
  have queue : state.queue = [] := by
    cases queue : state.queue with
    | nil => rfl
    | cons session waiting =>
      have free : state.workers.length < workerNum := by
        rw [workers, threads]
        exact hasWorker
      have stuck := rest .get rfl
      rw [PoolState.step, PoolState.get, if_pos free, queue] at stuck
      cases stuck
  have requests : state.requests = [] := by
    cases requests : state.requests with
    | nil => rfl
    | cons pending waiting =>
      have stuck := rest (.respond 0 none) rfl
      rw [PoolState.step, PoolState.respond, requests] at stuck
      cases stuck
  apply settled_of_idle inv disciplined queue threads requests
  exact fun partition => manager_idle inv rest threads (disciplined partition)

/-- Where nothing runs and nothing waits, nothing goes on. -/
theorem atRest_of_idle (queue : state.queue = []) (threads : state.threads = []) (requests : state.requests = [])
    (idle : ∀ partition, state.IdleAt partition) :
    state.AtRest env commitNum workerNum maxTaskNum := by
  intro label goesOn
  cases label with
  | process msg => cases goesOn
  | manager partition label =>
    cases label with
    | doSomething => cases goesOn
    | emplaceBack data => rfl
    | finish node => rfl
    | advance owner answer =>
      rw [PoolState.step, stepManager, PartitionState.step_advance, idle partition owner]
      exact ite_self none
  | handle partition owner =>
    have none : calling (state.manager partition) owner = none := by
      cases owner
      · rw [calling, show (state.manager partition).consumer = none from idle partition .consumer]
        rfl
      · rw [calling, show (state.manager partition).scanner = none from idle partition .scanner]
        rfl
    rw [PoolState.step, callHandle, none]
    rfl
  | get =>
    rw [PoolState.step, PoolState.get, queue]
    exact ite_self none
  | respond index response =>
    rw [PoolState.step, PoolState.respond, requests]
    rfl
  | advance index answer =>
    rw [PoolState.step, PoolState.advance, threads]
    rfl

end Rest

end PoolState

open PoolState in
/-- The service comes to rest in one of three ways: a thread is gone with an exception, the workers wait
    for each other in `Put`, or everything it took is settled. -/
theorem rest_settles (env : Env) (commitNum : Int) (workerNum maxTaskNum : Nat) (hasWorker : 1 ≤ workerNum)
    (hasRoom : 1 ≤ maxTaskNum) (state : PoolState)
    (reachable : (poolMachine env commitNum workerNum maxTaskNum).Reachable state)
    (rest : state.AtRest env commitNum workerNum maxTaskNum) :
    state.Faulted ∨ state.Deadlocked workerNum maxTaskNum ∨ state.Settled := by
  have inv := poolInv reachable
  by_cases faulted : state.Faulted
  · exact .inl faulted
  right
  have waits : ∀ thread ∈ state.threads, thread.isPushing = true ∧ maxTaskNum ≤ state.queue.length :=
    fun thread mem => waits_of_rest inv rest mem fun fault raised => faulted ⟨thread, mem, fault, raised⟩
  cases threads : state.threads with
  | nil => exact .inr (settled_of_no_threads inv (disciplined_managers reachable) hasWorker rest threads)
  | cons thread others =>
    -- the queue is full, and no worker is left to take a session from it
    have full : maxTaskNum ≤ state.queue.length := (waits thread (by simp [threads])).2
    refine .inl ⟨full, ?_, fun worker mem => (waits worker (List.mem_filter.mp mem).1).1⟩
    by_contra idle
    have stuck := rest .get rfl
    rw [PoolState.step, PoolState.get, if_pos (by omega)] at stuck
    cases queue : state.queue with
    | nil =>
      rw [queue, List.length_nil] at full
      omega
    | cons session waiting =>
      rw [queue] at stuck
      cases stuck

/-- The worker takes the session, whose request fails. -/
def failedRequest : List PoolLabel := .get :: poolCalls 0 2 ++ .respond 0 none :: poolCalls 0 2

/-- A message comes, and its session runs up to the end of the retries of its download. -/
def traceThroughRetries : List PoolLabel :=
  deliver traceMessage 0 0 ++ .get :: poolCalls 0 4 ++ (List.replicate 4 failedRequest).flatten

open PoolState in
set_option maxRecDepth 4000 in
/-- The run ends where nothing goes on. -/
theorem traceThroughRetries_rests :
    ∃ state, (poolMachine poolEnv 1 1 10).run (poolMachine poolEnv 1 1 10).start traceThroughRetries =
        some state ∧ state.finals.length = 1 ∧ (state.manager 0).world.listData = [0] ∧
      state.threads = [] ∧ state.AtRest poolEnv 1 1 10 := by
  obtain ⟨state, ran, finals, listed, queue, threads, requests, idle⟩ : ∃ state,
      (poolMachine poolEnv 1 1 10).run (poolMachine poolEnv 1 1 10).start traceThroughRetries = some state ∧
        state.finals.length = 1 ∧ (state.manager 0).world.listData = [0] ∧ state.queue = [] ∧
        state.threads = [] ∧ state.requests = [] ∧ state.IdleAt 0 :=
    ⟨_, rfl, rfl, rfl, rfl, rfl, rfl, fun owner => by cases owner <;> rfl⟩
  refine ⟨state, ran, finals, listed, threads, atRest_of_idle queue threads requests fun partition => ?_⟩
  by_cases same : partition = 0
  · rw [same]
    exact idle
  · -- nothing begins in another partition
    have begins : ∀ label ∈ traceThroughRetries, label.begins = none ∨ label.begins = some 0 := by decide
    refine IdleAt.run (fun owner => by cases owner <;> rfl) (fun label mem => ?_) ran
    cases begins label mem with
    | inl none => simp [none]
    | inr own => simpa [own] using Ne.symm same

open PoolState in
theorem rest_settles_traceThroughRetries :
    ∃ state, (poolMachine poolEnv 1 1 10).run (poolMachine poolEnv 1 1 10).start traceThroughRetries =
        some state ∧ state.finals.length = 1 ∧ state.Settled := by
  obtain ⟨state, ran, finals, -, threads, rest⟩ := traceThroughRetries_rests
  refine ⟨state, ran, finals, ?_⟩
  rcases rest_settles poolEnv 1 1 10 (by decide) (by decide) state ⟨_, ran⟩ rest with
    ⟨thread, mem, -⟩ | ⟨-, busy, -⟩ | settled
  · rw [threads] at mem
    cases mem
  · rw [workers, threads] at busy
    cases busy
  · exact settled

/-! ## The pass over a settled partition -/

/-- A step of the scanning thread. -/
def isScan : PartitionLabel → Prop
  | .doSomething | .advance .scanner _ => True
  | .emplaceBack _ | .advance .consumer _ | .finish _ => False

section Pass

variable {env : Env} {commitNum : Int} {workerNum maxTaskNum : Nat}

/-- The last of the listed nodes is that of the last message. -/
theorem last_of_listed {world : Consumer.Partition} (wf : world.WellFormed) {node : Nat}
    (last : world.listData.getLast? = some node) : node + 1 = world.nodes.length := by
  obtain ⟨front, split⟩ := wf.suffix
  have range : (List.range world.nodes.length).getLast? = some node := by
    rw [← split, List.getLast?_append, last]
    rfl
  rw [List.getLast?_range] at range
  split at range
  · cases range
  · cases range
    omega

/-- A pass that begins while nothing runs, over nodes that are done, removes them all. -/
theorem pass_of_idle {state : PartitionState} (disciplined : state.Disciplined)
    (idle : ∀ owner, state.program owner = none)
    (done : ∀ node ∈ state.world.listData, state.world.stateAt node = some .done)
    (listed : state.world.listData ≠ []) (answer : ∀ request : PartitionCall, request.Answer) :
    ∃ count final, (partitionMachine commitNum).run state
        (.doSomething :: List.replicate count (.advance .scanner answer)) = some final ∧
      final.scanner = none ∧ final.world.listData = [] ∧ ∃ node result,
        node + 1 = state.world.nodes.length ∧ final.world.commits = state.world.commits ++ [(node, result)] := by
  have scannerIdle : state.scanner = none := idle .scanner
  have free : state.world.mutex = none := by
    apply Option.eq_none_iff_forall_ne_some.mpr
    exact fun owner => disciplined.idle owner (idle owner)
  have begun : (partitionMachine commitNum).step state .doSomething =
      some { state with scanner := some (doSomething (floorCommitNum commitNum)) } := by
    show PartitionState.step commitNum state .doSomething = _
    rw [PartitionState.step, scannerIdle]
  have passes : Consumer.PassSafe True (fun later status => Consumer.Passed commitNum state.world later status)
      (doSomething (floorCommitNum commitNum)) state.world :=
    Consumer.doSomething_passes (fun node mem => .inr (done node mem)) fun _ => free
  have ran : ∃ count final status, (partitionMachine commitNum).run
        { state with scanner := some (doSomething (floorCommitNum commitNum)) }
        (List.replicate count (.advance .scanner answer)) = some final ∧
      final.scanner = some (.ret status) ∧ Consumer.Passed commitNum state.world final.world status :=
    Consumer.pass_returns answer rfl passes
  obtain ⟨count, final, status, ran, returned, passed⟩ := ran
  have returns : (partitionMachine commitNum).step final (.advance .scanner answer) =
      some { final with scanner := none } := by
    show PartitionState.step commitNum final (.advance .scanner answer) = _
    rw [PartitionState.step, returned]
    rfl
  -- the prefix of done nodes is the whole list
  have whole : state.world.donePrefix = state.world.listData :=
    List.takeWhile_eq_self_iff.mpr fun node mem => decide_eq_true (done node mem)
  obtain ⟨node, result, last, commits, dropped, -⟩ :=
    passed.committed (.inl ⟨List.length_pos_iff.mpr listed, congrArg List.length whole⟩)
  rw [whole] at last dropped
  refine ⟨count + 1, { final with scanner := none }, ?_, rfl, ?_, node, result, ?_, commits⟩
  · rw [Machine.run_cons, begun, Option.bind_some, List.replicate_succ', Machine.run_append, ran,
      Option.bind_some, Machine.run_cons, returns]
    rfl
  · rw [dropped, List.drop_length]
  · apply last_of_listed disciplined.safe.wf
    rw [List.getLast?_eq_getElem?]
    exact last

/-- The steps of a scanning thread alone are those of its manager. -/
theorem run_scans {state : PoolState} {partition : Int} {labels : List PartitionLabel} {manager : PartitionState}
    (scans : ∀ label ∈ labels, isScan label) (safe : (state.manager partition).Safe fun _ _ => True)
    (ran : (partitionMachine commitNum).run (state.manager partition) labels = some manager) :
    (poolMachine env commitNum workerNum maxTaskNum).run state (labels.map (.manager partition)) =
      some { state with consumer := state.consumer.setManager partition manager } ∧
        manager.consumer = (state.manager partition).consumer := by
  induction labels generalizing state with
  | nil =>
    cases ran
    refine ⟨?_, rfl⟩
    rw [List.map_nil, Machine.run_nil, ConsumerState.setManager, PoolState.manager, Function.update_eq_self]
  | cons label labels inductionHypothesis =>
    obtain ⟨next, stepped, rest⟩ := Machine.run_cons_eq_some ran
    have stepped : (state.manager partition).step commitNum label = some next := stepped
    -- a scan hands out no node, so the pool leaves the step to the manager
    have own : isOwnStep (state.manager partition) label = true ∧
        next.consumer = (state.manager partition).consumer := by
      have scan := scans label List.mem_cons_self
      cases partitionStep_of_step stepped with
      | doSomething idle => exact ⟨rfl, rfl⟩
      | scanned answer returned =>
        refine ⟨decide_eq_true ?_, rfl⟩
        rw [calling, returned]
        rfl
      | @scannerCall answer request continuation given after scanning effect =>
        refine ⟨decide_eq_true ?_, rfl⟩
        rw [calling, scanning]
        cases request with
        | handle node => exact ((safe.scanner _ scanning).called.1).elim
        | _ => rfl
      | emplaceBack | finish | emplaced | consumerCall => exact scan.elim
    let later : PoolState := { state with consumer := state.consumer.setManager partition next }
    have same : later.manager partition = next := Function.update_self ..
    have moved : state.step env commitNum workerNum maxTaskNum (.manager partition label) = some later := by
      rw [PoolState.step, if_pos own.1, PoolState.stepManager, stepped]
      rfl
    have moved : (poolMachine env commitNum workerNum maxTaskNum).step state (.manager partition label) =
        some later := moved
    have safeNext : (later.manager partition).Safe fun _ _ => True := by
      rw [same]
      exact Consumer.partition_step_safe safe (fun _ _ => trivial) stepped
    have ranLater : (partitionMachine commitNum).run (later.manager partition) labels = some manager := by
      rw [same]
      exact rest
    obtain ⟨ranPool, kept⟩ := inductionHypothesis (fun label mem => scans label (List.mem_cons_of_mem _ mem))
      safeNext ranLater
    refine ⟨?_, ?_⟩
    · rw [List.map_cons, Machine.run_cons, moved, Option.bind_some, ranPool]
      simp only [later, ConsumerState.setManager, Function.update_idem]
    · rw [kept, same, own.2]

end Pass

open PoolState in
/-- A pass over a partition that has come to rest commits its last message and leaves its list empty. -/
theorem pass_empties (env : Env) (commitNum : Int) (workerNum maxTaskNum : Nat) (state : PoolState)
    (reachable : (poolMachine env commitNum workerNum maxTaskNum).Reachable state) (settled : state.Settled)
    (partition : Int) (listed : (state.manager partition).world.listData ≠ [])
    (answer : ∀ request : PartitionCall, request.Answer) :
    ∃ count final, (poolMachine env commitNum workerNum maxTaskNum).run state
        (.manager partition .doSomething ::
          List.replicate count (.manager partition (.advance .scanner answer))) = some final ∧
      final.Settled ∧ (final.manager partition).world.listData = [] ∧
      (∃ node result, node + 1 = (state.manager partition).world.nodes.length ∧
        (final.manager partition).world.commits =
          (state.manager partition).world.commits ++ [(node, result)]) ∧
      ∀ other, other ≠ partition → final.manager other = state.manager other := by
  have disciplined := disciplined_managers reachable partition
  -- every node is done, so the pass of the manager goes through the whole list
  have passed : ∃ count manager, (partitionMachine commitNum).run (state.manager partition)
        (.doSomething :: List.replicate count (.advance .scanner answer)) = some manager ∧
      manager.scanner = none ∧ manager.world.listData = [] ∧ ∃ node result,
        node + 1 = (state.manager partition).world.nodes.length ∧
          manager.world.commits = (state.manager partition).world.commits ++ [(node, result)] := by
    apply pass_of_idle disciplined (settled.idle partition) _ listed
    exact fun node mem => settled.done partition node (disciplined.safe.wf.mem_lt mem)
  obtain ⟨count, manager, ran, scanner, empty, committed⟩ := passed
  let final : PoolState := { state with consumer := state.consumer.setManager partition manager }
  obtain ⟨ranPool, consumer⟩ : (poolMachine env commitNum workerNum maxTaskNum).run state
      ((PartitionLabel.doSomething :: List.replicate count (.advance .scanner answer)).map (.manager partition)) =
        some final ∧ manager.consumer = (state.manager partition).consumer := by
    apply run_scans _ disciplined.safe ran
    intro label mem
    cases List.mem_cons.mp mem with
    | inl first => exact first ▸ trivial
    | inr call => exact List.eq_of_mem_replicate call ▸ trivial
  rw [List.map_cons, List.map_replicate] at ranPool
  have own : final.manager partition = manager := Function.update_self ..
  have others : ∀ other, other ≠ partition → final.manager other = state.manager other :=
    fun other different => Function.update_of_ne different ..
  have reachableFinal := reachable.run ranPool
  refine ⟨count, final, ranPool, ?_, own ▸ empty, own ▸ committed, others⟩
  apply settled_of_idle (poolInv reachableFinal) (disciplined_managers reachableFinal) settled.queue
    settled.threads settled.requests
  intro other owner
  by_cases same : other = partition
  · subst same
    rw [own]
    cases owner with
    | consumer => exact consumer.trans (settled.idle other .consumer)
    | scanner => exact scanner
  · rw [others other same]
    exact settled.idle other owner

open PoolState in
theorem pass_empties_traceThroughRetries :
    ∃ state count final,
      (poolMachine poolEnv 1 1 10).run (poolMachine poolEnv 1 1 10).start traceThroughRetries = some state ∧
        (poolMachine poolEnv 1 1 10).run state (.manager 0 .doSomething ::
          List.replicate count (.manager 0 (.advance .scanner Consumer.acceptAll))) = some final ∧
      final.Settled ∧ (final.manager 0).world.listData = [] := by
  obtain ⟨state, ran, -, listed, threads, rest⟩ := traceThroughRetries_rests
  have settled : state.Settled :=
    settled_of_no_threads (poolInv ⟨_, ran⟩) (disciplined_managers ⟨_, ran⟩) (by decide) rest threads
  obtain ⟨count, final, passes, settledFinal, empty, -⟩ :=
    pass_empties poolEnv 1 1 10 state ⟨_, ran⟩ settled 0 (by simp [listed]) Consumer.acceptAll
  exact ⟨state, count, final, ran, passes, settledFinal, empty⟩

end XBusiness
