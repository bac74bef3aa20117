import XBusiness.Workflow.PoolSafety

/-! # Deadlock of the worker pool

The workers take sessions from the bounded queue and push them back into it, so they may all
wait in `Put` while the queue is full.

* `never_deadlocked` — it does not happen along a run in which a session is made, or taken back
  from the HTTP client, only while there is room for all sessions in flight: fewer than
  `max_task_num` in the queue and one for each worker.  Then some worker can move whenever a
  session is queued.
* `deadlocked` — two messages are enough for one worker and a queue of one.
-/

namespace XBusiness

open Interaction

def FlowCall.makesSession : FlowCall → Bool
  | .makeShared _ => true
  | _ => false

namespace PoolState

/-- The queue is full and every worker waits in `Put`. -/
def Deadlocked (workerNum maxTaskNum : Nat) (state : PoolState) : Prop :=
  maxTaskNum ≤ state.queue.length ∧ workerNum ≤ state.workers.length ∧
    ∀ thread ∈ state.workers, thread.isPushing = true

instance (workerNum maxTaskNum : Nat) (state : PoolState) :
    Decidable (state.Deadlocked workerNum maxTaskNum) :=
  inferInstanceAs (Decidable (_ ∧ _ ∧ ∀ thread ∈ state.workers, _))

/-- The sessions in the queue and in the hands of the threads. -/
def inFlight (state : PoolState) : Nat :=
  state.queue.length + (state.threads.map fun thread => thread.held.entries.length).sum

/-- The step that the label stands for makes a session, or takes one from the HTTP client. -/
def takesIn (state : PoolState) : PoolLabel → Bool
  | .respond _ _ => true
  | .advance index _ =>
    state.threads[index]?.any fun thread =>
      match thread.program with
      | .call request _ => request.makesSession
      | _ => false
  | .process _ | .manager _ _ | .handle _ _ | .get => false

/-- The condition on a step: a session is taken in only while another one fits. -/
def TakesInRoom (workerNum maxTaskNum : Nat) (state : PoolState) (label : PoolLabel) : Prop :=
  state.takesIn label = true → state.inFlight + 1 < maxTaskNum + workerNum

instance (workerNum maxTaskNum : Nat) (state : PoolState) (label : PoolLabel) :
    Decidable (state.TakesInRoom workerNum maxTaskNum label) :=
  inferInstanceAs (Decidable (_ → _))

/-! ## How many sessions are in flight -/

section InFlight

variable {state after : PoolState} {index : Nat} {thread new : PoolThread}

theorem inFlight_set (found : state.threads[index]? = some thread)
    (threads : after.threads = state.threads.set index new) :
    after.inFlight + thread.held.entries.length + state.queue.length =
      state.inFlight + new.held.entries.length + after.queue.length := by
  obtain ⟨front, back, split, -, replaced⟩ := Threads.split_at found
  simp only [inFlight, threads.trans (replaced new), split, List.map_append, List.map_cons,
    List.sum_append, List.sum_cons]
  omega

theorem inFlight_remove (found : state.threads[index]? = some thread)
    (threads : after.threads = state.threads.eraseIdx index) (queue : after.queue = state.queue) :
    after.inFlight ≤ state.inFlight := by
  obtain ⟨front, back, split, removed, -⟩ := Threads.split_at found
  simp only [inFlight, threads.trans removed, queue, split, List.map_append, List.map_cons,
    List.sum_append, List.sum_cons]
  omega

/-- A call of a thread that keeps its contract takes in one session at most. -/
theorem inFlight_exec {request : FlowCall} {answer : request.Answer} {result : PoolState}
    (found : state.threads[index]? = some thread)
    (allowed : (heldContract thread.node).allowed thread.held request)
    (effect : Effect state request answer result)
    (threads : after = { result with threads := state.threads.set index new })
    (held : new.held = thread.held.after request answer) :
    after.inFlight ≤ state.inFlight + request.makesSession.toNat := by
  have change := inFlight_set found
    (show after.threads = state.threads.set index new by rw [threads])
  rw [show after.queue = result.queue by rw [threads]] at change
  have leaves : ∀ entry, entry ∈ thread.held.entries →
      (thread.held.entries.erase entry).length + 1 = thread.held.entries.length := by
    intro entry mem
    have positive := List.length_pos_of_mem mem
    rw [List.length_erase_of_mem mem]
    omega
  cases effect with
  | pushMsg session =>
    -- what the queue gains the thread loses
    have left := leaves _ allowed.1
    simp only [held, Held.after, List.length_append, List.length_singleton] at change
    omega
  | sendRequest session procType info =>
    have left := leaves _ allowed.1
    simp only [held, Held.after] at change
    omega
  | final session err _ =>
    have left := leaves session.entry allowed
    simp only [held, Held.after] at change
    omega
  | finalMarks session err data _ =>
    have left := leaves session.entry allowed
    simp only [held, Held.after, markDone] at change
    omega
  | destroy session =>
    have left := leaves _ allowed.1
    simp only [held, Held.after] at change
    omega
  | makeShared kafkaData =>
    -- the one call by which the thread holds a session more
    simp only [held, Held.after, List.length_cons] at change
    simp only [FlowCall.makesSession, Bool.toNat_true]
    omega
  | storeDone data =>
    simp only [held, Held.after, markDone] at change
    omega
  | outside request answer outside =>
    rw [held, Held.after_outside outside] at change
    omega

theorem inFlight_step {env : Env} {commitNum : Int} {workerNum maxTaskNum : Nat} {label : PoolLabel}
    (inv : PoolInv state) (stepped : state.step env commitNum workerNum maxTaskNum label = some after) :
    after.inFlight ≤ state.inFlight + (state.takesIn label).toNat := by
  cases step_cases stepped with
  | process | manager => exact Nat.le_add_right _ _
  | handle => simp [inFlight, PoolThread.handler]
  | get session rest idle queue =>
    -- what the queue loses the new thread holds
    simp only [inFlight, queue, PoolThread.worker, List.map_append, List.map_cons, List.map_nil, List.sum_append,
      List.sum_cons, List.sum_nil, List.length_cons, List.length_nil]
    omega
  | respond session procType found =>
    simp only [inFlight, takesIn, PoolThread.callback, List.map_append, List.map_cons, List.map_nil, List.sum_append,
      List.sum_cons, List.sum_nil, List.length_cons, List.length_nil, Bool.toNat_true]
    omega
  | returns thread accepted found | handled thread accepted owner data manager found =>
    exact Nat.le_add_right_of_le (inFlight_remove found rfl rfl)
  | calls thread request rest given result found calling executed =>
    have kept := inv.working.safe thread (List.mem_of_getElem? found)
    rw [PoolThread.Safe, calling] at kept
    refine (inFlight_exec found kept.called.1 (effect_of_exec executed) rfl ?_).trans ?_
    · rfl
    · simp [takesIn, found, calling]

end InFlight

/-! ## Deadlock and progress -/

section Progress

variable {state : PoolState} {env : Env} {commitNum : Int} {workerNum maxTaskNum : Nat}

/-- A thread in `Put` holds the session it pushes. -/
theorem holds_of_isPushing {thread : PoolThread} (safe : thread.Safe)
    (pushing : thread.isPushing = true) : 1 ≤ thread.held.entries.length := by
  unfold PoolThread.isPushing at pushing
  split at pushing
  · next session rest calling =>
    rw [PoolThread.Safe, calling] at safe
    exact List.length_pos_of_mem safe.called.1.1
  · cases pushing

theorem length_filter_le_sum {threads : List PoolThread} {keep : PoolThread → Bool}
    (holds : ∀ thread ∈ threads, keep thread = true → 1 ≤ thread.held.entries.length) :
    (threads.filter keep).length ≤ (threads.map fun thread => thread.held.entries.length).sum := by
  induction threads with
  | nil => exact Nat.le_refl _
  | cons thread rest inductionHypothesis =>
    have rest := inductionHypothesis fun other mem => holds other (List.mem_cons_of_mem _ mem)
    rw [List.map_cons, List.sum_cons]
    by_cases kept : keep thread = true
    · have one := holds thread List.mem_cons_self kept
      rw [List.filter_cons_of_pos kept, List.length_cons]
      omega
    · rw [List.filter_cons_of_neg kept]
      omega

/-- The invariant of a run that takes sessions in only while there is room. -/
def InRoom (workerNum maxTaskNum : Nat) (state : PoolState) : Prop :=
  PoolInv state ∧ state.inFlight < maxTaskNum + workerNum

theorem InRoom.step {next : PoolState} {label : PoolLabel} (inRoom : InRoom workerNum maxTaskNum state)
    (takesIn : TakesInRoom workerNum maxTaskNum state label)
    (stepped : state.step env commitNum workerNum maxTaskNum label = some next) :
    InRoom workerNum maxTaskNum next := by
  refine ⟨(poolInv_step inRoom.1 stepped).1, Nat.lt_of_le_of_lt (inFlight_step inRoom.1 stepped) ?_⟩
  cases taken : state.takesIn label with
  | false => exact inRoom.2
  | true => exact takesIn taken

theorem InRoom.not_deadlocked (inRoom : InRoom workerNum maxTaskNum state) :
    ¬ state.Deadlocked workerNum maxTaskNum := by
  obtain ⟨inv, room⟩ := inRoom
  rintro ⟨full, all, pushing⟩
  have holds : state.workers.length ≤ (state.threads.map fun thread => thread.held.entries.length).sum := by
    apply length_filter_le_sum
    intro thread mem worker
    apply holds_of_isPushing (inv.working.safe thread mem)
    exact pushing thread (List.mem_filter.mpr ⟨mem, worker⟩)
  rw [inFlight] at room
  omega

/-- A worker makes a step: it takes a session, makes the next call of its module, or returns. -/
def WorkerSteps (env : Env) (commitNum : Int) (workerNum maxTaskNum : Nat) (state : PoolState) : Prop :=
  ∃ label next, state.step env commitNum workerNum maxTaskNum label = some next ∧
    (label = .get ∨ ∃ index answer thread, label = .advance index answer ∧
      state.threads[index]? = some thread ∧ thread.role = .worker)

/-- Only a push into a full queue has to wait. -/
theorem exec_isSome {request : FlowCall} (given : request.Answer)
    (room : ∀ session, request = .pushMsg session → state.queue.length < maxTaskNum) :
    ∃ result, state.exec maxTaskNum request given = some result := by
  cases request with
  | pushMsg session => exact ⟨_, if_pos (room session rfl)⟩
  | _ => exact ⟨_, rfl⟩

theorem worker_advances {index : Nat} {thread : PoolThread}
    (found : state.threads[index]? = some thread) (worker : thread.role = .worker)
    (unraised : ∀ fault, thread.program ≠ .raise fault)
    (room : thread.isPushing = true → state.queue.length < maxTaskNum) :
    state.WorkerSteps env commitNum workerNum maxTaskNum := by
  suffices advanced : ∃ next, state.advance commitNum maxTaskNum index FlowCall.succeed = some next by
    obtain ⟨next, advanced⟩ := advanced
    exact ⟨.advance index FlowCall.succeed, next, advanced,
      .inr ⟨index, FlowCall.succeed, thread, rfl, found, worker⟩⟩
  rw [PoolState.advance, found, Option.bind_some]
  cases calling : thread.program with
  | ret accepted =>
    rw [worker]
    exact ⟨_, rfl⟩
  | raise fault => exact absurd calling (unraised fault)
  | call request rest =>
    obtain ⟨result, effect⟩ : ∃ result,
        state.exec maxTaskNum request (FlowCall.succeed request) = some result := by
      apply exec_isSome
      rintro session rfl
      apply room
      rw [PoolThread.isPushing, calling]
    dsimp only
    rw [effect]
    exact ⟨_, rfl⟩

/-- Without a deadlock a worker can move while a session is queued. -/
theorem worker_steps (hasWorker : 1 ≤ workerNum) (free : ¬ state.Deadlocked workerNum maxTaskNum)
    (queued : state.queue ≠ [])
    (unraised : ∀ thread ∈ state.workers, ∀ fault, thread.program ≠ .raise fault) :
    state.WorkerSteps env commitNum workerNum maxTaskNum := by
  by_cases idle : state.workers.length < workerNum
  · cases queue : state.queue with
    | nil => exact absurd queue queued
    | cons session rest =>
      refine ⟨.get, { state with queue := rest, threads := state.threads ++ [.worker env session] }, ?_,
        .inl rfl⟩
      rw [PoolState.step, PoolState.get, if_pos idle, queue]
  · -- every worker is busy, and one of them does not wait for room
    obtain ⟨thread, mem, moves⟩ : ∃ thread ∈ state.workers,
        thread.isPushing = true → state.queue.length < maxTaskNum := by
      by_cases room : state.queue.length < maxTaskNum
      · have some : 0 < state.workers.length := by omega
        exact ⟨state.workers[0], List.getElem_mem some, fun _ => room⟩
      · by_contra stuck
        apply free
        refine ⟨by omega, by omega, fun thread mem => ?_⟩
        by_contra moving
        exact stuck ⟨thread, mem, fun pushing => absurd pushing moving⟩
    obtain ⟨listed, worker⟩ := List.mem_filter.mp mem
    obtain ⟨index, found⟩ := List.mem_iff_getElem?.mp listed
    exact worker_advances found (of_decide_eq_true worker) (unraised thread mem) moves

end Progress

end PoolState

open PoolState in
theorem never_deadlocked (env : Env) (commitNum : Int) (workerNum maxTaskNum : Nat)
    (hasWorker : 1 ≤ workerNum) (hasRoom : 1 ≤ maxTaskNum) (labels : List PoolLabel) (state : PoolState)
    (meets : (poolMachine env commitNum workerNum maxTaskNum).Meets (TakesInRoom workerNum maxTaskNum)
      (poolMachine env commitNum workerNum maxTaskNum).start labels)
    (ran : (poolMachine env commitNum workerNum maxTaskNum).run
      (poolMachine env commitNum workerNum maxTaskNum).start labels = some state) :
    ¬ state.Deadlocked workerNum maxTaskNum ∧
      (state.queue ≠ [] → (∀ thread ∈ state.workers, ∀ fault, thread.program ≠ .raise fault) →
        state.WorkerSteps env commitNum workerNum maxTaskNum) := by
  have inRoom : InRoom workerNum maxTaskNum state := by
    refine Machine.run_invariant_of_meets ?_ ?_ meets ran
    · exact fun _ _ _ inRoom takesIn stepped => inRoom.step takesIn stepped
    · refine ⟨PoolInv.start, ?_⟩
      show 0 < maxTaskNum + workerNum
      omega
  exact ⟨inRoom.not_deadlocked, worker_steps hasWorker inRoom.not_deadlocked⟩

/-- One message through a pool of one worker and a queue of one. -/
def oneThroughPool : List PoolLabel := deliver traceMessage 0 0 ++ .get :: poolCalls 0 3

set_option maxRecDepth 4000 in
theorem never_deadlocked_oneThroughPool :
    ∃ state, (poolMachine poolEnv 1 1 1).run (poolMachine poolEnv 1 1 1).start oneThroughPool =
        some state ∧ state.queue.length = 1 ∧ ¬ state.Deadlocked 1 1 :=
  ⟨_, rfl, rfl, (never_deadlocked poolEnv 1 1 1 (by decide) (by decide) oneThroughPool _ (by decide) rfl).1⟩

set_option maxRecDepth 4000 in
/-- A second message arrives while the worker is at the first one: it fills the queue, and the
    worker cannot push its session. -/
theorem deadlocked :
    ∃ state, (poolMachine poolEnv 1 1 1).run (poolMachine poolEnv 1 1 1).start
        (deliver traceMessage 0 0 ++ .get :: poolCalls 0 2 ++ deliver traceMessage 1 1) =
      some state ∧ state.Deadlocked 1 1 :=
  ⟨_, rfl, by decide⟩

end XBusiness
