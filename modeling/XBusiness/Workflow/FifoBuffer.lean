import XBusiness.Lib.Monitor
import XBusiness.Workflow.PoolSafety

/-! # `FIFOBuffer`

The bounded queue between the threads that push sessions and the workers that take them: one mutex, a
condition variable for `Put` and one for `Get`, and one `notify_one` after each change.

* `fifoBuffer` — the object that the mutex guards, with `max_size_` as the code compares it.
* `fifo_buffer_kept` — values leave in the order in which they came, each once, and no more than
  `max_size_` are kept.
* `fifo_buffer_rests` — the threads come to rest, and at rest only a `Get` of an empty queue or a `Put`
  to a full one sleeps.
* `pool_queue_kept` — the pool uses its queue as that object.
-/

namespace XBusiness

open Interaction

/-! ## The object -/

/-- A call of `Put` or `Get`. -/
inductive BufferCall (T : Type) where
  | put (newValue : T)
  | get
  deriving DecidableEq, Repr

/-- `cond_put_` and `cond_get_`. -/
inductive BufferCond where
  | condPut
  | condGet
  deriving DecidableEq, Repr

/-- `max_size_` where it is compared with `data_.size()`: the `int` is converted to a `size_t`, so a
    negative one is huge. -/
def capacity (maxSize : Int) : Nat := (maxSize % 2 ^ 64).toNat

/-- `FIFOBuffer<T>` after `setMaxQueueSize`. -/
def fifoBuffer (T : Type) (maxSize : Int) : Guarded (List T) (BufferCall T) BufferCond (Option T) where
  kind
    | .put _ => .condPut
    | .get => .condGet
  ready data
    | .condPut => data.length < capacity maxSize
    | .condGet => !data.isEmpty
  perform data
    | .put newValue => (data ++ [newValue], none)
    | .get => (data.tail, data.head?)
  wakes
    | .condPut => .condGet
    | .condGet => .condPut

/-- The values put, and the values got, in the order in which the calls took effect. -/
def putsOf {T : Type} (log : List (BufferCall T × Option T)) : List T :=
  log.filterMap fun entry =>
    match entry.1 with
    | .put newValue => some newValue
    | .get => none

def getsOf {T : Type} (log : List (BufferCall T × Option T)) : List T :=
  log.filterMap fun entry =>
    match entry.1 with
    | .put _ => none
    | .get => entry.2

section Buffer

variable {T : Type} {maxSize : Int}

@[simp] theorem putsOf_append (log : List (BufferCall T × Option T)) (entry : BufferCall T × Option T) :
    putsOf (log ++ [entry]) = putsOf log ++ putsOf [entry] := by
  simp [putsOf]

@[simp] theorem getsOf_append (log : List (BufferCall T × Option T)) (entry : BufferCall T × Option T) :
    getsOf (log ++ [entry]) = getsOf log ++ getsOf [entry] := by
  simp [getsOf]

/-- What was put has been got, in that order, or is still there. -/
structure InSequence (maxSize : Int) (state : Guarded.Atomic (List T) (BufferCall T) (Option T)) : Prop where
  order : putsOf state.log = getsOf state.log ++ state.data
  bound : state.data.length ≤ capacity maxSize

theorem inSequence_step {state next : Guarded.Atomic (List T) (BufferCall T) (Option T)}
    {call : BufferCall T} (kept : InSequence maxSize state)
    (stepped : (fifoBuffer T maxSize).atomicStep state call = some next) : InSequence maxSize next := by
  obtain ⟨order, bound⟩ := kept
  simp only [Guarded.atomicStep, Option.ite_none_right_eq_some] at stepped
  obtain ⟨ready, stepped⟩ := stepped
  cases stepped
  cases call with
  | put newValue =>
    simp only [fifoBuffer, decide_eq_true_eq] at ready
    refine ⟨?_, ?_⟩
    · simp [fifoBuffer, putsOf, getsOf, ← List.append_assoc] at order ⊢
      rw [order]
    · simp only [fifoBuffer, List.length_append, List.length_singleton]
      omega
  | get =>
    cases data : state.data with
    | nil =>
      rw [data] at ready
      cases ready
    | cons value rest =>
      rw [data] at order bound
      refine ⟨?_, ?_⟩
      · rw [putsOf_append, getsOf_append, order]
        simp [fifoBuffer, putsOf, getsOf]
      · simp only [fifoBuffer, List.tail_cons, List.length_cons] at bound ⊢
        omega

theorem inSequence {state : Guarded.Atomic (List T) (BufferCall T) (Option T)}
    (reachable : ((fifoBuffer T maxSize).atomicMachine []).Reachable state) : InSequence maxSize state := by
  refine reachable.invariant ⟨rfl, Nat.zero_le _⟩ ?_
  intro before call next kept stepped
  exact inSequence_step kept stepped

/-! ## The threads -/

/-- What holds of the queue in every reachable state of its threads. -/
structure BufferKept (maxSize : Int) (state : Guarded.State (List T) (BufferCall T) (Option T)) : Prop where
  order : putsOf state.log = getsOf state.log ++ state.data
  bound : state.data.length ≤ capacity maxSize
  /-- The log is made of the calls that have changed the queue, each once. -/
  once : (state.calls.filterMap Guarded.Place.performed).Perm state.log
  /-- One call holds the mutex. -/
  exclusive : ∀ (first second : Nat) (one other : Guarded.Place (BufferCall T) (Option T)),
    state.calls[first]? = some one → state.calls[second]? = some other →
      one.inside = true → other.inside = true → first = second

theorem fifo_buffer_kept (T : Type) (maxSize : Int)
    (state : Guarded.State (List T) (BufferCall T) (Option T))
    (reachable : ((fifoBuffer T maxSize).machine []).Reachable state) : BufferKept maxSize state := by
  obtain ⟨⟨data, log⟩, reached, inv, rfl, rfl⟩ :=
    (Guarded.monitor_simulates (fifoBuffer T maxSize) []).reachable reachable
  obtain ⟨order, bound⟩ := inSequence reached
  refine ⟨order, bound, inv.log, ?_⟩
  intro first second one other foundOne foundOther insideOne insideOther
  have held := (inv.exclusive.inside foundOne).mp insideOne
  rw [(inv.exclusive.inside foundOther).mp insideOther] at held
  exact (Option.some.inj held).symm

/-- The values that may be got, and the free places. -/
def available (maxSize : Int) (data : List T) : BufferCond → Nat
  | .condPut => capacity maxSize - data.length
  | .condGet => data.length

theorem fifoBuffer_counted (T : Type) (maxSize : Int) :
    Guarded.Counted (fifoBuffer T maxSize) (available maxSize) where
  ready data kind := by
    cases kind with
    | condPut => simp [fifoBuffer, available]
    | condGet => cases data <;> simp [fifoBuffer, available]
  perform data call kind ready := by
    cases call with
    | put newValue =>
      simp only [fifoBuffer, decide_eq_true_eq] at ready
      cases kind <;> simp [fifoBuffer, available]
      omega
    | get =>
      cases data with
      | nil => cases ready
      | cons value rest =>
        cases kind <;> simp [fifoBuffer, available]
        omega

theorem weight_le (calls : List (Guarded.Place (BufferCall T) (Option T))) :
    (calls.map Guarded.Place.weight).sum ≤ 7 * calls.length := by
  induction calls with
  | nil => exact Nat.le_refl _
  | cons place rest inductionHypothesis =>
    have one : place.weight ≤ 7 := by cases place <;> simp [Guarded.Place.weight]
    simp only [List.map_cons, List.sum_cons, List.length_cons]
    omega

/-- A call that has returned, or sleeps and could not be served. -/
def AtRest (maxSize : Int) (data : List T) (place : Guarded.Place (BufferCall T) (Option T)) : Prop :=
  (∃ call result, place = .done call result) ∨
    (∃ newValue, place = .waiting (.put newValue) ∧ capacity maxSize ≤ data.length) ∨
    (place = .waiting .get ∧ data = [])

theorem fifo_buffer_rests (T : Type) (maxSize : Int)
    (state final : Guarded.State (List T) (BufferCall T) (Option T))
    (labels : List (Guarded.Label (BufferCall T)))
    (reachable : ((fifoBuffer T maxSize).machine []).Reachable state)
    (own : ∀ label ∈ labels, label.isAdvance = true)
    (ran : ((fifoBuffer T maxSize).machine []).run state labels = some final) :
    labels.length ≤ 7 * state.calls.length ∧
      (Guarded.Stuck (fifoBuffer T maxSize) final → ∀ place ∈ final.calls, AtRest maxSize final.data place) := by
  constructor
  · have length := Guarded.advance_length own ran
    have weight := weight_le state.calls
    simp only [Guarded.State.weight] at length
    omega
  · intro stuck place mem
    have settled := Guarded.stuck_settled (fifoBuffer_counted T maxSize) (reachable.run ran) stuck mem
    rcases settled with returned | ⟨call, rfl, unready⟩
    · exact .inl returned
    · cases call with
      | put newValue =>
        refine .inr (.inl ⟨newValue, rfl, ?_⟩)
        simpa [fifoBuffer] using unready
      | get =>
        refine .inr (.inr ⟨rfl, ?_⟩)
        simpa [fifoBuffer] using unready

end Buffer

/-- Two workers sleep in `Get` when a value is put. -/
def twoGetsOnePut : List (Guarded.Label (BufferCall Nat)) :=
  [.call .get, .call .get, .call (.put 7)]

/-- The value wakes the second worker, which takes it. -/
def oneServed : List (Guarded.Label (BufferCall Nat)) :=
  [.advance 0 none, .advance 0 none, .advance 1 none, .advance 1 none, .advance 2 none, .advance 2 none,
    .advance 2 none, .advance 2 (some 1), .advance 2 none, .advance 1 none, .advance 1 none,
    .advance 1 none, .advance 1 none, .advance 1 none]

theorem fifo_buffer_kept_oneServed :
    ∃ state, ((fifoBuffer Nat 1).machine []).run ((fifoBuffer Nat 1).machine []).start
        (twoGetsOnePut ++ oneServed) = some state ∧
      state.log = [(.put 7, none), (.get, some 7)] ∧ BufferKept 1 state :=
  ⟨_, rfl, rfl, fifo_buffer_kept Nat 1 _ ⟨twoGetsOnePut ++ oneServed, rfl⟩⟩

theorem fifo_buffer_rests_oneServed :
    ∃ state final, ((fifoBuffer Nat 1).machine []).run ((fifoBuffer Nat 1).machine []).start
        twoGetsOnePut = some state ∧
      ((fifoBuffer Nat 1).machine []).run state oneServed = some final ∧
      Guarded.Stuck (fifoBuffer Nat 1) final ∧ ∀ place ∈ final.calls, AtRest 1 final.data place := by
  refine ⟨_, _, rfl, rfl, ?_, ?_⟩
  · intro index wakes
    rcases index with _ | _ | _ | index <;> rfl
  · refine (fifo_buffer_rests Nat 1 _ _ oneServed ⟨twoGetsOnePut, rfl⟩ (by decide) rfl).2 ?_
    intro index wakes
    rcases index with _ | _ | _ | index <;> rfl

/-! ## The queue of the pool -/

/-- What a step of the pool does to its queue. -/
def queueCall (state : PoolState) : PoolLabel → List (BufferCall Session × Option Session)
  | .get => [(.get, state.queue.head?)]
  | .advance index _ =>
    match (state.threads[index]?).map PoolThread.program with
    | some (.call (.pushMsg session) _) => [(.put session, none)]
    | _ => []
  | .process _ | .manager _ _ | .handle _ _ | .respond _ _ => []

def queueObserver (state : PoolState) (label : PoolLabel)
    (seen : List (BufferCall Session × Option Session)) : List (BufferCall Session × Option Session) :=
  seen ++ queueCall state label

section Queue

variable {env : Env} {commitNum : Int} {workerNum : Nat} {maxSize : Int} {state next : PoolState}

theorem exec_queue {maxTaskNum : Nat} {request : FlowCall} {given answer : request.Answer}
    (executed : state.exec maxTaskNum request given = some (answer, next)) :
    (∃ session, request = .pushMsg session ∧ state.queue.length < maxTaskNum ∧
        next.queue = state.queue ++ [session]) ∨
      (∀ session, request ≠ .pushMsg session) ∧ next.queue = state.queue := by
  cases request with
  | pushMsg session =>
    simp only [PoolState.exec, Option.ite_none_right_eq_some, Option.some.injEq, Prod.mk.injEq] at executed
    obtain ⟨room, -, rfl⟩ := executed
    exact .inl ⟨session, rfl, room, rfl⟩
  | final session err =>
    cases executed
    refine .inr ⟨(fun _ impossible => by cases impossible), ?_⟩
    cases session.kafkaData.data <;> rfl
  | _ =>
    cases executed
    exact .inr ⟨(fun _ impossible => by cases impossible), rfl⟩

/-- A step of the pool is a step of the buffer, or leaves the queue alone. -/
theorem queueCall_step {label : PoolLabel} {log : List (BufferCall Session × Option Session)}
    (stepped : state.step env commitNum workerNum (capacity maxSize) label = some next) :
    ((fifoBuffer Session maxSize).atomicMachine []).run ⟨state.queue, log⟩
      ((queueCall state label).map Prod.fst) = some ⟨next.queue, log ++ queueCall state label⟩ := by
  have aside : queueCall state label = [] → next.queue = state.queue →
      ((fifoBuffer Session maxSize).atomicMachine []).run ⟨state.queue, log⟩
        ((queueCall state label).map Prod.fst) = some ⟨next.queue, log ++ queueCall state label⟩ := by
    intro none same
    rw [none, same, List.append_nil]
    rfl
  cases PoolState.step_cases stepped with
  | process | manager | handle | respond => exact aside rfl rfl
  | get session rest idle queue =>
    simp [queueCall, queue, Machine.run_cons, Guarded.atomicMachine, Guarded.atomicStep, fifoBuffer]
  | returns thread accepted found returned => exact aside (by simp [queueCall, found, returned]) rfl
  | handled thread accepted owner data manager found returned =>
    exact aside (by simp [queueCall, found, returned]) rfl
  | @calls index answer thread request rest given result found calling executed =>
    rcases exec_queue executed with ⟨session, rfl, room, pushed⟩ | ⟨other, same⟩
    · have put : queueCall state (.advance index answer) = [(.put session, none)] := by
        simp [queueCall, found, calling]
      dsimp only
      rw [put, pushed]
      simp [Machine.run_cons, Guarded.atomicMachine, Guarded.atomicStep, fifoBuffer, room]
    · refine aside ?_ same
      cases request with
      | pushMsg session => exact absurd rfl (other session)
      | _ => simp [queueCall, found, calling]

end Queue

/-- Along every run of the pool the sessions leave the queue in the order in which they were pushed, and
    no more than `max_task_num` wait in it. -/
theorem pool_queue_kept (env : Env) (commitNum : Int) (workerNum : Nat) (maxSize : Int)
    (labels : List PoolLabel) (final : PoolState)
    (ran : (poolMachine env commitNum workerNum (capacity maxSize)).run
      (poolMachine env commitNum workerNum (capacity maxSize)).start labels = some final) :
    let seen := (poolMachine env commitNum workerNum (capacity maxSize)).observe queueObserver
      (poolMachine env commitNum workerNum (capacity maxSize)).start labels []
    ((fifoBuffer Session maxSize).atomicMachine []).Reachable ⟨final.queue, seen⟩ ∧
      putsOf seen = getsOf seen ++ final.queue ∧ final.queue.length ≤ capacity maxSize := by
  intro seen
  have reached : ((fifoBuffer Session maxSize).atomicMachine []).Reachable ⟨final.queue, seen⟩ := by
    refine @Machine.run_invariant_observed _ _ _ _ _
      (fun state seen => ((fifoBuffer Session maxSize).atomicMachine []).Reachable ⟨state.queue, seen⟩)
      ?_ _ _ _ _ (.start) ran
    intro state seen label next reached stepped
    exact reached.run (queueCall_step stepped)
  obtain ⟨order, bound⟩ := inSequence reached
  exact ⟨reached, order, bound⟩

set_option maxRecDepth 4000 in
theorem pool_queue_kept_traceThroughWait :
    ∃ final, (poolMachine poolEnv 1 1 (capacity 10)).run (poolMachine poolEnv 1 1 (capacity 10)).start
        traceThroughWait = some final ∧
      (let seen := (poolMachine poolEnv 1 1 (capacity 10)).observe queueObserver
        (poolMachine poolEnv 1 1 (capacity 10)).start traceThroughWait []
      getsOf seen ≠ [] ∧ putsOf seen = getsOf seen ++ final.queue) :=
  ⟨_, rfl, by decide, (pool_queue_kept poolEnv 1 1 10 traceThroughWait _ rfl).2.1⟩

end XBusiness
