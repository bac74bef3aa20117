import Mathlib.Algebra.Ring.Nat
import XBusiness.Lib.Refinement
import XBusiness.Lib.Threads

/-! # An object behind one mutex, with condition variables

Every operation takes the mutex, waits on the condition variable of its kind until its predicate holds,
changes the data, notifies one thread that waits with another kind, and releases the mutex.  A waiting
thread may also wake up without a notification, and any thread may take the mutex before a woken one.

* `Guarded.machine` — any number of calls, one atomic action at a time.
* `atomicMachine` / `monitor_simulates` — the object as if each operation were one step.
* `Counted` / `Awake` — where each operation makes room for at most one other, no wake-up is lost: with
  a thread asleep, every free place is covered by a thread that will take it or pass the notification on.
* `advance_length` / `stuck_settled` — without new calls the threads come to rest, and at rest only
  calls that cannot be served are asleep.
-/

namespace Interaction

/-- The operations of an object; those of one kind wait on one condition variable. -/
structure Guarded (Data Op Kind Result : Type) where
  kind : Op → Kind
  ready : Data → Kind → Bool
  perform : Data → Op → Data × Result
  wakes : Kind → Kind

namespace Guarded

variable {Data Op Kind Result : Type}

/-- Where a call is; `testing` to `leaving` hold the mutex. -/
inductive Place (Op Result : Type) where
  | entering (op : Op)
  | testing (op : Op)
  | acting (op : Op)
  | notifying (op : Op) (result : Result)
  | leaving (op : Op) (result : Result)
  | waiting (op : Op)
  | woken (op : Op)
  | done (op : Op) (result : Result)

/-- `log` records the operations that took effect, with their results. -/
structure State (Data Op Result : Type) where
  data : Data
  mutex : Option Nat := none
  calls : List (Place Op Result) := []
  log : List (Op × Result) := []

/-- A call is made, a call makes its next action (`wakes` is the call that a notification picks), or a
    waiting call wakes up by itself. -/
inductive Label (Op : Type) where
  | call (op : Op)
  | advance (index : Nat) (wakes : Option Nat)
  | spurious (index : Nat)

namespace Place

/-- The call holds the mutex. -/
def inside : Place Op Result → Bool
  | testing _ | acting _ | notifying _ _ | leaving _ _ => true
  | entering _ | waiting _ | woken _ | done _ _ => false

/-- What the call has done to the data. -/
def performed : Place Op Result → Option (Op × Result)
  | notifying op result | leaving op result | done op result => some (op, result)
  | entering _ | testing _ | acting _ | waiting _ | woken _ => none

/-- A bound for the actions to come, with those of a call that is notified. -/
def weight : Place Op Result → Nat
  | entering _ | woken _ => 7
  | testing _ => 6
  | acting _ | waiting _ => 5
  | notifying _ _ => 4
  | leaving _ _ => 1
  | done _ _ => 0

end Place

variable [DecidableEq Kind] (object : Guarded Data Op Kind Result)

/-- The call waits on the condition variable. -/
def waits (kind : Kind) : Place Op Result → Bool
  | .waiting op => object.kind op = kind
  | _ => false

/-- The call will test the predicate of the kind, or notify a call of the kind. -/
def attends (kind : Kind) : Place Op Result → Bool
  | .testing op | .acting op | .woken op => object.kind op = kind
  | .notifying op _ => object.wakes (object.kind op) = kind
  | .entering _ | .leaving _ _ | .waiting _ | .done _ _ => false

/-- `notify_one`: the woken call is one that waits, if there is any. -/
def notify (calls : List (Place Op Result)) (kind : Kind) :
    Option Nat → Option (List (Place Op Result))
  | none => if calls.any (object.waits kind) then none else some calls
  | some index =>
    match calls[index]? with
    | some (.waiting op) => if object.kind op = kind then some (calls.set index (.woken op)) else none
    | _ => none

/-- The next action of a call. -/
def advance (state : State Data Op Result) (index : Nat) (wakes : Option Nat) :
    Place Op Result → Option (State Data Op Result)
  | .entering op | .woken op =>
    if state.mutex = none then
      some { state with mutex := some index, calls := state.calls.set index (.testing op) }
    else
      none
  | .testing op =>
    if object.ready state.data (object.kind op) then
      some { state with calls := state.calls.set index (.acting op) }
    else
      some { state with mutex := none, calls := state.calls.set index (.waiting op) }
  | .acting op =>
    let (data, result) := object.perform state.data op
    some { state with
      data := data
      calls := state.calls.set index (.notifying op result)
      log := state.log ++ [(op, result)] }
  | .notifying op result =>
    (object.notify (state.calls.set index (.leaving op result)) (object.wakes (object.kind op)) wakes).map
      fun calls => { state with calls := calls }
  | .leaving op result =>
    some { state with mutex := none, calls := state.calls.set index (.done op result) }
  | .waiting _ | .done _ _ => none

def step (state : State Data Op Result) : Label Op → Option (State Data Op Result)
  | .call op => some { state with calls := state.calls ++ [.entering op] }
  | .advance index wakes => (state.calls[index]?).bind (object.advance state index wakes)
  | .spurious index =>
    match state.calls[index]? with
    | some (.waiting op) => some { state with calls := state.calls.set index (.woken op) }
    | _ => none

def machine (data : Data) : Machine (State Data Op Result) (Label Op) where
  start := { data := data }
  step := object.step

/-! ## The object without its threads -/

structure Atomic (Data Op Result : Type) where
  data : Data
  log : List (Op × Result) := []

/-- An operation in one step, when its predicate holds. -/
def atomicStep (state : Atomic Data Op Result) (op : Op) : Option (Atomic Data Op Result) :=
  if object.ready state.data (object.kind op) then
    let (data, result) := object.perform state.data op
    some { data := data, log := state.log ++ [(op, result)] }
  else
    none

def atomicMachine (data : Data) : Machine (Atomic Data Op Result) Op where
  start := { data := data }
  step := object.atomicStep

/-! ## What a step does -/

variable {object} {state next : State Data Op Result}

/-- What a step does to the calls, each with what it needs; the mutex is free where it is taken. -/
inductive Step (object : Guarded Data Op Kind Result) (state : State Data Op Result) :
    Label Op → State Data Op Result → Prop
  | call (op : Op) :
      Step object state (.call op) { state with calls := state.calls ++ [.entering op] }
  | lock {index : Nat} {wakes : Option Nat} {place : Place Op Result} {op : Op}
      (found : state.calls[index]? = some place) (outside : place = .entering op ∨ place = .woken op)
      (free : state.mutex = none) :
      Step object state (.advance index wakes)
        { state with mutex := some index, calls := state.calls.set index (.testing op) }
  | ready {index : Nat} {wakes : Option Nat} {op : Op} (found : state.calls[index]? = some (.testing op))
      (ready : object.ready state.data (object.kind op) = true) :
      Step object state (.advance index wakes) { state with calls := state.calls.set index (.acting op) }
  | wait {index : Nat} {wakes : Option Nat} {op : Op} (found : state.calls[index]? = some (.testing op))
      (unready : object.ready state.data (object.kind op) = false) :
      Step object state (.advance index wakes)
        { state with mutex := none, calls := state.calls.set index (.waiting op) }
  | act {index : Nat} {wakes : Option Nat} {op : Op} (found : state.calls[index]? = some (.acting op)) :
      Step object state (.advance index wakes)
        { state with
          data := (object.perform state.data op).1
          calls := state.calls.set index (.notifying op (object.perform state.data op).2)
          log := state.log ++ [(op, (object.perform state.data op).2)] }
  | pass {index : Nat} {op : Op} {result : Result}
      (found : state.calls[index]? = some (.notifying op result))
      (alone : ∀ place ∈ state.calls.set index (.leaving op result),
        object.waits (object.wakes (object.kind op)) place = false) :
      Step object state (.advance index none)
        { state with calls := state.calls.set index (.leaving op result) }
  | notify {index target : Nat} {op other : Op} {result : Result}
      (found : state.calls[index]? = some (.notifying op result))
      (asleep : (state.calls.set index (.leaving op result))[target]? = some (.waiting other))
      (own : object.kind other = object.wakes (object.kind op)) :
      Step object state (.advance index (some target))
        { state with calls := (state.calls.set index (.leaving op result)).set target (.woken other) }
  | unlock {index : Nat} {wakes : Option Nat} {op : Op} {result : Result}
      (found : state.calls[index]? = some (.leaving op result)) :
      Step object state (.advance index wakes)
        { state with mutex := none, calls := state.calls.set index (.done op result) }
  | spurious {index : Nat} {op : Op} (found : state.calls[index]? = some (.waiting op)) :
      Step object state (.spurious index) { state with calls := state.calls.set index (.woken op) }

theorem step_of_step {label : Label Op} (stepped : object.step state label = some next) :
    Step object state label next := by
  cases label with
  | call op =>
    cases stepped
    exact .call op
  | spurious index =>
    simp only [step] at stepped
    split at stepped <;> cases stepped
    next op found => exact .spurious found
  | advance index wakes =>
    simp only [step, Option.bind_eq_some_iff] at stepped
    obtain ⟨place, found, stepped⟩ := stepped
    cases place with
    | entering op =>
      simp only [advance, Option.ite_none_right_eq_some, Option.some.injEq] at stepped
      obtain ⟨free, rfl⟩ := stepped
      exact .lock found (.inl rfl) free
    | woken op =>
      simp only [advance, Option.ite_none_right_eq_some, Option.some.injEq] at stepped
      obtain ⟨free, rfl⟩ := stepped
      exact .lock found (.inr rfl) free
    | testing op =>
      simp only [advance] at stepped
      split at stepped <;> cases stepped
      · next ready => exact .ready found ready
      · next unready => exact .wait found (by simpa using unready)
    | acting op =>
      cases stepped
      exact .act found
    | notifying op result =>
      simp only [advance, Option.map_eq_some_iff] at stepped
      obtain ⟨calls, notified, rfl⟩ := stepped
      cases wakes with
      | none =>
        simp only [notify, Option.ite_none_left_eq_some, Option.some.injEq] at notified
        obtain ⟨none, rfl⟩ := notified
        exact .pass found (by simpa using none)
      | some target =>
        simp only [notify] at notified
        split at notified
        · next other asleep =>
          simp only [Option.ite_none_right_eq_some, Option.some.injEq] at notified
          obtain ⟨own, rfl⟩ := notified
          exact .notify found asleep own
        · cases notified
    | leaving op result =>
      cases stepped
      exact .unlock found
    | waiting op => cases stepped
    | done op result => cases stepped

/-! ## The calls after an action of one of them -/

section Lists

variable {calls : List (Place Op Result)} {index : Nat} {old new : Place Op Result}

theorem countP_set (test : Place Op Result → Bool) (found : calls[index]? = some old)
    (new : Place Op Result) :
    (calls.set index new).countP test + (test old).toNat = calls.countP test + (test new).toNat := by
  obtain ⟨front, back, split, -, replaced⟩ := Threads.split_at found
  rw [replaced, split]
  simp only [List.countP_append, List.countP_cons]
  cases test old <;> cases test new <;> simp <;> omega

theorem weight_set (found : calls[index]? = some old) (new : Place Op Result) :
    ((calls.set index new).map Place.weight).sum + old.weight =
      (calls.map Place.weight).sum + new.weight := by
  obtain ⟨front, back, split, -, replaced⟩ := Threads.split_at found
  rw [replaced, split]
  simp only [List.map_append, List.map_cons, List.sum_append, List.sum_cons]
  omega

theorem performed_set {log : List (Op × Result)} (logged : (calls.filterMap Place.performed).Perm log)
    (found : calls[index]? = some old) (same : new.performed = old.performed) :
    ((calls.set index new).filterMap Place.performed).Perm log := by
  obtain ⟨front, back, split, -, replaced⟩ := Threads.split_at found
  rw [split] at logged
  rw [replaced]
  simpa only [List.filterMap_append, List.filterMap_cons, same] using logged

theorem performed_act {effect : Op × Result} (found : calls[index]? = some old)
    (before : old.performed = none) (after : new.performed = some effect) :
    ((calls.set index new).filterMap Place.performed).Perm
      (calls.filterMap Place.performed ++ [effect]) := by
  obtain ⟨front, back, split, -, replaced⟩ := Threads.split_at found
  rw [replaced, split]
  simp only [List.filterMap_append, List.filterMap_cons_none before, List.filterMap_cons_some after,
    List.append_assoc]
  exact (List.perm_append_singleton _ _).symm.append_left _

end Lists

/-! ## Mutual exclusion -/

/-- The call inside is the one that has the mutex. -/
structure Exclusive (mutex : Option Nat) (calls : List (Place Op Result)) : Prop where
  inside : ∀ {index place}, calls[index]? = some place → (place.inside = true ↔ mutex = some index)
  bound : ∀ {index}, mutex = some index → index < calls.length

section Exclusive

variable {mutex after : Option Nat} {calls : List (Place Op Result)} {index : Nat}
variable {old new : Place Op Result}

theorem Exclusive.set (exclusive : Exclusive mutex calls) (found : calls[index]? = some old)
    (own : new.inside = true ↔ after = some index)
    (others : ∀ other, other ≠ index → (after = some other ↔ mutex = some other)) :
    Exclusive after (calls.set index new) := by
  have within := (List.getElem?_eq_some_iff.mp found).1
  constructor
  case inside =>
    intro other place foundOther
    by_cases same : index = other
    · subst same
      rw [List.getElem?_set_self within] at foundOther
      cases foundOther
      exact own
    · rw [List.getElem?_set_ne same] at foundOther
      rw [others other (Ne.symm same)]
      exact exclusive.inside foundOther
  case bound =>
    intro other held
    rw [List.length_set]
    by_cases same : other = index
    · exact same ▸ within
    · exact exclusive.bound ((others other same).mp held)

/-- An action that leaves the mutex alone. -/
theorem Exclusive.stay (exclusive : Exclusive mutex calls) (found : calls[index]? = some old)
    (same : new.inside = old.inside) : Exclusive mutex (calls.set index new) :=
  exclusive.set found (by rw [same]; exact exclusive.inside found) fun _ _ => Iff.rfl

/-- The call inside gives the mutex back. -/
theorem Exclusive.leave (exclusive : Exclusive mutex calls) (found : calls[index]? = some old)
    (inside : old.inside = true) (outside : new.inside = false) :
    Exclusive none (calls.set index new) := by
  have held := (exclusive.inside found).mp inside
  refine exclusive.set found (by simp [outside]) fun other different => ?_
  rw [held]
  simp [Ne.symm different]

theorem Exclusive.add (exclusive : Exclusive mutex calls) (outside : new.inside = false) :
    Exclusive mutex (calls ++ [new]) := by
  constructor
  case inside =>
    intro index place found
    rcases Nat.lt_trichotomy index calls.length with old | last | late
    · rw [List.getElem?_append_left old] at found
      exact exclusive.inside found
    · subst last
      rw [List.getElem?_concat_length] at found
      cases found
      rw [outside]
      constructor
      · intro impossible
        cases impossible
      · intro held
        exact absurd (exclusive.bound held) (Nat.lt_irrefl _)
    · rw [List.getElem?_eq_none (by simp; omega)] at found
      cases found
  case bound =>
    intro index held
    have := exclusive.bound held
    simp only [List.length_append]
    omega

end Exclusive

/-- The invariant of the monitor: one call is inside, one that is about to act has found its predicate
    true, and the log is what the calls have done. -/
structure Inv (object : Guarded Data Op Kind Result) (state : State Data Op Result) : Prop where
  exclusive : Exclusive state.mutex state.calls
  acting : ∀ {index : Nat} {op : Op}, state.calls[index]? = some (.acting op) →
    object.ready state.data (object.kind op) = true
  log : (state.calls.filterMap Place.performed).Perm state.log

omit [DecidableEq Kind] in
theorem Inv.start (data : Data) : Inv object { data := data } where
  exclusive := ⟨by simp, by simp⟩
  acting := by simp
  log := .refl _

/-- An acting call in the list after an action of another one was there before. -/
theorem acting_of_set {calls : List (Place Op Result)} {index other : Nat} {new : Place Op Result} {op : Op}
    (found : (calls.set index new)[other]? = some (.acting op)) :
    calls[other]? = some (.acting op) ∨ new = .acting op := by
  by_cases same : index = other
  · subst same
    rw [List.getElem?_set_self'] at found
    cases here : calls[index]? with
    | none =>
      rw [here] at found
      cases found
    | some old =>
      rw [here] at found
      cases found
      exact .inr rfl
  · rw [List.getElem?_set_ne same] at found
    exact .inl found

theorem Inv.step {label : Label Op} (inv : Inv object state) (stepped : Step object state label next) :
    Inv object next := by
  obtain ⟨exclusive, acting, log⟩ := inv
  cases stepped with
  | call op =>
    refine ⟨exclusive.add rfl, ?_, by simpa [List.filterMap_cons, Place.performed] using log⟩
    intro index other found
    by_cases old : index < state.calls.length
    · rw [List.getElem?_append_left old] at found
      exact acting found
    · have mem := List.mem_of_getElem? found
      rw [List.getElem?_append_right (by omega)] at found
      cases List.mem_singleton.mp (List.mem_of_getElem? found)
  | lock found outside free =>
    rename_i index wakes place op
    refine ⟨exclusive.set found ?_ ?_, ?_, ?_⟩
    · simp [Place.inside]
    · intro other different
      rw [free]
      simp [Ne.symm different]
    · intro other acts there
      exact acting ((acting_of_set there).resolve_right (by simp))
    · exact performed_set log found (by rcases outside with rfl | rfl <;> rfl)
  | ready found ready =>
    refine ⟨exclusive.stay found rfl, ?_, performed_set log found rfl⟩
    intro other acts there
    cases acting_of_set there with
    | inl old => exact acting old
    | inr new => cases new; exact ready
  | wait found unready =>
    refine ⟨exclusive.leave found rfl rfl, ?_, performed_set log found rfl⟩
    exact fun there => acting ((acting_of_set there).resolve_right (by simp))
  | act found =>
    refine ⟨exclusive.stay found rfl, ?_, ?_⟩
    · -- no other call is inside, so none is about to act
      intro other acts there
      have before := (acting_of_set there).resolve_right (by simp)
      have held := (exclusive.inside before).mp rfl
      rw [(exclusive.inside found).mp rfl] at held
      cases held
      rw [List.getElem?_set_self (List.getElem?_eq_some_iff.mp found).1] at there
      cases there
    · exact (performed_act found rfl rfl).trans (log.append_right _)
  | pass found alone =>
    refine ⟨exclusive.stay found rfl, ?_, performed_set log found rfl⟩
    exact fun there => acting ((acting_of_set there).resolve_right (by simp))
  | notify found asleep own =>
    refine ⟨Exclusive.stay (exclusive.stay found rfl) asleep rfl, ?_, ?_⟩
    · intro other acts there
      have before := (acting_of_set there).resolve_right (by simp)
      exact acting ((acting_of_set before).resolve_right (by simp))
    · exact performed_set (performed_set log found rfl) asleep rfl
  | unlock found =>
    refine ⟨exclusive.leave found rfl rfl, ?_, performed_set log found rfl⟩
    exact fun there => acting ((acting_of_set there).resolve_right (by simp))
  | spurious found =>
    refine ⟨exclusive.stay found rfl, ?_, performed_set log found rfl⟩
    exact fun there => acting ((acting_of_set there).resolve_right (by simp))

theorem inv {data : Data} (reachable : (object.machine data).Reachable state) : Inv object state := by
  refine reachable.invariant (Inv.start data) ?_
  intro before label next holds stepped
  exact holds.step (step_of_step stepped)

/-- The monitor does what the object does in one step for each operation. -/
theorem monitor_simulates (object : Guarded Data Op Kind Result) (data : Data) :
    Machine.Simulates (object.machine data) (object.atomicMachine data)
      fun state atomic => Inv object state ∧ atomic.data = state.data ∧ atomic.log = state.log where
  start := ⟨.start data, rfl, rfl⟩
  step := by
    rintro state ⟨_, _⟩ label next - ⟨holds, rfl, rfl⟩ stepped
    have stepped := step_of_step stepped
    have later := holds.step stepped
    cases stepped with
    | act found =>
      rename_i index wakes op
      refine ⟨[op], ⟨(object.perform state.data op).1, _⟩, ?_, later, rfl, rfl⟩
      simp [Machine.run_cons, atomicMachine, atomicStep, holds.acting found]
    | _ => exact ⟨[], _, rfl, later, rfl, rfl⟩

/-! ## No wake-up is lost -/

/-- How many operations of a kind the data has room for: an operation takes one of its own kind away
    and makes room for at most one of the kind it wakes. -/
structure Counted (object : Guarded Data Op Kind Result) (available : Data → Kind → Nat) : Prop where
  ready : ∀ data kind, object.ready data kind = true ↔ 0 < available data kind
  perform : ∀ data op kind, object.ready data (object.kind op) = true →
    available (object.perform data op).1 kind + (decide (object.kind op = kind)).toNat ≤
      available data kind + (decide (object.wakes (object.kind op) = kind)).toNat

variable {available : Data → Kind → Nat}

/-- While a call of the kind sleeps, every operation of the kind that the data has room for is attended. -/
def Awake (object : Guarded Data Op Kind Result) (available : Data → Kind → Nat)
    (state : State Data Op Result) : Prop :=
  ∀ kind, 0 < state.calls.countP (object.waits kind) →
    available state.data kind ≤ state.calls.countP (object.attends kind)

/-- One call moves on: it does not fall asleep, and attends what the data gains. -/
theorem awake_set {data : Data} {calls : List (Place Op Result)} {index : Nat} {old new : Place Op Result}
    {kind : Kind} {room : Nat}
    (awake : 0 < calls.countP (object.waits kind) →
      available data kind ≤ calls.countP (object.attends kind))
    (found : calls[index]? = some old)
    (asleep : object.waits kind new = true → object.waits kind old = true)
    (covered : room + (object.attends kind old).toNat ≤
      available data kind + (object.attends kind new).toNat) :
    0 < (calls.set index new).countP (object.waits kind) →
      room ≤ (calls.set index new).countP (object.attends kind) := by
  intro sleeping
  have waiting := countP_set (object.waits kind) found new
  have attending := countP_set (object.attends kind) found new
  have fewer : (object.waits kind new).toNat ≤ (object.waits kind old).toNat := by
    cases sleeps : object.waits kind new with
    | false => exact Nat.zero_le _
    | true => simp [asleep sleeps]
  have := awake (by omega)
  omega

theorem Awake.step {label : Label Op} (counted : Counted object available) (inv : Inv object state)
    (awake : Awake object available state) (stepped : Step object state label next) :
    Awake object available next := by
  intro kind
  have awake := awake kind
  cases stepped with
  | call op =>
    intro sleeping
    simp only [List.countP_append, List.countP_singleton, waits, attends] at sleeping ⊢
    have := awake (by simpa using sleeping)
    omega
  | lock found outside free =>
    refine awake_set awake found (by simp [waits]) ?_
    rcases outside with rfl | rfl <;> simp [attends]
  | ready found ready => exact awake_set awake found (by simp [waits]) (by simp [attends])
  | wait found unready =>
    rename_i index wakes op
    by_cases same : object.kind op = kind
    · -- there is no room for the call that falls asleep
      subst same
      intro _
      have none : available state.data (object.kind op) = 0 := by
        have := (counted.ready state.data (object.kind op)).not.mp (by simp [unready])
        omega
      simp only [none, Nat.zero_le]
    · exact awake_set awake found (by simp [waits, same]) (by simp [attends, same])
  | act found =>
    exact awake_set awake found (by simp [waits])
      (counted.perform state.data _ kind (inv.acting found))
  | pass found alone =>
    rename_i index op result
    by_cases same : object.wakes (object.kind op) = kind
    · -- nobody of the kind sleeps
      subst same
      intro sleeping
      obtain ⟨place, mem, sleeps⟩ := List.countP_pos_iff.mp sleeping
      rw [alone place mem] at sleeps
      cases sleeps
    · exact awake_set awake found (by simp [waits]) (by simp [attends, same])
  | notify found asleep own =>
    rename_i index target op other result
    intro sleeping
    -- the woken call attends what the notifying one has attended so far
    have waiting := countP_set (object.waits kind) found (.leaving op result)
    have attending := countP_set (object.attends kind) found (.leaving op result)
    have waitingWoken := countP_set (object.waits kind) asleep (.woken other)
    have attendingWoken := countP_set (object.attends kind) asleep (.woken other)
    simp only [waits, attends, own, Bool.toNat_false] at waiting attending waitingWoken attendingWoken
    dsimp only at sleeping ⊢
    have := awake (by omega)
    omega
  | unlock found => exact awake_set awake found (by simp [waits]) (by simp [attends])
  | spurious found => exact awake_set awake found (by simp [waits]) (by simp [attends])

theorem awake {data : Data} (counted : Counted object available)
    (reachable : (object.machine data).Reachable state) : Awake object available state := by
  have start : Awake object available (object.machine data).start := by
    intro kind sleeping
    simp [machine] at sleeping
  refine (@Machine.Reachable.invariant _ _ _ (fun state => Inv object state ∧ Awake object available state)
    ⟨.start data, start⟩ ?_ _ reachable).2
  intro before label next holds stepped
  have stepped := step_of_step stepped
  exact ⟨holds.1.step stepped, holds.2.step counted holds.1 stepped⟩

/-! ## The threads come to rest -/

def Label.isAdvance : Label Op → Bool
  | .advance _ _ => true
  | .call _ | .spurious _ => false

/-- The actions that the calls may still take. -/
def State.weight (state : State Data Op Result) : Nat := (state.calls.map Place.weight).sum

theorem weight_step {label : Label Op} (own : label.isAdvance = true)
    (stepped : Step object state label next) : next.weight + 1 ≤ state.weight := by
  cases stepped with
  | call op => cases own
  | spurious found => cases own
  | lock found outside free =>
    rename_i index wakes place op
    have moved := weight_set found (.testing op)
    have outer : place.weight = 7 := by rcases outside with rfl | rfl <;> rfl
    rw [outer] at moved
    simp only [State.weight, Place.weight] at moved ⊢
    omega
  | notify found asleep same =>
    -- the one that notifies goes on, the one that is woken goes back, and the sum falls all the same
    rename_i index target op other result
    have first := weight_set found (.leaving op result)
    have second := weight_set asleep (.woken other)
    simp only [State.weight, Place.weight] at first second ⊢
    omega
  | ready found ready =>
    rename_i index wakes op
    have moved := weight_set found (.acting op)
    simp only [State.weight, Place.weight] at moved ⊢
    omega
  | wait found unready =>
    rename_i index wakes op
    have moved := weight_set found (.waiting op)
    simp only [State.weight, Place.weight] at moved ⊢
    omega
  | act found =>
    rename_i index wakes op
    have moved := weight_set found (.notifying op (object.perform state.data op).2)
    simp only [State.weight, Place.weight] at moved ⊢
    omega
  | pass found alone =>
    rename_i index op result
    have moved := weight_set found (.leaving op result)
    simp only [State.weight, Place.weight] at moved ⊢
    omega
  | unlock found =>
    rename_i index wakes op result
    have moved := weight_set found (.done op result)
    simp only [State.weight, Place.weight] at moved ⊢
    omega

/-- Without new calls and without spurious wake-ups there is an end. -/
theorem advance_length {data : Data} {final : State Data Op Result} {labels : List (Label Op)}
    (own : ∀ label ∈ labels, label.isAdvance = true)
    (ran : (object.machine data).run state labels = some final) :
    labels.length + final.weight ≤ state.weight := by
  induction labels generalizing state with
  | nil =>
    cases ran
    simp
  | cons label labels inductionHypothesis =>
    obtain ⟨next, stepped, rest⟩ := Machine.run_cons_eq_some ran
    have moved := weight_step (own label List.mem_cons_self) (step_of_step stepped)
    have later := inductionHypothesis (fun other mem => own other (List.mem_cons_of_mem _ mem)) rest
    simp only [List.length_cons]
    omega

/-- No call can take a further action. -/
def Stuck (object : Guarded Data Op Kind Result) (state : State Data Op Result) : Prop :=
  ∀ index wakes, object.step state (.advance index wakes) = none

/-- The call that has the mutex can move. -/
theorem not_stuck_of_inside {index : Nat} {place : Place Op Result} (found : state.calls[index]? = some place)
    (inside : place.inside = true) : ¬ Stuck object state := by
  intro stuck
  cases place with
  | testing op =>
    have impossible := stuck index none
    simp only [step, found, Option.bind_some, advance] at impossible
    split at impossible <;> cases impossible
  | acting op =>
    have impossible := stuck index none
    simp only [step, found, Option.bind_some, advance] at impossible
    cases impossible
  | leaving op result =>
    have impossible := stuck index none
    simp only [step, found, Option.bind_some, advance] at impossible
    cases impossible
  | notifying op result =>
    -- there is a waiting call to wake, or there is none
    let calls := state.calls.set index (.leaving op result)
    cases any : calls.any (object.waits (object.wakes (object.kind op))) with
    | false =>
      have impossible := stuck index none
      simp only [step, found, Option.bind_some, advance, notify, Option.map_eq_none_iff] at impossible
      rw [if_neg (by simpa [calls] using any)] at impossible
      cases impossible
    | true =>
      obtain ⟨other, mem, sleeps⟩ := List.any_eq_true.mp any
      obtain ⟨target, there⟩ := List.mem_iff_getElem?.mp mem
      cases other with
      | waiting other =>
        have impossible := stuck index (some target)
        simp only [step, found, Option.bind_some, advance, notify, Option.map_eq_none_iff] at impossible
        rw [show (state.calls.set index (.leaving op result))[target]? = some (.waiting other) from there]
          at impossible
        simp only [waits, decide_eq_true_eq] at sleeps
        simp only [if_pos sleeps] at impossible
        cases impossible
      | _ => cases sleeps
  | _ => cases inside

/-- At rest every call is done, or asleep because the data has no room for it. -/
theorem stuck_settled {data : Data} (counted : Counted object available)
    (reachable : (object.machine data).Reachable state) (stuck : Stuck object state)
    {place : Place Op Result} (mem : place ∈ state.calls) :
    (∃ op result, place = .done op result) ∨
      ∃ op, place = .waiting op ∧ object.ready state.data (object.kind op) = false := by
  have invariant := inv reachable
  -- nobody has the mutex, so nobody waits for it either
  have free : state.mutex = none := by
    cases held : state.mutex with
    | none => rfl
    | some index =>
      have found := List.getElem?_eq_getElem (invariant.exclusive.bound held)
      exact absurd stuck (not_stuck_of_inside found ((invariant.exclusive.inside found).mpr held))
  have resting : ∀ other ∈ state.calls, (∃ op result, other = .done op result) ∨ ∃ op, other = .waiting op := by
    intro other mem
    obtain ⟨index, found⟩ := List.mem_iff_getElem?.mp mem
    have impossible := stuck index none
    simp only [step, found, Option.bind_some] at impossible
    cases other with
    | done op result => exact .inl ⟨op, result, rfl⟩
    | waiting op => exact .inr ⟨op, rfl⟩
    | entering op | woken op =>
      simp only [advance, free] at impossible
      cases impossible
    | testing op | acting op | notifying op result | leaving op result =>
      exact absurd stuck (not_stuck_of_inside found rfl)
  refine (resting place mem).imp id ?_
  rintro ⟨op, rfl⟩
  refine ⟨op, rfl, ?_⟩
  -- nobody attends the kind, so there is no room
  have nobody : state.calls.countP (object.attends (object.kind op)) = 0 := by
    refine List.countP_eq_zero.mpr fun other there => ?_
    rcases resting other there with ⟨_, _, rfl⟩ | ⟨_, rfl⟩ <;> simp [attends]
  have none := awake counted reachable (object.kind op)
    (List.countP_pos_iff.mpr ⟨_, mem, by simp [waits]⟩)
  have := (counted.ready state.data (object.kind op)).not
  simp only [Bool.not_eq_true] at this
  exact this.mpr (by omega)

end Guarded

end Interaction
