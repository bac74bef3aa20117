import XBusiness.Lib.Machine
import XBusiness.Lib.StateProg
import XBusiness.Lib.Threads
import XBusiness.Workflow.PictureWait

/-! # The lock of the picture wait

Sessions run `getResultOfWait` against the locks that Redis keeps, with a clock.  A lock
expires when its time is over, whoever is still inside.  Commands may fail, and one whose
reply is lost may have been performed all the same.

* `getResultOfWait_safe` — a session sets the lock when it is outside and releases only what
  it set.
* `lock_exclusive` — no two sessions are inside on one key and no lock is deleted by another
  session than the one that set it, along every run in which no lock is granted while a
  session is inside whose own lock has expired; `lock_shared` is a run of the other case.
-/

namespace XBusiness

open Interaction

/-! ## The lock of one key -/

/-- The lock in Redis: its value, the session that set it and the time it expires. -/
structure Lock where
  value : String
  owner : Nat
  expireAt : Int
  deriving DecidableEq, Repr

/-- A session between a successful `RedLock` and its `RedUnlock`, with the token it used and the
    time its lock was set. -/
structure Holder where
  id : Nat
  value : String
  since : Int
  deriving DecidableEq, Repr

/-- `deleted` names, for each lock that was deleted, the session that did it and the one that
    had set the lock. -/
structure LockWorld where
  now : Int := 0
  lock : Option Lock := none
  holders : List Holder := []
  deleted : List (Nat × Nat) := []
  deriving DecidableEq, Repr

/-- The failures after which the caller does not know what Redis did. -/
def RedisReply.lost : RedisReply → Bool
  | invalid | timeout | exception => true
  | null | string _ | integer _ | other => false

namespace LockWorld

/-- The lock, if it has not expired. -/
def liveLock (world : LockWorld) : Option Lock :=
  world.lock.filter fun lock => world.now < lock.expireAt

/-- `SET` of the lock key. -/
def setLock (world : LockWorld) (id : Nat) (data : String) (milliseconds : Int) : LockWorld :=
  { world with lock := some ⟨data, id, world.now + milliseconds⟩ }

def enter (world : LockWorld) (id : Nat) (data : String) : LockWorld :=
  { world with holders := ⟨id, data, world.now⟩ :: world.holders }

def leave (world : LockWorld) (id : Nat) : LockWorld :=
  { world with holders := world.holders.filter fun holder => holder.id ≠ id }

/-- The script of `RedUnlock`: delete the lock if it has the value. -/
def unlock (world : LockWorld) (id : Nat) (data : String) : RedisReply × LockWorld :=
  match world.liveLock with
  | some lock =>
    if lock.value = data then
      (.integer 1, { world with lock := none, deleted := (id, lock.owner) :: world.deleted })
    else (.integer 0, world)
  | none => (.integer 0, world)

/-- One call of a session. `performed` says what becomes of a command whose reply is lost.  What
    Redis keeps under other keys, and everything else, answers as it likes. -/
def exec (lockKey : String) (id : Nat) (performed : Bool) (world : LockWorld) :
    (request : FlowCall) → request.Answer → request.Answer × LockWorld
  | .now, _ => (world.now, world)
  | .redisSet key data milliseconds nx, reply =>
    if key = lockKey then
      if nx then
        match world.liveLock with
        | none =>
          if reply.lost then
            (reply, if performed then world.setLock id data milliseconds else world)
          else (.string "OK", (world.setLock id data milliseconds).enter id data)
        | some _ => (if reply.lost then reply else .null, world)
      else (reply, world.setLock id data milliseconds)
    else (reply, world)
  | .redisUnlock key data, reply =>
    if key = lockKey then
      let (answer, after) := world.unlock id data
      if reply.lost then (reply, (if performed then after else world).leave id)
      else (answer, after.leave id)
    else (reply, world)
  | _, answer => (answer, world)

end LockWorld

/-! ## Runs -/

/-- A session that runs `getResultOfWait`. -/
abbrev Waiting := Thread Session FlowCall FlowCall.Answer Fault (PictureWaitResult × Session)

structure LockState where
  world : LockWorld := {}
  running : List Waiting := []
  started : Nat := 0

/-- Any time may pass between two calls, so also the one that a command takes or a sleep. -/
inductive LockLabel where
  | tick (milliseconds : Nat)
  | start (session : Session)
  | advance (index : Nat) (answer : ∀ request : FlowCall, request.Answer) (performed : Bool)

/-- `lock_key`. -/
def lockKeyOf (key : String) : String := "lock_" ++ key

def LockState.step (env : Env) (key : String) (state : LockState) : LockLabel → Option LockState
  | .tick milliseconds =>
    some { state with world := { state.world with now := state.world.now + milliseconds } }
  | .start session =>
    if session.kafkaData.getPicWaitKey = key then
      some { state with
        running := state.running ++
          [{ id := state.started, info := session, program := (getResultOfWait env).run session }]
        started := state.started + 1 }
    else none
  | .advance index answer performed =>
    state.running[index]?.bind fun waiting =>
      match waiting.program with
      | .ret _ => some { state with running := state.running.eraseIdx index }
      | .raise _ => none
      | .call request next =>
        let result := state.world.exec (lockKeyOf key) waiting.id performed request (answer request)
        some { state with
          world := result.2
          running := state.running.set index { waiting with program := next result.1 } }

/-- The sessions of one picture key, of any number of processes that share a Redis server. -/
def lockMachine (env : Env) (key : String) : Machine LockState LockLabel where
  start := {}
  step := LockState.step env key

/-! ## What a session does to the lock -/

namespace FlowCall

/-- A call that leaves the lock alone. -/
def sparesLock (lockKey : String) : FlowCall → Prop
  | redisSet key _ _ _ => key ≠ lockKey
  | redisUnlock _ _ => False
  | _ => True

end FlowCall

theorem LockWorld.exec_spares {lockKey : String} {id : Nat} {performed : Bool} {world : LockWorld}
    {request : FlowCall} (spares : request.sparesLock lockKey) (answer : request.Answer) :
    (world.exec lockKey id performed request answer).2 = world := by
  cases request with
  | redisSet key data milliseconds nx => simp [exec, if_neg spares]
  | redisUnlock key data => exact spares.elim
  | _ => rfl

theorem waitCriticalSection_spares (env : Env) {lockKey key : String} (payload : String) (ptype : Int)
    (other : key ≠ lockKey) :
    StateProg.Frames (FlowCall.sparesLock lockKey) (fun _ => ()) (waitCriticalSection env key payload ptype) := by
  apply waitCriticalSection_frames
  · refine ⟨trivial, fun _ _ => other, fun request sessionCall => ?_⟩
    cases request <;> trivial
  · exact fun _ _ _ _ _ => rfl

/-! ## The contract of a session -/

namespace LockWorld

/-- What the lock machine records of a session: nothing while it is outside. -/
def own (world : LockWorld) (id : Nat) : List Holder :=
  world.holders.filter fun holder => holder.id = id

@[simp] theorem own_enter (world : LockWorld) (id : Nat) (data : String) :
    (world.enter id data).own id = ⟨id, data, world.now⟩ :: world.own id := by
  simp [own, enter]

theorem own_enter_of_ne (world : LockWorld) {id other : Nat} (data : String) (ne : id ≠ other) :
    (world.enter id data).own other = world.own other := by
  simp [own, enter, ne]

@[simp] theorem own_leave (world : LockWorld) (id : Nat) : (world.leave id).own id = [] := by
  simp [own, leave, List.filter_filter]

theorem own_leave_of_ne (world : LockWorld) {id other : Nat} (ne : id ≠ other) :
    (world.leave id).own other = world.own other := by
  simp only [own, leave, List.filter_filter]
  apply List.filter_congr
  intro holder _
  by_cases same : holder.id = other
  · simp [same, Ne.symm ne]
  · simp [same]

@[simp] theorem own_setLock (world : LockWorld) (id other : Nat) (data : String) (milliseconds : Int) :
    (world.setLock id data milliseconds).own other = world.own other := rfl

@[simp] theorem own_unlock (world : LockWorld) (id other : Nat) (data : String) :
    (world.unlock id data).2.own other = world.own other := by
  unfold unlock
  split
  · split <;> rfl
  · rfl

/-- A session is outside, or inside with its token. -/
def Inside (world : LockWorld) (id : Nat) (data : String) : Prop :=
  ∃ since, world.own id = [⟨id, data, since⟩]

end LockWorld

/-- The contract of a session with its token: it sets the lock when it is outside, with the expiry
    of the module, and releases it when it is inside. -/
def lockContract (lockKey : String) (id : Nat) (session : Session) :
    Contract LockWorld FlowCall FlowCall.Answer where
  rely world later := later.own id = world.own id
  allowed world
    | .redisSet key data milliseconds nx => key = lockKey →
        data = session.uid ∧ milliseconds = redlockExpireTimeout ∧ nx = true ∧ world.own id = []
    | .redisUnlock key data => key = lockKey ∧ data = session.uid ∧ world.Inside id session.uid
    | _ => True
  effect world request answer after :=
    ∃ performed given, world.exec lockKey id performed request given = (answer, after)
  rely_refl _ := rfl
  rely_trans first second := second.trans first

section Program

variable {lockKey : String} {id : Nat} {session : Session} {world : LockWorld}

/-- Calls that spare the lock leave the session where it is. -/
theorem spares_kept (property : LockWorld → Prop) (request : FlowCall)
    (spares : request.sparesLock lockKey) (holds : property world) :
    (lockContract lockKey id session).allowed world request ∧
      ∀ answer after, (lockContract lockKey id session).effect world request answer after →
        property after := by
  constructor
  · cases request with
    | redisSet key data milliseconds nx => exact fun same => absurd same spares
    | redisUnlock key data => exact spares.elim
    | _ => trivial
  · rintro answer after ⟨performed, given, executed⟩
    have same : (world.exec lockKey id performed request given).2 = world :=
      LockWorld.exec_spares spares given
    rw [executed] at same
    rw [show after = world from same]
    exact holds

/-- A `SET NX` of the session: it is inside when the answer is `OK`, and outside otherwise. -/
theorem setNx_effect {answer : RedisReply} {after : LockWorld} (outside : world.own id = [])
    (effect : (lockContract lockKey id session).effect world
      (.redisSet lockKey session.uid redlockExpireTimeout true) answer after) :
    if answer = .string "OK" then after.Inside id session.uid else after.own id = [] := by
  obtain ⟨performed, given, executed⟩ := effect
  simp only [LockWorld.exec, if_true] at executed
  have failed : ∀ reply : RedisReply, reply.lost = true → reply ≠ .string "OK" := by
    rintro _ lost rfl
    cases lost
  split at executed
  · split at executed
    · next lost =>
      cases executed
      rw [if_neg (failed _ lost)]
      cases performed <;> simpa using outside
    · cases executed
      rw [if_pos rfl]
      exact ⟨world.now, by rw [LockWorld.own_enter, LockWorld.own_setLock, outside]; rfl⟩
  · cases executed
    have refused : (if given.lost = true then given else .null) ≠ .string "OK" := by
      split
      · next lost => exact failed _ lost
      · exact nofun
    rw [if_neg refused]
    exact outside

theorem redLockLoop_safe {begin : Int} (attempts : Nat) (outside : world.own id = []) :
    (redLockLoop lockKey session.uid redlockAcquireTimeout redlockExpireTimeout begin attempts).Safe
      (lockContract lockKey id session) (fun _ => True)
      (fun later locked =>
        if locked = true then later.Inside id session.uid else later.own id = []) world := by
  induction attempts generalizing world with
  | zero =>
    intro later relied
    exact relied.trans outside
  | succ attempts inductionHypothesis =>
    rw [redLockLoop_succ]
    intro later relied
    refine ⟨fun _ => ⟨rfl, rfl, rfl, relied.trans outside⟩, fun answer after effect => ?_⟩
    have moved := setNx_effect (relied.trans outside) effect
    dsimp only
    by_cases ok : answer = .string "OK"
    · rw [if_pos ok] at moved ⊢
      intro last relied
      obtain ⟨since, inside⟩ := moved
      exact ⟨since, relied.trans inside⟩
    · rw [if_neg ok] at moved ⊢
      -- the sleep and the clock leave the session outside
      intro slept relied
      refine ⟨trivial, ?_⟩
      rintro _ rested ⟨_, _, executed⟩
      cases executed
      intro woken reliedWoken
      refine ⟨trivial, ?_⟩
      rintro current timed ⟨_, _, executed⟩
      cases executed
      have outsideNow : woken.own id = [] := (reliedWoken.trans relied).trans moved
      dsimp only
      split
      · exact inductionHypothesis outsideNow
      · exact fun last reliedLast => reliedLast.trans outsideNow

theorem redLock_safe (outside : world.own id = []) :
    (redLock lockKey session.uid redlockAcquireTimeout redlockExpireTimeout).Safe
      (lockContract lockKey id session) (fun _ => True)
      (fun later locked =>
        if locked = true then later.Inside id session.uid else later.own id = []) world := by
  intro later relied
  refine ⟨trivial, ?_⟩
  rintro begin after ⟨_, _, executed⟩
  cases executed
  exact redLockLoop_safe _ (relied.trans outside)

theorem redUnlock_safe (inside : world.Inside id session.uid) :
    (redUnlock lockKey session.uid).Safe (lockContract lockKey id session) (fun _ => True)
      (fun later _ => later.own id = []) world := by
  intro later relied
  obtain ⟨since, inside⟩ := inside
  refine ⟨⟨rfl, rfl, since, relied.trans inside⟩, ?_⟩
  rintro answer after ⟨performed, given, executed⟩
  have outside : after.own id = [] := by
    simp only [LockWorld.exec, if_true] at executed
    split at executed <;> cases executed <;> simp
  exact fun last reliedLast => reliedLast.trans outside

theorem lockKeyOf_ne (key : String) : key ≠ lockKeyOf key := by
  intro same
  have length := congrArg String.length same
  simp only [lockKeyOf, String.length_append] at length
  have added : "lock_".length = 5 := rfl
  omega

theorem getResultOfWait_safe (env : Env) (outside : world.own id = []) :
    StateProg.Safe (lockContract (lockKeyOf session.kafkaData.getPicWaitKey) id session)
      (fun _ => True) (fun later _ _ => later.own id = []) (getResultOfWait env) world session := by
  apply StateProg.Safe.get
  cases session.kafkaData.data with
  | none => exact trivial
  | some data =>
    dsimp only
    split
    · exact StateProg.Safe.pure fun later relied => relied.trans outside
    · apply StateProg.Safe.lift
      apply (redLock_safe outside).mono
      intro world locked moved
      cases locked with
      | false => exact StateProg.Safe.pure fun later relied => relied.trans moved
      | true =>
        apply StateProg.Safe.bind
        apply StateProg.Safe.mono
        · -- the section spares the lock, so the session stays inside
          apply StateProg.Frames.safe (fun world => world.Inside id session.uid)
            (waitCriticalSection_spares env data.msg.payload session.kafkaData.payloadType
              (lockKeyOf_ne session.kafkaData.getPicWaitKey))
          · rintro before later relied ⟨since, inside⟩
            exact ⟨since, relied.trans inside⟩
          · exact fun before request spares inside => spares_kept _ request spares inside
          · exact fun _ => trivial
          · exact moved
        · intro later result object inside
          apply StateProg.Safe.lift
          apply (redUnlock_safe inside.1).mono
          intro last _ outside
          exact StateProg.Safe.pure fun final relied => relied.trans outside

end Program

/-! ## The lock and the sessions inside -/

namespace LockWorld

/-- The condition on a call: when Redis performs a `SET NX` of the lock key, every session inside
    set its lock less than the expiry ago, or the requester does not get to know of its lock and
    has another token. -/
def inTime (lockKey : String) (performed : Bool) (world : LockWorld) :
    (request : FlowCall) → request.Answer → Bool
  | .redisSet key data _ true, reply =>
    key ≠ lockKey || world.liveLock ≠ none || (reply.lost && !performed) ||
      world.holders.all fun holder =>
        world.now < holder.since + redlockExpireTimeout || (reply.lost && data ≠ holder.value)
  | _, _ => true

/-- The lock that a session set. -/
def heldLock (holder : Holder) : Lock :=
  ⟨holder.value, holder.id, holder.since + redlockExpireTimeout⟩

/-- At most one session is inside.  Its own lock is there as long as it has not expired, and no
    other lock has its token. -/
structure Inv (world : LockWorld) : Prop where
  exclusive : world.holders.length ≤ 1
  held : ∀ holder ∈ world.holders, world.now < holder.since + redlockExpireTimeout →
    world.lock = some (heldLock holder)
  owned : ∀ holder ∈ world.holders, ∀ lock, world.liveLock = some lock →
    lock.value = holder.value → lock.owner = holder.id
  deleted : ∀ entry ∈ world.deleted, entry.1 = entry.2

variable {world : LockWorld}

/-- Nobody is inside. -/
theorem Inv.of_empty (empty : world.holders = [])
    (deleted : ∀ entry ∈ world.deleted, entry.1 = entry.2) : world.Inv where
  exclusive := by simp [empty]
  held holder mem := by simp [empty] at mem
  owned holder mem := by simp [empty] at mem
  deleted := deleted

theorem liveLock_eq_some {lock : Lock} :
    world.liveLock = some lock ↔ world.lock = some lock ∧ world.now < lock.expireAt := by
  simp [liveLock, Option.filter_eq_some_iff]

theorem Inv.tick (inv : world.Inv) (milliseconds : Nat) :
    { world with now := world.now + milliseconds }.Inv where
  exclusive := inv.exclusive
  held holder mem early := inv.held holder mem (by simp only at early; omega)
  owned holder mem lock found := by
    rw [liveLock_eq_some] at found
    exact inv.owned holder mem lock (liveLock_eq_some.mpr ⟨found.1, by have := found.2; simp only at this; omega⟩)
  deleted := inv.deleted

/-- The lock of a session that is inside and in time. -/
theorem Inv.liveLock_of_mem (inv : world.Inv) {holder : Holder} (mem : holder ∈ world.holders)
    (early : world.now < holder.since + redlockExpireTimeout) :
    world.liveLock = some (heldLock holder) :=
  liveLock_eq_some.mpr ⟨inv.held holder mem early, early⟩

/-- A lock that is set when there is none. -/
theorem liveLock_setLock (id : Nat) (data : String) {lock : Lock}
    (found : (world.setLock id data redlockExpireTimeout).liveLock = some lock) :
    lock = ⟨data, id, world.now + redlockExpireTimeout⟩ := by
  rw [liveLock_eq_some] at found
  exact (Option.some.inj found.1).symm

/-- A `SET NX` of the lock key that Redis performs without the requester getting to know. -/
theorem Inv.setLock (inv : world.Inv) {id : Nat} {data : String} (free : world.liveLock = none)
    (tokens : ∀ holder ∈ world.holders,
      world.now < holder.since + redlockExpireTimeout ∨ data ≠ holder.value) :
    (world.setLock id data redlockExpireTimeout).Inv where
  exclusive := inv.exclusive
  held holder mem early := by
    rw [inv.liveLock_of_mem mem early] at free
    cases free
  owned holder mem lock found same := by
    rw [liveLock_setLock id data found] at same
    cases tokens holder mem with
    | inl early =>
      rw [inv.liveLock_of_mem mem early] at free
      cases free
    | inr different => exact absurd same different
  deleted := inv.deleted

/-- A `SET NX` that lets its session in. -/
theorem Inv.enter (inv : world.Inv) {id : Nat} {data : String} (free : world.liveLock = none)
    (early : ∀ holder ∈ world.holders, world.now < holder.since + redlockExpireTimeout) :
    ((world.setLock id data redlockExpireTimeout).enter id data).Inv := by
  -- a session inside would still have its lock
  have empty : world.holders = [] := by
    apply List.eq_nil_iff_forall_not_mem.mpr
    intro holder mem
    rw [inv.liveLock_of_mem mem (early holder mem)] at free
    cases free
  have holders : ((world.setLock id data redlockExpireTimeout).enter id data).holders =
      [⟨id, data, world.now⟩] := by
    simp [LockWorld.enter, LockWorld.setLock, empty]
  constructor
  case exclusive =>
    rw [holders]
    exact Nat.le_refl 1
  case held =>
    rw [holders]
    intro holder mem _
    rw [List.mem_singleton.mp mem]
    rfl
  case owned =>
    rw [holders]
    intro holder mem lock found _
    rw [liveLock_setLock id data found, List.mem_singleton.mp mem]
  case deleted => exact inv.deleted

theorem unlock_cases (id : Nat) (data : String) :
    (world.unlock id data).2 = world ∨
      ∃ lock, world.liveLock = some lock ∧ lock.value = data ∧ (world.unlock id data).2 =
        { world with lock := none, deleted := (id, lock.owner) :: world.deleted } := by
  unfold unlock
  cases found : world.liveLock with
  | none => exact .inl rfl
  | some lock =>
    dsimp only
    split
    · next same => exact .inr ⟨lock, rfl, same, rfl⟩
    · exact .inl rfl

/-- A session that leaves was the only one. -/
theorem Inv.leave (inv : world.Inv) {id : Nat} {data : String} (inside : world.Inside id data) :
    (world.leave id).Inv ∧ ((world.unlock id data).2.leave id).Inv := by
  obtain ⟨since, own⟩ := inside
  have mem : (⟨id, data, since⟩ : Holder) ∈ world.holders := by
    apply List.mem_of_mem_filter
    rw [show world.holders.filter _ = _ from own]
    exact List.mem_singleton_self _
  obtain ⟨only, single⟩ := List.length_eq_one_iff.mp
    (Nat.le_antisymm inv.exclusive (List.length_pos_of_mem mem))
  have empty : (world.leave id).holders = [] := by
    rw [single, List.mem_singleton] at mem
    simp [LockWorld.leave, single, ← mem]
  refine ⟨.of_empty empty inv.deleted, ?_⟩
  cases world.unlock_cases id data with
  | inl same => rw [same]; exact .of_empty empty inv.deleted
  | inr deleting =>
    obtain ⟨lock, found, value, after⟩ := deleting
    rw [after]
    apply Inv.of_empty
    · exact empty
    intro entry memEntry
    cases memEntry with
    | head => exact (inv.owned _ mem lock found value).symm
    | tail _ memEntry => exact inv.deleted entry memEntry

/-- What a call that keeps the contract, and meets the condition, does to the lock. -/
theorem Inv.exec (inv : world.Inv) {lockKey : String} {id : Nat} {session : Session}
    {performed : Bool} {request : FlowCall} {answer : request.Answer}
    (allowed : (lockContract lockKey id session).allowed world request)
    (timely : world.inTime lockKey performed request answer = true) :
    (world.exec lockKey id performed request answer).2.Inv := by
  cases request with
  | redisSet key data milliseconds nx =>
    by_cases same : key = lockKey
    · obtain ⟨-, rfl, rfl, -⟩ := allowed same
      simp only [LockWorld.exec, if_pos same, if_true]
      cases free : world.liveLock with
      -- the lock is taken, so `SET NX` changes nothing
      | some lock => exact inv
      | none =>
        simp only [inTime, same, free, ne_eq, not_true, decide_false, Bool.false_or] at timely
        cases lost : RedisReply.lost answer with
        -- the reply is lost: the lock may have been set without the caller knowing
        | true =>
          cases performed with
          | false => exact inv
          | true =>
            simp only [if_true]
            apply inv.setLock free
            simpa [lost] using timely
        -- the caller enters
        | false =>
          apply inv.enter free
          simpa [lost] using timely
    · simp only [LockWorld.exec, if_neg same]
      exact inv
  | redisUnlock key data =>
    obtain ⟨same, rfl, inside⟩ := allowed
    obtain ⟨gone, released⟩ := inv.leave inside
    simp only [LockWorld.exec, if_pos same]
    split
    · cases performed
      · exact gone
      · exact released
    · exact released
  | _ => exact inv

end LockWorld

/-- What a call leaves for the other sessions to rely on. -/
theorem LockWorld.exec_others {lockKey : String} {id other : Nat} {performed : Bool}
    {world : LockWorld} {request : FlowCall} {answer : request.Answer} (ne : id ≠ other) :
    (world.exec lockKey id performed request answer).2.own other = world.own other := by
  cases request with
  | redisSet key data milliseconds nx =>
    simp only [exec]
    split
    · split
      · split
        · split
          · split <;> simp
          · rw [own_enter_of_ne _ _ ne, own_setLock]
        · rfl
      · simp
    · rfl
  | redisUnlock key data =>
    simp only [exec]
    split
    · split
      · rw [own_leave_of_ne _ ne]
        split <;> simp
      · rw [own_leave_of_ne _ ne, own_unlock]
    · rfl
  | _ => rfl

/-! ## Mutual exclusion -/

namespace LockState

/-- The condition on a step: if it is a call, then the lock is not granted while a session is
    inside whose own lock has expired. -/
def GrantsInTime (key : String) (state : LockState) : LockLabel → Bool
  | .advance index answer performed =>
    state.running[index]?.all fun waiting =>
      match waiting.program with
      | .call request _ => state.world.inTime (lockKeyOf key) performed request (answer request)
      | _ => true
  | _ => true

/-- The steps of the machine. -/
inductive Step (env : Env) (key : String) (state : LockState) : LockLabel → LockState → Prop
  | tick (milliseconds : Nat) : Step env key state (.tick milliseconds)
      { state with world := { state.world with now := state.world.now + milliseconds } }
  | start (session : Session) (keyed : session.kafkaData.getPicWaitKey = key) :
    Step env key state (.start session) { state with
      running := state.running ++
        [{ id := state.started, info := session, program := (getResultOfWait env).run session }]
      started := state.started + 1 }
  | leave (index : Nat) (answer : ∀ request : FlowCall, request.Answer) (performed : Bool) :
    Step env key state (.advance index answer performed)
      { state with running := state.running.eraseIdx index }
  | call (index : Nat) (answer : ∀ request : FlowCall, request.Answer) (performed : Bool)
      (waiting : Waiting) (request : FlowCall)
      (next : request.Answer → FlowProg (PictureWaitResult × Session))
      (reply : request.Answer) (after : LockWorld)
      (found : state.running[index]? = some waiting) (calling : waiting.program = .call request next)
      (executed : state.world.exec (lockKeyOf key) waiting.id performed request (answer request) =
        (reply, after)) :
    Step env key state (.advance index answer performed) { state with
      world := after
      running := state.running.set index { waiting with program := next reply } }

theorem step_cases {env : Env} {key : String} {state next : LockState} {label : LockLabel}
    (stepped : state.step env key label = some next) : Step env key state label next := by
  cases label with
  | tick milliseconds => cases stepped; exact .tick milliseconds
  | start session =>
    simp only [step, Option.ite_none_right_eq_some] at stepped
    obtain ⟨keyed, started⟩ := stepped
    cases started
    exact .start session keyed
  | advance index answer performed =>
    obtain ⟨waiting, found, moved⟩ := Option.bind_eq_some_iff.mp stepped
    split at moved
    · cases moved; exact .leave index answer performed
    · cases moved
    · next request continuation calling =>
      cases moved
      exact .call index answer performed waiting request continuation _ _ found calling rfl

/-- The sessions keep their contracts, and the lock its invariant. -/
structure Inv (key : String) (state : LockState) : Prop where
  threads : Threads.Safe (lockContract (lockKeyOf key)) (fun _ => True) (fun _ _ _ => True)
    state.world state.running
  running : ∀ waiting ∈ state.running, waiting.id < state.started
  holders : ∀ holder ∈ state.world.holders, holder.id < state.started
  lock : state.world.Inv

theorem Inv.start (env : Env) (key : String) : Inv key (lockMachine env key).start where
  threads := .nil
  running _ mem := absurd mem List.not_mem_nil
  holders _ mem := absurd mem List.not_mem_nil
  lock := .of_empty rfl nofun

/-- The sessions inside after a call were inside before it, or made it. -/
theorem holders_exec {lockKey : String} {id : Nat} {performed : Bool} {world : LockWorld}
    {request : FlowCall} {answer : request.Answer} {holder : Holder}
    (mem : holder ∈ (world.exec lockKey id performed request answer).2.holders) :
    holder.id = id ∨ holder ∈ world.holders := by
  by_cases same : id = holder.id
  · exact .inl same.symm
  · have own : holder ∈ (world.exec lockKey id performed request answer).2.own holder.id := by
      simp [LockWorld.own, mem]
    rw [LockWorld.exec_others same] at own
    exact .inr (List.mem_of_mem_filter own)

theorem Inv.step {env : Env} {key : String} {state next : LockState} {label : LockLabel}
    (inv : Inv key state) (timely : state.GrantsInTime key label = true)
    (stepped : state.step env key label = some next) : Inv key next := by
  cases step_cases stepped with
  | tick milliseconds =>
    exact ⟨inv.threads.stable fun _ _ => rfl, inv.running, inv.holders, inv.lock.tick milliseconds⟩
  | start session keyed =>
    -- nobody is inside under an identity that was not given out yet
    have outside : state.world.own state.started = [] := by
      apply List.filter_eq_nil_iff.mpr
      intro holder mem
      simpa using Nat.ne_of_lt (inv.holders holder mem)
    constructor
    case threads =>
      apply inv.threads.add
      · subst keyed
        exact (getResultOfWait_safe env outside).mono fun _ _ _ _ => trivial
      · exact fun other mem => Nat.ne_of_lt (inv.running other mem)
    case running =>
      intro waiting mem
      cases List.mem_append.mp mem with
      | inl mem => exact Nat.lt_succ_of_lt (inv.running waiting mem)
      | inr mem => rw [List.mem_singleton.mp mem]; exact Nat.lt_succ_self _
    case holders => exact fun holder mem => Nat.lt_succ_of_lt (inv.holders holder mem)
    case lock => exact inv.lock
  | leave index answer performed =>
    have sublist := List.eraseIdx_sublist state.running index
    exact ⟨inv.threads.remove index, fun waiting mem => inv.running waiting (sublist.subset mem),
      inv.holders, inv.lock⟩
  | call index answer performed waiting request continuation reply after found calling executed =>
    have own := inv.running waiting (List.mem_of_getElem? found)
    have timely : state.world.inTime (lockKeyOf key) performed request (answer request) = true := by
      simpa [GrantsInTime, found, calling] using timely
    obtain rfl : (state.world.exec (lockKeyOf key) waiting.id performed request (answer request)).2 =
      after := by rw [executed]
    constructor
    case threads =>
      apply inv.threads.call found calling ⟨performed, answer request, executed⟩
      exact fun other _ ne => LockWorld.exec_others ne.symm
    case running =>
      intro member mem
      cases List.mem_or_eq_of_mem_set mem with
      | inl mem => exact inv.running member mem
      | inr same => subst same; exact own
    case holders =>
      intro holder mem
      cases holders_exec mem with
      | inl same => rw [same]; exact own
      | inr mem => exact inv.holders holder mem
    case lock => exact inv.lock.exec (inv.threads.allowed found calling) timely

end LockState

theorem lock_exclusive (env : Env) (key : String) (labels : List LockLabel) (state : LockState)
    (meets : (lockMachine env key).Meets (fun state label => state.GrantsInTime key label = true)
      (lockMachine env key).start labels)
    (ran : (lockMachine env key).run (lockMachine env key).start labels = some state) :
    state.world.holders.length ≤ 1 ∧ ∀ entry ∈ state.world.deleted, entry.1 = entry.2 := by
  have inv : LockState.Inv key state := by
    apply Machine.run_invariant_of_meets ?_ (LockState.Inv.start env key) meets ran
    exact fun _ _ _ inv timely stepped => inv.step timely stepped
  exact ⟨inv.lock.exclusive, inv.lock.deleted⟩

/-- Reads no text and no configuration. -/
def emptyEnv : Env where
  text := {
    reader := fun _ => .ok none
    charReader := fun _ => .ok none
    toStyledString := fun _ => ""
    realToString := fun _ => "" }
  conf := { getValue := fun _ _ => none, getIntValue := fun _ _ => none }
  uninit := { timestamp := 0, similar := 0 }

/-- A business session with the picture `k`, of a message with or without a `msg_id`. -/
def pictureSession (msgId : String) : Session :=
  .make emptyEnv 0 {
    dataClass := .business
    payloadType := PayloadType.business
    totalJv := .null
    src := .kafka
    ipc := { timestamp := 0 }
    msgId := msgId
    data := some ⟨0, 0, ⟨"gzc", 0, 0, "p"⟩⟩
    event := { captureUris := [{ url := "http://host/bucket/k" }] } }

def lockCalls (index calls : Nat) : List LockLabel :=
  List.replicate calls (.advance index FlowCall.succeed true)

/-- A second session asks for the lock while the first is inside, and gets it later. -/
def oneAfterTheOther : List LockLabel :=
  .start (pictureSession "m") :: .start (pictureSession "m") :: lockCalls 0 2 ++ .tick 4999 ::
    lockCalls 1 2 ++ lockCalls 0 4 ++ lockCalls 0 3

theorem lock_exclusive_oneAfterTheOther :
    ∃ state, (lockMachine emptyEnv "k").run (lockMachine emptyEnv "k").start oneAfterTheOther =
        some state ∧ state.world.holders.length = 1 ∧ state.world.deleted = [(0, 0)] ∧
      state.world.holders.length ≤ 1 ∧ ∀ entry ∈ state.world.deleted, entry.1 = entry.2 :=
  ⟨_, rfl, rfl, rfl, lock_exclusive emptyEnv "k" oneAfterTheOther _ (by decide) rfl⟩

/-- Two messages without a `msg_id`: the first session is inside for 5000 ms. -/
def pastExpiry : List LockLabel :=
  .start (pictureSession "") :: .start (pictureSession "") :: lockCalls 0 2 ++ .tick 5000 :: lockCalls 1 2

/-- Its lock has expired, so the second session gets the lock while the first is inside; and as
    both have the same token, the first one then deletes the lock of the second. -/
theorem lock_shared :
    ∃ middle last, (lockMachine emptyEnv "k").run (lockMachine emptyEnv "k").start pastExpiry =
        some middle ∧ middle.world.holders.map Holder.id = [1, 0] ∧
      (lockMachine emptyEnv "k").run middle (lockCalls 0 3) = some last ∧
      last.world.deleted = [(0, 1)] :=
  ⟨_, _, rfl, rfl, rfl, rfl⟩

end XBusiness
