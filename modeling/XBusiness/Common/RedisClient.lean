import XBusiness.Workflow.Calls

/-! # `CRedisClient`

The synchronous commands of the client and the lock built on them.  A command sends its
request and waits for the future at most `sync_wait_timeout_`; every failure to get a
reply reads as an empty one.
-/

namespace XBusiness

open Interaction Prog

/-- `GetValueByKey`: the result and the value left in `data`. -/
def getValueByKey (key : String) : FlowProg (Bool × String) := do
  let reply : RedisReply ← perform (FlowCall.redisGet key)
  let data :=
    match reply with
    | .string value => value
    | _ => ""
  return (data ≠ "", data)

/-- `SetAdvancedKeyValue`. -/
def setAdvancedKeyValue (key data : String) (timeoutMs : Int) (nx : Bool) : FlowProg Bool := do
  let reply : RedisReply ← perform (FlowCall.redisSet key data timeoutMs nx)
  -- a reply that does not come counts as a failure, whatever Redis has done
  return reply = .string "OK"

/-- `lock_check_period_`. -/
def lockCheckPeriod : Nat := 10

/-- The loop of `RedLock`.  Every iteration sleeps `lock_check_period_`, so a clock that does
    not go backwards allows `attempts` of them within the acquire timeout. -/
def redLockLoop (key data : String) (acquireTimeout expireTimeout begin : Int) :
    Nat → FlowProg Bool
  | 0 => return false
  | attempts + 1 => do
    if ← setAdvancedKeyValue key data expireTimeout true then
      return true
    else
      perform (FlowCall.sleepFor lockCheckPeriod)
      let current : Int ← perform FlowCall.now
      let elapsed := current - begin
      if elapsed < acquireTimeout then
        redLockLoop key data acquireTimeout expireTimeout begin attempts
      else
        return false

/-- One iteration of the loop, call by call. -/
theorem redLockLoop_succ (key data : String) (acquireTimeout expireTimeout begin : Int)
    (attempts : Nat) :
    redLockLoop key data acquireTimeout expireTimeout begin (attempts + 1) =
      .call (.redisSet key data expireTimeout true) fun reply =>
        if reply = RedisReply.string "OK" then .ret true
        else .call (.sleepFor lockCheckPeriod) fun _ => .call .now fun current =>
          if current - begin < acquireTimeout then
            redLockLoop key data acquireTimeout expireTimeout begin attempts
          else .ret false := by
  simp only [redLockLoop, setAdvancedKeyValue, perform_bind, call_bind, pure_eq, ret_bind]
  congr 1
  funext reply
  by_cases ok : reply = RedisReply.string "OK" <;> simp [ok]

/-- `RedLock`. -/
def redLock (key data : String) (acquireTimeout expireTimeout : Int) : FlowProg Bool := do
  let begin : Int ← perform FlowCall.now
  if 0 < acquireTimeout then
    redLockLoop key data acquireTimeout expireTimeout begin
      ((acquireTimeout.toNat + lockCheckPeriod - 1) / lockCheckPeriod)
  else
    return false

/-- `RedUnlock`. -/
def redUnlock (key data : String) : FlowProg Bool := do
  let reply : RedisReply ← perform (FlowCall.redisUnlock key data)
  let setRep :=
    match reply with
    | .integer value => value
    | _ => 0
  return setRep ≠ 0

/-! ## The calls of the commands -/

section Calls

variable {kind : FlowCall → Prop} {key data : String}

theorem redLockLoop_makes {acquireTimeout expireTimeout begin : Int} {attempts : Nat}
    (sets : kind (.redisSet key data expireTimeout true)) (sleeps : kind (.sleepFor lockCheckPeriod))
    (reads : kind .now) :
    (redLockLoop key data acquireTimeout expireTimeout begin attempts).Makes kind fun _ => True := by
  induction attempts with
  | zero => trivial
  | succ attempts inductionHypothesis =>
    rw [redLockLoop_succ]
    refine ⟨sets, fun reply => ?_⟩
    dsimp only
    split
    · trivial
    · refine ⟨sleeps, fun _ => ⟨reads, fun current => ?_⟩⟩
      dsimp only
      split
      · exact inductionHypothesis
      · trivial

theorem redLock_makes {acquireTimeout expireTimeout : Int} (sets : kind (.redisSet key data expireTimeout true))
    (sleeps : kind (.sleepFor lockCheckPeriod)) (reads : kind .now) :
    (redLock key data acquireTimeout expireTimeout).Makes kind fun _ => True := by
  refine ⟨reads, fun begin => ?_⟩
  by_cases positive : 0 < acquireTimeout
  · simp only [positive, if_true]
    exact redLockLoop_makes sets sleeps reads
  · simp only [positive, if_false]
    trivial

theorem redUnlock_makes (unlocks : kind (.redisUnlock key data)) : (redUnlock key data).Makes kind fun _ => True :=
  ⟨unlocks, fun _ => trivial⟩

end Calls

end XBusiness
