import XBusiness.Lib.Prog
import XBusiness.Message.Session

/-! # The calls of the work flow

The modules are programs over the calls they make to the outside (Mongo, Redis, the Kafka
producer, the clock) and to the pool (a new session, a push into the queue, an HTTP
request, the effect of `Final`).  A module runs on the session it was given, so its
programs are `Flow`: a `Prog` with that session as state.
-/

namespace XBusiness

open Interaction

/-! ## Mongo -/

inductive Bson where
  | utf8 (value : String)
  | int32 (value : Int)
  | int64 (value : Int)
  | double (value : Rat)
  | oid (value : String)
  | array (values : List Bson)
  | document (fields : List (String × Bson))
  | other

abbrev Document := List (String × Bson)

namespace Bson

def getUtf8 : Option Bson → Option String
  | some (utf8 value) => some value
  | _ => none

def getInt32 : Option Bson → Option Int
  | some (int32 value) => some value
  | _ => none

def getOid : Option Bson → Option String
  | some (oid value) => some value
  | _ => none

def getArray : Option Bson → Option (List Bson)
  | some (array values) => some values
  | _ => none

/-- `elem[name]` of an array element. -/
def field (bson : Bson) (name : String) : Option Bson :=
  match bson with
  | document fields => fields.lookup name
  | _ => none

end Bson

/-- A condition of a filter on one field: equality, or `$ne`. -/
inductive Condition where
  | eq (value : Bson)
  | ne (value : Bson)

abbrev Filter := List (String × Condition)

/-- The answer to `find_one`: the driver may throw. -/
inductive FindResult where
  | found (view : Document)
  | notFound
  | exception

/-! ## Redis and the Kafka producer -/

/-- What becomes of the future of a Redis command. -/
inductive RedisReply where
  | invalid
  | timeout
  | exception
  | null
  | string (value : String)
  | integer (value : Int)
  | other
  deriving DecidableEq, Repr

inductive ProduceResult where
  | enqueued
  | queueFull
  | failed
  deriving DecidableEq, Repr

/-! ## Requests -/

/-- `RequestInfo`. -/
structure RequestInfo where
  method : String := ""
  path : String := ""
  body : String := ""
  extra : List (String × String) := []
  deriving DecidableEq, Repr

inductive FlowCall where
  | tryAcquire
  | findOne (collection : String) (filter : Filter)
  | updateOne (collection : String) (filter : Filter) (set : Document)
  | redisGet (key : String)
  | redisSet (key data : String) (milliseconds : Int) (nx : Bool)
  | redisUnlock (key data : String)
  | sleepFor (milliseconds : Nat)
  | now
  | time
  | topicHandle (topic : String)
  | produce (topic data : String)
  | poll (milliseconds : Nat)
  | storeDone (data : PmPtr)
  | makeShared (kafkaData : BaseData)
  | pushMsg (session : Session)
  | sendRequest (session : Session) (procType : ProcType) (request : RequestInfo)
  | final (session : Session) (err : ErrCode)
  | destroy (session : Session)

abbrev FlowCall.Answer : FlowCall → Type
  | tryAcquire => Bool
  | findOne _ _ => FindResult
  | updateOne _ _ _ => Bool
  | redisGet _ => RedisReply
  | redisSet _ _ _ _ => RedisReply
  | redisUnlock _ _ => RedisReply
  | now => Int
  | time => Int
  | topicHandle _ => Bool
  | produce _ _ => ProduceResult
  | makeShared _ => Nat
  | _ => Unit

/-- Answers of an outside world where every command succeeds and no document is found. -/
def FlowCall.succeed : ∀ request : FlowCall, request.Answer
  | tryAcquire => true
  | findOne _ _ => .notFound
  | updateOne _ _ _ => true
  | redisGet _ => .null
  | redisSet _ _ _ _ => .string "OK"
  | redisUnlock _ _ => .integer 1
  | now => 0
  | time => 0
  | topicHandle _ => true
  | produce _ _ => .enqueued
  | makeShared _ => 0
  | sleepFor _ | poll _ | storeDone _ | pushMsg _ | sendRequest _ _ _ | final _ _ | destroy _ => ()

abbrev FlowProg := Prog FlowCall FlowCall.Answer Fault

/-- A module function working on its session. -/
abbrev Flow := StateT Session FlowProg

/-- A function of the handler: it makes no call but may change the session or throw. -/
abbrev SessionFn := StateT Session (Except Fault)

namespace Flow

/-- A function that works on other objects than the session. -/
def ofProg {α : Type} (program : FlowProg α) : Flow α := StateT.lift program

def call (request : FlowCall) : Flow request.Answer := ofProg (Prog.perform request)

/-- What nothing catches ends the process. -/
def ofExcept {α : Type} : Except Fault α → Flow α
  | .ok value => pure value
  | .error fault => ofProg (Prog.raise fault)

@[simp] theorem ofExcept_ok {α : Type} (value : α) : ofExcept (.ok value) = pure value := rfl

def ofSessionFn {α : Type} (function : SessionFn α) : Flow α := fun session =>
  match function.run session with
  | .ok result => Prog.ret result
  | .error fault => Prog.raise fault

theorem run_ofSessionFn_ok {α : Type} {function : SessionFn α} {session : Session} {result : α × Session}
    (ran : function.run session = .ok result) :
    (ofSessionFn function).run session = Prog.ret result := by
  simp only [StateT.run] at ran
  simp only [StateT.run, ofSessionFn, ran]

theorem run_ofSessionFn_error {α : Type} {function : SessionFn α} {session : Session} {fault : Fault}
    (ran : function.run session = .error fault) :
    (ofSessionFn function).run session = Prog.raise fault := by
  simp only [StateT.run] at ran
  simp only [StateT.run, ofSessionFn, ran]

/-- A sequence of functions of the handler is the sequence of their flows. -/
theorem ofSessionFn_bind {α β : Type} (function : SessionFn α) (continuation : α → SessionFn β) :
    ofSessionFn (function >>= continuation) =
      ofSessionFn function >>= fun value => ofSessionFn (continuation value) := by
  funext session
  show (ofSessionFn (function >>= continuation)).run session =
    ((ofSessionFn function).run session >>= fun result => (ofSessionFn (continuation result.1)).run result.2)
  cases ran : function.run session with
  | error fault =>
    have failed : (function >>= continuation).run session = .error fault := by
      rw [StateT.run_bind, ran]
      rfl
    rw [run_ofSessionFn_error ran, run_ofSessionFn_error failed]
    rfl
  | ok result =>
    have passed : (function >>= continuation).run session = (continuation result.1).run result.2 := by
      rw [StateT.run_bind, ran]
      rfl
    rw [run_ofSessionFn_ok ran]
    simp only [StateT.run, ofSessionFn] at passed ⊢
    rw [passed]
    rfl

theorem ofSessionFn_lift {α : Type} (value : Except Fault α) : ofSessionFn (liftM value) = ofExcept value := by
  cases value <;> rfl

end Flow

theorem run_ofProg_bind {α β : Type} (program : FlowProg α) (continuation : α → Flow β)
    (session : Session) :
    (Flow.ofProg program >>= continuation).run session =
      program >>= fun value => (continuation value).run session := by
  show (program >>= fun value => .ret (value, session)) >>= _ = _
  rw [bind_assoc]
  rfl

/-! ## `Session::Final` -/

open XBusiness.Flow (call)

/-- `Session::Final`. -/
def final (err : ErrCode) : Flow Unit := do
  let session ← get
  if session.isFinished then
    return
  else
    modify fun session => { session with isFinished := true }
    call (.final session err)

def hasNextProcessor : Flow Bool := do
  return (← get).procChain ≠ []

/-- `AddChain`. -/
def addChain (type : ProcType) : Flow Unit :=
  modify fun session => { session with procChain := type :: session.procChain }

/-- `WORKER(Session)->PushMsg`. -/
def pushMsg : Flow Unit := do
  call (.pushMsg (← get))

/-- The end of every synchronous module: finalise the session when its chain is empty, push it
    on otherwise. -/
def pushOrFinal : Flow Unit := do
  if ← hasNextProcessor then
    pushMsg
  else
    final .success

end XBusiness
