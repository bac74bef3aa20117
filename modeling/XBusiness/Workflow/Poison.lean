import XBusiness.Lib.Handler
import XBusiness.Consumer.ConsumeProcess
import XBusiness.Data.ParseFaults
import XBusiness.Workflow.Modules

/-! # Poison messages

`process` catches what the first reading of a payload throws and nothing after it.  It appends the
node to its partition, and `emplace_back` runs `handle` on it on the same thread, so an exception of
the parsers ends the thread that receives from Kafka, and the process with it.

* `fault?_parseMessage` — what the parsers throw, from the documents of the message alone.
* `process_returns` — the messages that `process` survives.
-/

namespace XBusiness

open Interaction

/-- `CConsumeProcess::process`, down to the `handle` that `emplace_back` runs on the new node. -/
def processMessage (env : Env) (data : PmPtr) : FlowProg Unit :=
  match Consumer.readMessage env.text data.msg with
  | none => return ()
  | some _ => do
    let _ ← handle env data
    return ()

/-- The factory and the `parse` of the object it makes throw what stands in the documents. -/
theorem fault?_parseMessage (env : Env) (data : Option PmPtr) (payload : String) :
    fault? (parseMessage env data payload) = messageFault env payload := by
  unfold parseMessage messageFault
  rw [parseData_eq]
  cases parsed : env.text.parseJson payload with
  | none => rfl
  | some totalJv =>
    simp only [ok_bind, Option.bind_eq_bind, Option.bind_some]
    cases found : dataOf env totalJv with
    | none => rfl
    | some dataJv =>
      simp only [Option.bind_some]
      cases (dataJv.find? "ptype").bind Json.int? with
      | none => rfl
      | some payloadType =>
        simp only [Option.bind_some]
        cases classOf payloadType with
        | none => rfl
        | some dataClass =>
          have has : (BaseData.make env dataClass payloadType totalJv data).totalJv.hasMembers = true :=
            JsonText.hasMembers_of_parseJson parsed
          exact fault?_parse has rfl found

/-- `handle` ends in a value exactly when the message parses or is rejected. -/
theorem handle_faultless (env : Env) (data : PmPtr) :
    (handle env data).Faultless ↔ messageFault env data.msg.payload = none := by
  rw [← fault?_parseMessage env (some data)]
  unfold handle
  cases parseMessage env (some data) data.msg.payload with
  | error fault => simp [raiseFault, Prog.Faultless]
  | ok parsed =>
    cases parsed with
    | none => simp [raiseFault, Prog.Faultless]
    | some kafkaData => simp [raiseFault, Prog.Faultless]

/-- `process` returns for a message exactly when its first reading rejects it or nothing in its
    documents makes a parser throw; and these are the documents that the parsers throw on, also
    where a payload is read a second time without its node. -/
theorem process_returns (env : Env) (data : PmPtr) :
    ((processMessage env data).Faultless ↔
      Consumer.readMessage env.text data.msg = none ∨ messageFault env data.msg.payload = none) ∧
    ∀ node fault, parseMessage env node data.msg.payload = .error fault ↔
      messageFault env data.msg.payload = some fault := by
  constructor
  · unfold processMessage
    cases Consumer.readMessage env.text data.msg with
    | none => simp [Prog.Faultless]
    | some read =>
      simp only [reduceCtorEq, false_or]
      exact (Prog.faultless_map _ _).trans (handle_faultless env data)
  · intro node fault
    rw [← fault?_parseMessage env node]
    exact fault?_eq_some.symm

/-- A trace message whose person has a number for a face. -/
def poisonMessage : String :=
  "\x7b\"data\":\x7b\"app_id\":\"a\",\"did\":\"d\",\"payload\":\"\x7b\\\"capture\\\":\x7b\\\"pesn\\\":\x7b\\\"face\\\":[1]\x7d\x7d\x7d\",\"ptype\":8\x7d,\"msg_id\":\"m\"\x7d"

def poisonPayload : String := "\x7b\"capture\":\x7b\"pesn\":\x7b\"face\":[1]\x7d\x7d\x7d"

def poisonEnv : Env where
  text := tableText
    [(poisonMessage, .object [("data", .object [("app_id", .string "a"), ("did", .string "d"),
        ("payload", .string poisonPayload), ("ptype", .int 8)]), ("msg_id", .string "m")]),
      (poisonPayload, .object [("capture", .object [("pesn", .object [("face", .array [.int 1])])])])]
  conf := { getValue := fun _ _ => none, getIntValue := fun _ _ => none }
  uninit := { timestamp := 0, similar := 0 }

def poisonNode : PmPtr := ⟨0, 0, ⟨"gzc", 0, 0, poisonMessage⟩⟩

/-- The exception leaves `process`. -/
theorem process_throws : processMessage poisonEnv poisonNode = .raise .exception := by
  rfl

end XBusiness
