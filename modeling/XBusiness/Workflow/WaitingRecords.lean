import XBusiness.Lib.Machine
import XBusiness.Workflow.Pool
import XBusiness.Workflow.PictureLock
import XBusiness.Workflow.Rendezvous

/-! # What waits in Redis

The sessions of the pool meet in the values of Redis: the records of the picture wait under the
keys of the pictures, and the locks of `RedLock` under those keys with `lock_` in front.  A session
that `handleFromRedis` makes of a waiting payload has no Kafka message, and the picture wait reads
that message without a check.

* `Bearing.Sound` — a session with the picture wait before it has its message.
* `moduleProcess_guarded` / `requestCallback_guarded` — what the modules hand on and write.
* `waits_with_data` — every waiting payload is a business capture, and no session without a message
  comes to the picture wait, along every run in which no lock is read for a record.
* `lock_read_as_record` — a run of the other case: a picture whose name begins with `lock_`.
-/

namespace XBusiness

open Interaction
open StateProg (Frames)

/-! ## The system -/

/-- A value of Redis, and whether `RedLock` has set it. -/
structure Stored where
  value : String
  isLock : Bool
  deriving DecidableEq, Repr

/-- A text that the JSON reader rejects, such as the text of an error. -/
def isErrorText (env : Env) (text : String) : Bool :=
  match env.text.reader text with
  | .ok none => true
  | _ => false

/-- The values of Redis, the sessions of the pool, and the functions that threads run. -/
structure RecordState where
  store : String → Option Stored := fun _ => none
  queue : List Session := []
  requests : List (Session × ProcType) := []
  running : List (FlowProg Bool) := []

/-- `deliver` calls `handle` for a message, `take` hands a session of the queue to a worker,
    `respond` runs the callback of a request, and `expire` ends the time of a key.  `advance` is the
    next call of a thread; `performed` says what became of a command whose reply is lost. -/
inductive RecordLabel where
  | deliver (data : PmPtr)
  | take (index : Nat)
  | respond (index : Nat) (response : Option HttpResponse)
  | expire (key : String)
  | advance (index : Nat) (answer : ∀ request : FlowCall, request.Answer) (performed : Bool)

namespace RecordState

def put (state : RecordState) (key : String) (stored : Option Stored) : RecordState :=
  { state with store := Function.update state.store key stored }

/-- One call of a thread.  A `GET` answers with the value of the key or with the text of an error. -/
def exec (env : Env) (performed : Bool) (state : RecordState) :
    (request : FlowCall) → request.Answer → Option (request.Answer × RecordState)
  | .redisGet key, reply =>
    match reply with
    | .string text =>
      if (state.store key).any (·.value = text) || isErrorText env text then some (.string text, state)
      else none
    | reply => some (reply, state)
  | .redisSet key data _ nx, reply =>
    let free := !nx || (state.store key).isNone
    if reply.lost then
      some (reply, if performed && free then state.put key (some ⟨data, nx⟩) else state)
    else if free then some (.string "OK", state.put key (some ⟨data, nx⟩))
    else some (.null, state)
  | .redisUnlock key data, reply =>
    let own := (state.store key).any (·.value = data)
    if reply.lost then some (reply, if performed && own then state.put key none else state)
    else if own then some (.integer 1, state.put key none)
    else some (.integer 0, state)
  | .pushMsg session, _ => some ((), { state with queue := state.queue ++ [session] })
  | .sendRequest session procType _, _ =>
    some ((), { state with requests := state.requests ++ [(session, procType)] })
  | _, answer => some (answer, state)

def start (state : RecordState) (program : FlowProg Bool) : RecordState :=
  { state with running := state.running ++ [program] }

def advance (env : Env) (state : RecordState) (index : Nat) (answer : ∀ request : FlowCall, request.Answer)
    (performed : Bool) : Option RecordState :=
  (state.running[index]?).bind fun program =>
    match program with
    | .ret _ => some { state with running := state.running.eraseIdx index }
    | .raise _ => none
    | .call request next =>
      (state.exec env performed request (answer request)).map fun result =>
        { result.2 with running := result.2.running.set index (next result.1) }

def step (env : Env) (state : RecordState) : RecordLabel → Option RecordState
  | .deliver data => some (state.start (handle env data))
  | .take index =>
    (state.queue[index]?).map fun session =>
      { state with queue := state.queue.eraseIdx index }.start ((sessionProcess env).runOn session)
  | .respond index response =>
    (state.requests[index]?).map fun pending =>
      { state with requests := state.requests.eraseIdx index }.start
        ((requestCallback env pending.2 response).runOn pending.1)
  | .expire key => some (state.put key none)
  | .advance index answer performed => state.advance env index answer performed

/-- The sessions that wait for a worker or for a response. -/
def pooled (state : RecordState) : List Session := state.queue ++ state.requests.map Prod.fst

end RecordState

def recordMachine (env : Env) : Machine RecordState RecordLabel where
  start := {}
  step := RecordState.step env

/-! ## What is claimed of a state -/

/-- The factory makes a business object of the payload, and its event is a capture. -/
def IsBusinessCapture (env : Env) (payload : String) : Prop :=
  ∃ kafkaData, parseMessage env none payload = .ok (some kafkaData) ∧
    kafkaData.dataClass = .business ∧ kafkaData.event.msgType = MsgType.businessCapture

/-- The `message_list` of a value. -/
def storedList (env : Env) (value : String) : List Json :=
  match env.text.reader value with
  | .ok (some dataJson) =>
    match dataJson.member "message_list" with
    | .ok (.array entries) => entries
    | _ => []
  | _ => []

/-- Every entry of a record is a business capture, no session without a message has the picture wait
    before it, and no worker can take one to `getResultOfWait`. -/
structure RecordState.WaitsWithData (env : Env) (state : RecordState) : Prop where
  records : ∀ key stored, state.store key = some stored → stored.isLock = false →
    ∀ entry ∈ storedList env stored.value, ∃ payload, entry = .string payload ∧ IsBusinessCapture env payload
  sessions : ∀ session ∈ state.pooled, session.kafkaData.data = none → .picWait ∉ session.procChain
  workers : ∀ session ∈ state.queue, session.procChain.head? = some .picWait →
    session.kafkaData.data.isSome = true

/-- A text that `handleWithKey` takes for a record of waiting payloads. -/
def readsAsBusiness (env : Env) (text : String) : Bool :=
  match env.text.reader text with
  | .ok (some dataJson) =>
    match dataJson.member? "ptype" Json.int? with
    | .ok (some valueType) => valueType = PayloadType.business
    | _ => false
  | _ => false

/-- The step does not read the value of a lock for a record of waiting payloads. -/
def RecordState.sparesLocks (env : Env) (state : RecordState) : RecordLabel → Bool
  | .advance index _ _ =>
    match state.running[index]? with
    | some (.call (.redisGet key) _) =>
      (state.store key).all fun stored => !(stored.isLock && readsAsBusiness env stored.value)
    | _ => true
  | _ => true

/-- The JSON text of a record gives the record back. -/
structure RecordsReadBack (env : Env) : Prop where
  business : ∀ payloads, env.text.reader (env.text.toStyledString (businessRecord PayloadType.business payloads)) =
    .ok (some (businessRecord PayloadType.business payloads))
  trace : ∀ body, env.text.reader (env.text.toStyledString (traceRecord PayloadType.trace body)) =
    .ok (some (traceRecord PayloadType.trace body))

/-! ## Sound sessions and records -/

/-- The text of a record as the picture wait writes it. -/
inductive RecordText (env : Env) : String → Prop where
  | business (payloads : List String) (captures : ∀ payload ∈ payloads, IsBusinessCapture env payload) :
      RecordText env (env.text.toStyledString (businessRecord PayloadType.business payloads))
  | trace (body : String) : RecordText env (env.text.toStyledString (traceRecord PayloadType.trace body))

/-- What the picture wait needs of its session: the message, which is a business capture where its
    type says so. -/
structure HasMessage (env : Env) (data : Option PmPtr) (payloadType : Int) : Prop where
  message : ∃ node, data = some node ∧
    (payloadType = PayloadType.business ∧ IsBusinessCapture env node.msg.payload ∨
      payloadType = PayloadType.trace)

def Bearing.Sound (env : Env) (bearing : Bearing) : Prop :=
  bearing.waits = true → HasMessage env bearing.entry.2 bearing.payloadType

/-- The contract of a thread: it hands on sound sessions and writes records, and it reads what
    others have written under the same contract. -/
def waitContract (env : Env) : Contract Unit FlowCall FlowCall.Answer :=
  .alone
    (fun _ request =>
      match request with
      | .pushMsg session => session.bearing.Sound env
      | .sendRequest session procType _ => procType ≠ .picWait ∧ session.bearing.Sound env
      | .redisSet _ data _ nx => nx = false → RecordText env data
      | _ => True)
    fun _ request answer _ =>
      match request, answer with
      | .redisGet _, .string text => readsAsBusiness env text = false ∨ RecordText env text
      | _, _ => True

abbrev Guarded {α : Type} (env : Env) (post : α → Session → Prop) (program : Flow α) (object : Session) : Prop :=
  StateProg.Safe (waitContract env) (fun _ => True) (fun _ value after => post value after) program ()
    object

/-! ## Rules -/

section Rules

variable {α β : Type} {env : Env} {object : Session}

theorem readsAsBusiness_of_isErrorText {text : String} (error : isErrorText env text = true) :
    readsAsBusiness env text = false := by
  unfold isErrorText at error
  unfold readsAsBusiness
  split at error
  · next read => rw [read]
  · cases error

theorem waitContract_quiet {request : FlowCall} (quiet : request.isQuiet) :
    (waitContract env).allowed () request := by
  cases request <;> trivial

/-- A function whose calls are all allowed. -/
theorem guarded_of_makes {kind : FlowCall → Prop} {post : α × Session → Prop} {program : Flow α}
    (makes : (program.run object).Makes kind post)
    (allowed : ∀ request, kind request → (waitContract env).allowed () request) :
    Guarded env (fun value after => post (value, after)) program object := by
  apply StateProg.Safe.mono
  · apply StateProg.safe_of_makes (fun _ => True) makes
    · exact fun _ _ _ _ => trivial
    · exact fun _ request ofKind _ => ⟨allowed request ofKind, fun _ _ _ => trivial⟩
    · exact fun _ => trivial
    · trivial
  · exact fun _ _ _ kept => kept.2

/-- A sound session is passed on, put back, finalised or sent, but never for the picture wait. -/
theorem ending_guarded (ending : Ending) (sound : object.bearing.Sound env)
    (asks : ∀ procType request, ending = .asks procType request → procType ≠ .picWait) :
    Guarded env (fun _ _ => True) ending.run object := by
  apply guarded_of_makes (ending_makes ending object)
  intro request call
  cases call with
  | completes | fails => trivial
  | pushes | again => exact sound
  | asks procType request => exact ⟨asks procType request rfl, sound⟩

end Rules

/-! ## The modules and the callbacks -/

section Modules

variable {env : Env} {object after : Session} {procType : ProcType} {ending : Ending}

theorem ModuleDoes.guarded (does : ModuleDoes env object procType ending after) (sound : object.bearing.Sound env) :
    Guarded env (fun _ _ => True) ending.run after := by
  apply ending_guarded ending (does.bearing ▸ sound)
  rintro _ request rfl
  cases does with
  | asks _ _ http =>
    rintro rfl
    cases http

/-- `Process` of every module but the picture wait. -/
theorem moduleProcess_guarded_of (env : Env) (later : procType ≠ .picWait) (sound : object.bearing.Sound env) :
    Guarded env (fun _ _ => True) (moduleProcess env procType) object := by
  rw [moduleProcess_eq]
  apply StateProg.Safe.bind
  apply StateProg.Safe.mono
  · apply guarded_of_makes (moduleBody_does env procType object)
    exact fun request calls => waitContract_quiet (ProcType.quiet_of_calls later request calls)
  · exact fun _ ending after does => does.guarded sound

theorem requestCallback_guarded (env : Env) (later : procType ≠ .picWait) (response : Option HttpResponse)
    (sound : object.bearing.Sound env) :
    Guarded env (fun _ _ => True) (requestCallback env procType response) object := by
  unfold Guarded StateProg.Safe
  rcases requestCallback_does env procType response object with ⟨fault, ran⟩ | ⟨ending, after, does, ran⟩
  · rw [ran]
    trivial
  · rw [ran]
    apply ending_guarded ending (does.bearing later ▸ sound)
    rintro _ _ rfl
    cases does

end Modules

/-! ## The sessions that are made -/

section Made

variable {env : Env}

/-- The payload of a message that is parsed as a business capture is one when it is parsed again. -/
theorem isBusinessCapture_of_parsed {data : Option PmPtr} {payload : String} {kafkaData : BaseData}
    (parsed : parseMessage env data payload = .ok (some kafkaData)) (business : kafkaData.dataClass = .business)
    (capture : kafkaData.event.msgType = MsgType.businessCapture) : IsBusinessCapture env payload := by
  refine ⟨kafkaData.fromRedis, ?_, business, capture⟩
  rw [parseMessage_fromRedis env data payload, parsed]
  rfl

/-- Where a chain has the picture wait, and what the session then waits with. -/
theorem picWait_mem {kafkaData : BaseData} (member : .picWait ∈ makeProcessChain kafkaData) :
    kafkaData.dataClass = .business ∧ kafkaData.event.msgType = MsgType.businessCapture ∧
      kafkaData.src ≠ .redis ∨ kafkaData.dataClass = .capture := by
  unfold makeProcessChain at member
  split at member
  · rename_i isClass
    unfold businessChain at member
    split at member
    · rename_i capture
      split at member
      · simp at member
      · rename_i src
        exact .inl ⟨isClass, capture, src⟩
    · simp at member
  · simp at member
  · simp at member
  · simp at member
  · rename_i isClass
    exact .inr isClass

theorem waits_make (ref : Nat) (kafkaData : BaseData) :
    (Session.make env ref kafkaData).bearing.waits = true ↔ .picWait ∈ makeProcessChain kafkaData :=
  List.contains_iff_mem

/-- A session that `handle` makes has its message. -/
theorem handle_sound {data : PmPtr} {kafkaData : BaseData} (ref : Nat)
    (parsed : parseMessage env (some data) data.msg.payload = .ok (some kafkaData)) :
    (Session.make env ref kafkaData).bearing.Sound env := by
  intro waits
  have origin := parseMessage_madeFor env (some data) data.msg.payload _ parsed kafkaData rfl
  have payloadType : kafkaData.payloadType = kafkaData.dataClass.payloadType :=
    congrArg (fun origin => origin.2.1) origin
  have node : kafkaData.data = some data := congrArg (fun origin => origin.2.2.2) origin
  refine ⟨data, node, ?_⟩
  cases picWait_mem ((waits_make ref kafkaData).mp waits) with
  | inl business =>
    refine .inl ⟨?_, isBusinessCapture_of_parsed parsed business.1 business.2.1⟩
    show kafkaData.payloadType = _
    rw [payloadType, business.1]
    rfl
  | inr capture =>
    right
    show kafkaData.payloadType = _
    rw [payloadType, capture]
    rfl

/-- A session that `handleFromRedis` makes of a business capture does not come to the picture wait. -/
theorem handleFromRedis_sound {payload : String} {kafkaData : BaseData} (ref : Nat)
    (capture : IsBusinessCapture env payload)
    (parsed : parseMessage env none payload = .ok (some kafkaData)) :
    (Session.make env ref kafkaData).bearing.Sound env := by
  obtain ⟨read, parsedAgain, business, _⟩ := capture
  rw [parsed] at parsedAgain
  cases parsedAgain
  intro waits
  have origin := parseMessage_madeFor env none payload _ parsed kafkaData rfl
  have src : kafkaData.src = .redis := congrArg (fun origin => origin.2.2.1) origin
  cases picWait_mem ((waits_make ref kafkaData).mp waits) with
  | inl fromKafka => exact absurd src fromKafka.2.2
  | inr capture =>
    rw [business] at capture
    cases capture

abbrev GuardedProg {α : Type} (env : Env) (program : FlowProg α) : Prop :=
  program.Safe (waitContract env) (fun _ => True) (fun _ _ => True) ()

theorem raiseFault_guarded {α β : Type} {value : Except Fault α} {continuation : α → FlowProg β}
    (rest : ∀ result, value = .ok result → GuardedProg env (continuation result)) :
    GuardedProg env (raiseFault value >>= continuation) := by
  cases value with
  | error fault => trivial
  | ok value => exact rest value rfl

theorem handle_guarded (data : PmPtr) : GuardedProg env (handle env data) := by
  apply raiseFault_guarded
  intro parsed ran
  cases parsed with
  | none => exact fun _ _ => ⟨trivial, fun _ _ _ _ _ => trivial⟩
  | some kafkaData =>
    refine fun _ _ => ⟨trivial, fun ref _ _ => ?_⟩
    exact fun _ _ => ⟨handle_sound ref ran, fun _ _ _ _ _ => trivial⟩

theorem handleFromRedis_guarded {payload picResult : String} (capture : IsBusinessCapture env payload) :
    GuardedProg env (handleFromRedis env payload picResult) := by
  apply raiseFault_guarded
  intro parsed ran
  cases parsed with
  | none => exact fun _ _ => trivial
  | some kafkaData =>
    refine fun _ _ => ⟨trivial, fun ref _ _ => ?_⟩
    apply raiseFault_guarded
    rintro ⟨accepted, session⟩ read
    have kept : session.bearing = (Session.make env ref kafkaData).bearing :=
      congrArg Itinerary.bearing (parseTraceAnswer_preserves env _ picResult _ _ _ read)
    cases accepted with
    | true =>
      refine fun _ _ => ⟨?_, fun _ _ _ _ _ => trivial⟩
      show session.bearing.Sound env
      rw [kept]
      exact handleFromRedis_sound ref capture ran
    | false => exact fun _ _ => ⟨trivial, fun _ _ _ _ _ => trivial⟩

theorem releaseWaiting_guarded (traceResult : String) {payloads : List String}
    (captures : ∀ payload ∈ payloads, IsBusinessCapture env payload) :
    GuardedProg env (releaseWaiting env traceResult (payloads.map .string)) := by
  induction payloads with
  | nil => exact fun _ _ => trivial
  | cons payload rest inductionHypothesis =>
    apply Prog.Safe.bind
    apply (handleFromRedis_guarded (captures payload List.mem_cons_self)).mono
    intro _ _ _
    exact inductionHypothesis fun other member => captures other (List.mem_cons_of_mem _ member)

end Made

/-! ## The picture wait -/

section PictureWait

variable {env : Env} {object : Session}

/-- A value that is read as a record of waiting payloads is one that was written. -/
theorem recordText_of_reads {value : String} {dataJson : Json}
    (read : readsAsBusiness env value = false ∨ RecordText env value)
    (record : ReadsAs env value dataJson PayloadType.business) : RecordText env value := by
  cases read with
  | inl other =>
    simp [readsAsBusiness, record.1, record.2] at other
  | inr text => exact text

/-- The payloads of a record that was written, and the record itself. -/
theorem businessRecord_of_text (back : RecordsReadBack env) {value : String} {dataJson : Json}
    (text : RecordText env value) (record : ReadsAs env value dataJson PayloadType.business) :
    ∃ payloads : List String, dataJson = businessRecord PayloadType.business payloads ∧
      ∀ payload ∈ payloads, IsBusinessCapture env payload := by
  obtain ⟨read, type⟩ := record
  cases text with
  | business payloads captures =>
    rw [back.business payloads] at read
    cases read
    exact ⟨payloads, rfl, captures⟩
  | trace body =>
    rw [back.trace body] at read
    cases read
    rw [traceRecord_ptype] at type
    cases type

/-- Business captures come together in the records, and only they are released. -/
theorem waitPlan_guarded (back : RecordsReadBack env) {key payload value : String} {ptype : Int} {plan : WaitPlan}
    {result : PictureWaitResult} {after : Session}
    (message : ptype = PayloadType.business ∧ IsBusinessCapture env payload ∨ ptype = PayloadType.trace)
    (read : value ≠ "" → readsAsBusiness env value = false ∨ RecordText env value)
    (does : ValueDoes env object payload ptype value plan result after) :
    GuardedProg env (plan.run env key object.traceSpaceResult) := by
  have writes : ∀ record, RecordText env (env.text.toStyledString record) →
      GuardedProg env (putRecord env key record) :=
    fun _ text _ _ => ⟨fun _ => text, fun _ _ _ _ _ => trivial⟩
  have capture : ptype = PayloadType.business → IsBusinessCapture env payload := by
    intro business
    cases message with
    | inl capture => exact capture.2
    | inr trace =>
      rw [business] at trace
      cases trace
  cases does with
  | first business =>
    subst business
    exact writes _ (.business [payload] (by simpa using capture rfl))
  | answers other =>
    cases message with
    | inl business => exact absurd business.1 other
    | inr trace =>
      subst trace
      exact writes _ (.trace object.traceSpaceResult)
  | ignores | reads => exact fun _ _ => trivial
  | joins _ dataJson list written business record appended =>
    obtain ⟨payloads, rfl, captures⟩ := businessRecord_of_text back (recordText_of_reads (read written) record) record
    -- the new payload comes behind the ones that wait
    rw [businessRecord_append] at appended
    cases appended
    rw [WaitPlan.run, businessRecord_set]
    apply writes
    apply RecordText.business
    intro other member
    cases List.mem_append.mp member with
    | inl before => exact captures other before
    | inr last => exact List.mem_singleton.mp last ▸ capture business
  | releases _ dataJson waiting written trace record listed =>
    obtain ⟨payloads, rfl, captures⟩ := businessRecord_of_text back (recordText_of_reads (read written) record) record
    rw [businessRecord_list] at listed
    cases listed
    apply Prog.Safe.bind
    apply (releaseWaiting_guarded object.traceSpaceResult captures).mono
    intro _ _ _
    exact writes _ (.trace object.traceSpaceResult)

/-- The session after the picture wait has the bearing that it came with. -/
theorem getResultOfWait_guarded (back : RecordsReadBack env)
    (message : HasMessage env object.kafkaData.data object.kafkaData.payloadType) :
    Guarded env (fun _ after => after.bearing = object.bearing) (getResultOfWait env) object := by
  obtain ⟨node, data, kind⟩ := message.message
  apply Prog.safe_iff_makesWhere.mpr
  apply getResultOfWait_makesWhere
  · -- a lock is no record
    have lock : true = false → RecordText env object.uid := fun notLock => by cases notLock
    exact ⟨lock, trivial, trivial, trivial⟩
  · trivial
  · intro other same reply read plan result after does
    cases data.symm.trans same
    refine ⟨Prog.safe_iff_makesWhere.mp (waitPlan_guarded back kind (fun written => ?_) does), ?_⟩
    · cases reply with
      | string value => exact read
      | _ => exact absurd rfl written
    · exact does.observes fun body => (parseTraceAnswer_preserves env _ body).map Itinerary.bearing
  · rfl

theorem pictureWaitProcess_guarded (back : RecordsReadBack env) (sound : object.bearing.Sound env)
    (message : HasMessage env object.kafkaData.data object.kafkaData.payloadType) :
    Guarded env (fun _ _ => True) (pictureWaitProcess env) object := by
  apply StateProg.Safe.bind
  apply (getResultOfWait_guarded back message).mono
  intro _ result after same
  have sound : after.bearing.Sound env := same ▸ sound
  cases result with
  | wait => exact ending_guarded (.fails .success) sound fun _ _ impossible => by cases impossible
  | pass => exact ending_guarded .passes sound fun _ _ impossible => by cases impossible

end PictureWait

theorem moduleProcess_guarded {env : Env} {object : Session} (back : RecordsReadBack env)
    (procType : ProcType) (sound : object.bearing.Sound env)
    (message : procType = .picWait → HasMessage env object.kafkaData.data object.kafkaData.payloadType) :
    Guarded env (fun _ _ => True) (moduleProcess env procType) object := by
  by_cases wait : procType = .picWait
  · subst wait
    exact pictureWaitProcess_guarded back sound (message rfl)
  · exact moduleProcess_guarded_of env wait sound

theorem sessionProcess_guarded {env : Env} {object : Session} (back : RecordsReadBack env)
    (sound : object.bearing.Sound env) : Guarded env (fun _ _ => True) (sessionProcess env) object := by
  apply StateProg.Safe.get
  cases chain : object.procChain with
  | nil => exact ending_guarded (.fails .procTerminate) sound fun _ _ impossible => by cases impossible
  | cons procType rest =>
    apply StateProg.Safe.modify
    apply moduleProcess_guarded back procType
    · intro waits
      apply sound
      show object.procChain.contains .picWait = true
      rw [chain, List.contains_cons]
      exact Bool.or_eq_true_iff.mpr (.inr waits)
    · rintro rfl
      apply sound
      show object.procChain.contains .picWait = true
      rw [chain]
      rfl

/-! ## Runs -/

/-- What every step keeps. -/
structure RecordState.Kept (env : Env) (state : RecordState) : Prop where
  records : ∀ key stored, state.store key = some stored → stored.isLock = false → RecordText env stored.value
  queue : ∀ session ∈ state.queue, session.bearing.Sound env
  requests : ∀ pending ∈ state.requests, pending.2 ≠ .picWait ∧ pending.1.bearing.Sound env
  running : ∀ program ∈ state.running, GuardedProg env program

section Kept

variable {env : Env} {state next : RecordState}

theorem kept_put (kept : state.Kept env) {key : String} {stored : Option Stored}
    (text : ∀ value, stored = some value → value.isLock = false → RecordText env value.value) :
    (state.put key stored).Kept env where
  records other value found isRecord := by
    by_cases same : other = key
    · simp only [RecordState.put, same, Function.update_self] at found
      exact text value found isRecord
    · simp only [RecordState.put, Function.update_of_ne same] at found
      exact kept.records other value found isRecord
  queue := kept.queue
  requests := kept.requests
  running := kept.running

theorem kept_start (kept : state.Kept env) {program : FlowProg Bool} (guarded : GuardedProg env program) :
    (state.start program).Kept env where
  records := kept.records
  queue := kept.queue
  requests := kept.requests
  running other member := by
    cases List.mem_append.mp member with
    | inl before => exact kept.running other before
    | inr last => exact List.mem_singleton.mp last ▸ guarded

/-- A function on a sound session, as what a thread runs. -/
theorem runOn_guarded {function : Flow Unit} {session : Session}
    (guarded : Guarded env (fun _ _ => True) function session) : GuardedProg env (function.runOn session) := by
  apply Prog.Safe.bind
  apply Prog.Safe.mono guarded
  exact fun _ _ _ _ _ => trivial

/-- What a key holds is a record, or a lock that is not taken for one. -/
theorem RecordState.Kept.reads (kept : state.Kept env) {key text : String}
    (spared : (state.store key).all (fun stored => !(stored.isLock && readsAsBusiness env stored.value)) = true)
    (answered : ((state.store key).any (·.value = text) || isErrorText env text) = true) :
    readsAsBusiness env text = false ∨ RecordText env text := by
  cases Bool.or_eq_true_iff.mp answered with
  | inr error => exact .inl (readsAsBusiness_of_isErrorText error)
  | inl value =>
    obtain ⟨stored, found, same⟩ := Option.any_eq_true _ _ |>.mp value
    rw [← of_decide_eq_true same]
    rw [found] at spared
    cases isLock : stored.isLock with
    | false => exact .inr (kept.records key stored found isLock)
    | true => exact .inl (by simpa [isLock] using spared)

/-- Whether its answer is lost or not, a `SET` stores its value or does nothing. -/
theorem exec_set_cases {key data : String} {milliseconds : Int} {nx performed : Bool}
    {reply answer : RedisReply}
    (ran : state.exec env performed (.redisSet key data milliseconds nx) reply = some (answer, next)) :
    next = state.put key (some ⟨data, nx⟩) ∨ next = state := by
  simp only [RecordState.exec] at ran
  repeat' split at ran
  all_goals
    cases ran
    first
      | exact .inl rfl
      | exact .inr rfl

theorem exec_unlock_cases {key data : String} {performed : Bool} {reply answer : RedisReply}
    (ran : state.exec env performed (.redisUnlock key data) reply = some (answer, next)) :
    next = state.put key none ∨ next = state := by
  simp only [RecordState.exec] at ran
  repeat' split at ran
  all_goals
    cases ran
    first
      | exact .inl rfl
      | exact .inr rfl

/-- A call of a thread that keeps its contract. -/
theorem kept_exec (kept : state.Kept env) {performed : Bool} {request : FlowCall} {reply answer : request.Answer}
    (allowed : (waitContract env).allowed () request)
    (spares : ∀ key, request = .redisGet key →
      (state.store key).all (fun stored => !(stored.isLock && readsAsBusiness env stored.value)) = true)
    (ran : state.exec env performed request reply = some (answer, next)) :
    next.Kept env ∧ next.running = state.running ∧ (waitContract env).effect () request answer () := by
  cases request with
  | redisGet key =>
    cases reply with
    | string text =>
      simp only [RecordState.exec] at ran
      split at ran
      · -- what is stored under the key is a record, or no lock that reads as one
        rename_i answered
        cases ran
        exact ⟨kept, rfl, kept.reads (spares key rfl) answered⟩
      · cases ran
    | _ =>
      cases ran
      exact ⟨kept, rfl, trivial⟩
  | redisSet key data milliseconds nx =>
    have written : (state.put key (some ⟨data, nx⟩)).Kept env := by
      apply kept_put kept
      rintro _ ⟨⟩ isRecord
      exact allowed isRecord
    cases exec_set_cases ran with
    | inl put => exact ⟨put ▸ written, put ▸ rfl, trivial⟩
    | inr stays => exact ⟨stays ▸ kept, stays ▸ rfl, trivial⟩
  | redisUnlock key data =>
    have erased : (state.put key none).Kept env := kept_put kept (by simp)
    cases exec_unlock_cases ran with
    | inl put => exact ⟨put ▸ erased, put ▸ rfl, trivial⟩
    | inr stays => exact ⟨stays ▸ kept, stays ▸ rfl, trivial⟩
  | pushMsg session =>
    cases ran
    refine ⟨⟨kept.records, ?_, kept.requests, kept.running⟩, rfl, trivial⟩
    intro other member
    cases List.mem_append.mp member with
    | inl before => exact kept.queue other before
    | inr last => exact List.mem_singleton.mp last ▸ allowed
  | sendRequest session procType request =>
    cases ran
    refine ⟨⟨kept.records, kept.queue, ?_, kept.running⟩, rfl, trivial⟩
    intro other member
    cases List.mem_append.mp member with
    | inl before => exact kept.requests other before
    | inr last => exact List.mem_singleton.mp last ▸ allowed
  | _ =>
    cases ran
    exact ⟨kept, rfl, trivial⟩

theorem kept_step (back : RecordsReadBack env) (kept : state.Kept env) {label : RecordLabel}
    (spares : state.sparesLocks env label = true) (stepped : state.step env label = some next) :
    next.Kept env := by
  cases label with
  | deliver data =>
    cases stepped
    exact kept_start kept (handle_guarded data)
  | expire key =>
    cases stepped
    exact kept_put kept (by simp)
  | take index =>
    obtain ⟨session, found, rfl⟩ := Option.map_eq_some_iff.mp stepped
    have sound := kept.queue session (List.mem_of_getElem? found)
    apply kept_start _ (runOn_guarded (sessionProcess_guarded back sound))
    exact ⟨kept.records, fun other member => kept.queue other (List.mem_of_mem_eraseIdx member), kept.requests,
      kept.running⟩
  | respond index response =>
    obtain ⟨pending, found, rfl⟩ := Option.map_eq_some_iff.mp stepped
    obtain ⟨later, sound⟩ := kept.requests pending (List.mem_of_getElem? found)
    apply kept_start _ (runOn_guarded (requestCallback_guarded env later response sound))
    exact ⟨kept.records, kept.queue, fun other member => kept.requests other (List.mem_of_mem_eraseIdx member),
      kept.running⟩
  | advance index answer performed =>
    simp only [RecordState.step, RecordState.advance] at stepped
    obtain ⟨program, found, stepped⟩ := Option.bind_eq_some_iff.mp stepped
    have guarded := kept.running program (List.mem_of_getElem? found)
    cases program with
    | ret value =>
      cases stepped
      exact ⟨kept.records, kept.queue, kept.requests,
        fun other member => kept.running other (List.mem_of_mem_eraseIdx member)⟩
    | raise fault => cases stepped
    | call request more =>
      obtain ⟨⟨reply, after⟩, executed, rfl⟩ := Option.map_eq_some_iff.mp stepped
      have called := guarded.called
      -- the condition: what is read is not a lock whose text reads as a record
      have noLock : ∀ key, request = .redisGet key →
          (state.store key).all (fun stored => !(stored.isLock && readsAsBusiness env stored.value)) = true := by
        rintro key rfl
        simpa only [RecordState.sparesLocks, found] using spares
      obtain ⟨keptAfter, same, effect⟩ := kept_exec kept called.1 noLock executed
      refine ⟨keptAfter.records, keptAfter.queue, keptAfter.requests, ?_⟩
      intro other member
      cases List.mem_or_eq_of_mem_set member with
      | inl before => exact keptAfter.running other before
      | inr replaced => exact replaced ▸ called.2 reply () effect

end Kept

/-- What the `message_list` of a record holds. -/
theorem entries_of_recordText {env : Env} (back : RecordsReadBack env) {value : String}
    (text : RecordText env value) {entry : Json} (member : entry ∈ storedList env value) :
    ∃ payload, entry = .string payload ∧ IsBusinessCapture env payload := by
  cases text with
  | business payloads captures =>
    have list : storedList env (env.text.toStyledString (businessRecord PayloadType.business payloads)) =
        payloads.map .string := by
      rw [storedList, back.business payloads]
      dsimp only
      rw [businessRecord_eq]
      rfl
    rw [list] at member
    obtain ⟨payload, isPayload, rfl⟩ := List.mem_map.mp member
    exact ⟨payload, rfl, captures payload isPayload⟩
  | trace body =>
    have list : storedList env (env.text.toStyledString (traceRecord PayloadType.trace body)) = [] := by
      rw [storedList, back.trace body]
      dsimp only
      rw [traceRecord_eq]
      rfl
    rw [list] at member
    cases member

theorem RecordState.Kept.waitsWithData {env : Env} {state : RecordState} (back : RecordsReadBack env)
    (kept : state.Kept env) : state.WaitsWithData env := by
  have sound : ∀ session ∈ state.pooled, session.bearing.Sound env := by
    intro session member
    cases List.mem_append.mp member with
    | inl queued => exact kept.queue session queued
    | inr requested =>
      obtain ⟨pending, waiting, rfl⟩ := List.mem_map.mp requested
      exact (kept.requests pending waiting).2
  constructor
  · intro key stored found isRecord entry member
    exact entries_of_recordText back (kept.records key stored found isRecord) member
  · intro session member noData waits
    have message := sound session member (List.contains_iff_mem.mpr waits)
    obtain ⟨node, data, _⟩ := message.message
    cases noData.symm.trans data
  · intro session member isHead
    have waits : .picWait ∈ session.procChain := List.mem_of_head? isHead
    have message := kept.queue session member (List.contains_iff_mem.mpr waits)
    obtain ⟨node, data, _⟩ := message.message
    have isNode : session.kafkaData.data = some node := data
    rw [isNode]
    rfl

/-- Along every run in which no lock is read for a record, whatever Redis and the others answer. -/
theorem waits_with_data (env : Env) (back : RecordsReadBack env) (labels : List RecordLabel)
    (state : RecordState) (ran : (recordMachine env).run (recordMachine env).start labels = some state)
    (spares : (recordMachine env).Meets (fun state label => state.sparesLocks env label = true)
      (recordMachine env).start labels) : state.WaitsWithData env := by
  have start : (recordMachine env).start.Kept env := by
    constructor
    case records =>
      intro key stored found
      cases found
    case queue =>
      intro session member
      cases member
    case requests =>
      intro pending member
      cases member
    case running =>
      intro program member
      cases member
  apply RecordState.Kept.waitsWithData back
  apply Machine.run_invariant_of_meets _ start spares ran
  exact fun _ _ _ kept spares stepped => kept_step back kept spares stepped

/-! ## A session whose message id is the text of a record -/

/-- A text of payloads: a comma before every character, and a full stop behind every payload. -/
def payloadsText : List String → List Char
  | [] => []
  | payload :: rest => payload.toList.flatMap (fun char => [',', char]) ++ '.' :: payloadsText rest

/-- Reads such a text behind the beginning of a payload. -/
def readPayloads : List Char → List Char → List String
  | read, ',' :: char :: rest => readPayloads (read ++ [char]) rest
  | read, '.' :: rest => String.ofList read :: readPayloads [] rest
  | _, _ => []

theorem readPayloads_payload (payload read rest : List Char) :
    readPayloads read (payload.flatMap (fun char => [',', char]) ++ rest) =
      readPayloads (read ++ payload) rest := by
  induction payload generalizing read with
  | nil => simp
  | cons char others inductionHypothesis =>
    have next := inductionHypothesis (read ++ [char])
    simpa [readPayloads] using next

theorem readPayloads_payloadsText (payloads : List String) : readPayloads [] (payloadsText payloads) = payloads := by
  induction payloads with
  | nil => rfl
  | cons payload rest inductionHypothesis =>
    rw [payloadsText, readPayloads_payload, List.nil_append, readPayloads, inductionHypothesis,
      String.ofList_toList]

/-- A trace message with the picture `lock_k`. -/
def lockNameCapture : String :=
  "\x7b\"capture\":\x7b\"pesn\":\x7b\"face\":[\x7b\"uri\":\"h/b/lock_k\"\x7d]\x7d\x7d\x7d"

def lockNameMessage : String :=
  "\x7b\"data\":\x7b\"app_id\":\"a\",\"did\":\"d\",\"payload\":\"\x7b\\\"capture\\\":\x7b\\\"pesn\\\":\x7b\\\"face\\\":[\x7b\\\"uri\\\":\\\"h/b/lock_k\\\"\x7d]\x7d\x7d\x7d\",\"ptype\":8\x7d,\"msg_id\":\"m\"\x7d"

/-- A capture with the picture `k`.  Its message id is the text of a record with the trace message. -/
def tokenText : String :=
  "\x7b\"message_list\":[\"\x7b\\\"data\\\":\x7b\\\"app_id\\\":\\\"a\\\",\\\"did\\\":\\\"d\\\",\\\"payload\\\":\\\"\x7b\\\\\\\"capture\\\\\\\":\x7b\\\\\\\"pesn\\\\\\\":\x7b\\\\\\\"face\\\\\\\":[\x7b\\\\\\\"uri\\\\\\\":\\\\\\\"h/b/lock_k\\\\\\\"\x7d]\x7d\x7d\x7d\\\",\\\"ptype\\\":8\x7d,\\\"msg_id\\\":\\\"m\\\"\x7d\"],\"ptype\":32\x7d"

def tokenMessage : String :=
  "\x7b\"data\":\x7b\"app_id\":\"a\",\"did\":\"d\",\"payload\":\"\x7b\\\"event\\\":\x7b\\\"capture_uris\\\":[\\\"h/b/k\\\"],\\\"msg_type\\\":2\x7d\x7d\",\"ptype\":32\x7d,\"msg_id\":\"\x7b\\\"message_list\\\":[\\\"\x7b\\\\\\\"data\\\\\\\":\x7b\\\\\\\"app_id\\\\\\\":\\\\\\\"a\\\\\\\",\\\\\\\"did\\\\\\\":\\\\\\\"d\\\\\\\",\\\\\\\"payload\\\\\\\":\\\\\\\"\x7b\\\\\\\\\\\\\\\"capture\\\\\\\\\\\\\\\":\x7b\\\\\\\\\\\\\\\"pesn\\\\\\\\\\\\\\\":\x7b\\\\\\\\\\\\\\\"face\\\\\\\\\\\\\\\":[\x7b\\\\\\\\\\\\\\\"uri\\\\\\\\\\\\\\\":\\\\\\\\\\\\\\\"h/b/lock_k\\\\\\\\\\\\\\\"\x7d]\x7d\x7d\x7d\\\\\\\",\\\\\\\"ptype\\\\\\\":8\x7d,\\\\\\\"msg_id\\\\\\\":\\\\\\\"m\\\\\\\"\x7d\\\"],\\\"ptype\\\":32\x7d\"\x7d"

/-- The record of the capture. -/
def tokenRecord : String :=
  "\x7b\n   \"message_list\" : [\n      \"\x7b\\\"data\\\":\x7b\\\"app_id\\\":\\\"a\\\",\\\"did\\\":\\\"d\\\",\\\"payload\\\":\\\"\x7b\\\\\\\"event\\\\\\\":\x7b\\\\\\\"capture_uris\\\\\\\":[\\\\\\\"h/b/k\\\\\\\"],\\\\\\\"msg_type\\\\\\\":2\x7d\x7d\\\",\\\"ptype\\\":32\x7d,\\\"msg_id\\\":\\\"\x7b\\\\\\\"message_list\\\\\\\":[\\\\\\\"\x7b\\\\\\\\\\\\\\\"data\\\\\\\\\\\\\\\":\x7b\\\\\\\\\\\\\\\"app_id\\\\\\\\\\\\\\\":\\\\\\\\\\\\\\\"a\\\\\\\\\\\\\\\",\\\\\\\\\\\\\\\"did\\\\\\\\\\\\\\\":\\\\\\\\\\\\\\\"d\\\\\\\\\\\\\\\",\\\\\\\\\\\\\\\"payload\\\\\\\\\\\\\\\":\\\\\\\\\\\\\\\"\x7b\\\\\\\\\\\\\\\\\\\\\\\\\\\\\\\"capture\\\\\\\\\\\\\\\\\\\\\\\\\\\\\\\":\x7b\\\\\\\\\\\\\\\\\\\\\\\\\\\\\\\"pesn\\\\\\\\\\\\\\\\\\\\\\\\\\\\\\\":\x7b\\\\\\\\\\\\\\\\\\\\\\\\\\\\\\\"face\\\\\\\\\\\\\\\\\\\\\\\\\\\\\\\":[\x7b\\\\\\\\\\\\\\\\\\\\\\\\\\\\\\\"uri\\\\\\\\\\\\\\\\\\\\\\\\\\\\\\\":\\\\\\\\\\\\\\\\\\\\\\\\\\\\\\\"h/b/lock_k\\\\\\\\\\\\\\\\\\\\\\\\\\\\\\\"\x7d]\x7d\x7d\x7d\\\\\\\\\\\\\\\",\\\\\\\\\\\\\\\"ptype\\\\\\\\\\\\\\\":8\x7d,\\\\\\\\\\\\\\\"msg_id\\\\\\\\\\\\\\\":\\\\\\\\\\\\\\\"m\\\\\\\\\\\\\\\"\x7d\\\\\\\"],\\\\\\\"ptype\\\\\\\":32\x7d\\\"\x7d\"\n   ],\n   \"ptype\" : 32\n\x7d\n"

def tokenTable : List (String × Json) :=
  [(tokenRecord, businessRecord PayloadType.business [tokenMessage]),
    (tokenText, businessRecord PayloadType.business [lockNameMessage]),
    (tokenMessage, (messageJson captureEvent 32).set "msg_id" (.string tokenText)),
    (captureEvent, .object [("event", .object [("capture_uris", .array [.string "h/b/k"]), ("msg_type", .int 2)])]),
    (lockNameMessage, messageJson lockNameCapture 8),
    (lockNameCapture, .object [("capture", .object [("pesn",
      .object [("face", .array [.object [("uri", .string "h/b/lock_k")]])])])]),
    (personAnswer, .object [("error_code", .int 0),
      ("result", .object [("person_result", .object [("id", .string "p")]), ("track_result", .object [])])])]

/-- The text of a record: the one above, and for the other ones their contents behind a letter. -/
def writeRecord : Json → String
  | .object [("message_list", .array entries), _] =>
    let payloads := entries.filterMap Json.string?
    if payloads = [tokenMessage] then tokenRecord else String.ofList ('B' :: payloadsText payloads)
  | .object [_, ("trace_result", .string body)] => String.ofList ('T' :: body.toList)
  | _ => ""

/-- Reads what `writeRecord` writes behind a letter. -/
def readLetter : List Char → Option Json
  | 'B' :: payloads => some (businessRecord PayloadType.business (readPayloads [] payloads))
  | 'T' :: body => some (traceRecord PayloadType.trace (String.ofList body))
  | _ => none

def readRecord (text : String) : Option Json := (tokenTable.lookup text).or (readLetter text.toList)

def tokenEnv : Env where
  text := {
    reader := fun text => .ok (readRecord text)
    charReader := (tableText tokenTable).charReader
    toStyledString := writeRecord
    realToString := fun _ => "" }
  conf := { getValue := fun _ _ => some "/", getIntValue := fun _ _ => none }
  uninit := { timestamp := 0, similar := 0 }

set_option maxRecDepth 4000 in
/-- The texts of the table are objects. -/
theorem tokenTable_lookup {char : Char} (letter : char ≠ '\x7b') (rest : List Char) :
    tokenTable.lookup (String.ofList (char :: rest)) = none := by
  rw [List.lookup_eq_none_iff]
  intro entry member
  have begins : ∀ entry ∈ tokenTable, ∃ rest, entry.1 = String.ofList ('\x7b' :: rest) := by
    simp only [tokenTable, List.forall_mem_cons, List.not_mem_nil, false_implies, implies_true, and_true]
    exact ⟨⟨_, rfl⟩, ⟨_, rfl⟩, ⟨_, rfl⟩, ⟨_, rfl⟩, ⟨_, rfl⟩, ⟨_, rfl⟩, ⟨_, rfl⟩⟩
  rw [bne_iff_ne]
  intro same
  obtain ⟨others, first⟩ := begins entry member
  have lists := String.ofList_injective (same.trans first)
  exact letter (List.cons.inj lists).1

theorem tokenEnv_reader (text : String) : tokenEnv.text.reader text = .ok (readRecord text) := rfl

theorem readRecord_letter {char : Char} (letter : char ≠ '\x7b') (rest : List Char) :
    readRecord (String.ofList (char :: rest)) = readLetter (char :: rest) := by
  rw [readRecord, tokenTable_lookup letter, Option.none_or, String.toList_ofList]

theorem tokenEnv_reads : RecordsReadBack tokenEnv where
  business := by
    intro payloads
    have written : tokenEnv.text.toStyledString (businessRecord PayloadType.business payloads) =
        if payloads = [tokenMessage] then tokenRecord else String.ofList ('B' :: payloadsText payloads) := by
      rw [businessRecord_eq]
      have strings : (payloads.map Json.string).filterMap Json.string? = payloads := by
        rw [List.filterMap_map]
        exact List.filterMap_some
      simp only [tokenEnv, writeRecord, strings]
    rw [written]
    by_cases same : payloads = [tokenMessage]
    · rw [same, if_pos rfl, tokenEnv_reader, readRecord, tokenTable, List.lookup_cons_self, Option.some_or]
    · rw [if_neg same, tokenEnv_reader, readRecord_letter (by decide), readLetter, readPayloads_payloadsText]
  trace := by
    intro body
    have written : tokenEnv.text.toStyledString (traceRecord PayloadType.trace body) =
        String.ofList ('T' :: body.toList) := by
      rw [traceRecord_eq]
      rfl
    rw [written, tokenEnv_reader, readRecord_letter (by decide), readLetter, String.ofList_toList]

def tokenNode : PmPtr := ⟨0, 0, ⟨"gzc", 0, 0, tokenMessage⟩⟩

def lockNameNode : PmPtr := ⟨0, 1, ⟨"gzc", 0, 1, lockNameMessage⟩⟩

/-- A thread makes a number of calls, and a `GET` among them is answered with this reply. -/
def readCalls (index calls : Nat) (reply : RedisReply) : List RecordLabel :=
  List.replicate calls (.advance index
    (fun request =>
      match request with
      | .redisGet _ => reply
      | request => FlowCall.succeed request) true)

/-- The first capture comes to the picture wait and leaves its record. -/
def tokenVisit : List RecordLabel :=
  .deliver tokenNode :: readCalls 0 2 .null ++ .take 0 :: readCalls 1 4 .null

set_option maxRecDepth 16000 in
theorem waits_with_data_tokenVisit :
    ∃ state, (recordMachine tokenEnv).run (recordMachine tokenEnv).start tokenVisit = some state ∧
      state.store "k" = some ⟨tokenRecord, false⟩ ∧ state.store "lock_k" = some ⟨tokenText, true⟩ ∧
      state.WaitsWithData tokenEnv :=
  ⟨_, rfl, rfl, rfl, waits_with_data tokenEnv tokenEnv_reads tokenVisit _ rfl (by decide)⟩

/-- A session runs through its plugin and its two requests, with its functions from the index on. -/
def throughTrace (index : Nat) : List RecordLabel :=
  .take 0 :: readCalls index 3 .null ++
    .take 0 :: readCalls (index + 1) 1 .null ++ .respond 0 (some ⟨"200 OK", "x"⟩) :: readCalls (index + 2) 1 .null ++
    .take 0 :: readCalls (index + 3) 1 .null ++
    .respond 0 (some ⟨"200 OK", personAnswer⟩) :: readCalls (index + 4) 1 .null

/-- While the capture holds its lock, the trace message reads the lock for its record, and releases
    the payload in it. -/
def tokenRead : List RecordLabel :=
  .deliver tokenNode :: readCalls 0 2 .null ++ .take 0 :: readCalls 1 2 .null ++
    .deliver lockNameNode :: readCalls 2 2 .null ++ throughTrace 3 ++ .take 0 :: readCalls 8 5 (.string tokenText)

set_option maxRecDepth 16000 in
/-- The session that it makes has no message and the picture wait before it, where a worker
    dereferences null. -/
theorem lock_read_as_record :
    ∃ middle last, (recordMachine tokenEnv).run (recordMachine tokenEnv).start tokenRead = some middle ∧
      ¬ middle.WaitsWithData tokenEnv ∧
      (recordMachine tokenEnv).run middle (throughTrace 9 ++ [.take 0]) = some last ∧
      last.running[14]? = some (.raise .undefined) := by
  refine ⟨_, _, rfl, ?_, rfl, rfl⟩
  intro claimed
  apply claimed.sessions _ (List.mem_append_left _ List.mem_cons_self) rfl
  decide

end XBusiness
