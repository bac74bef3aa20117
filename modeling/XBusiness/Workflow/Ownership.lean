import XBusiness.Data.ParseFaults
import XBusiness.Workflow.Endings

/-! # Who holds a session

A thread that runs a function of the work flow holds the sessions it was given or made,
until it pushes them, sends a request for them or finalises them.  Every function is checked
against a contract on what its thread holds: it gives away only what it holds, and holds
nothing when it returns.

* `sessionProcess_safe` / `requestCallback_safe` — `Process` of every module and every
  callback do exactly one of `Final`, `PushMsg` and `SendRequest` with their session, and
  the sessions that the picture wait releases are pushed or destroyed.
* `handle_safe` — `handle` pushes a session for its node, or marks the node as done.
-/

namespace XBusiness

open Interaction

/-! ## What a thread holds -/

/-- `settled` is what a thread has done with the message it works for: marked its node as done,
    or made its session. -/
structure Held where
  entries : List Entry := []
  settled : Option Bool := none
  deriving DecidableEq

/-- What a thread holds after a call. -/
def Held.after (held : Held) : (request : FlowCall) → request.Answer → Held
  | .pushMsg session, _ => { held with entries := held.entries.erase session.entry }
  | .sendRequest session _ _, _ => { held with entries := held.entries.erase session.entry }
  | .final session _, _ => { held with entries := held.entries.erase session.entry }
  | .destroy session, _ => { held with entries := held.entries.erase session.entry }
  | .makeShared kafkaData, ref =>
    { entries := (ref, kafkaData.data) :: held.entries
      settled := if kafkaData.data.isSome then some true else held.settled }
  | .storeDone _, _ => { held with settled := some false }
  | _, _ => held

theorem Held.after_outside {request : FlowCall} (outside : request.isOutside) {held : Held}
    {answer : request.Answer} : held.after request answer = held := by
  cases request with
  | storeDone _ | makeShared _ | pushMsg _ | sendRequest _ _ _ | final _ _ | destroy _ =>
    exact outside.elim
  | _ => rfl

/-- The contract of a thread that works for a node, or for none: it gives away what it holds, and
    settles its own node once. -/
def heldContract (node : Option PmPtr) : Contract Held FlowCall FlowCall.Answer :=
  .alone
    (fun held request =>
      match request with
      | .pushMsg session => session.entry ∈ held.entries ∧ session.isFinished = false
      | .sendRequest session _ _ => session.entry ∈ held.entries ∧ session.isFinished = false
      | .final session _ => session.entry ∈ held.entries
      | .destroy session => session.entry ∈ held.entries ∧ session.kafkaData.data = none
      | .makeShared kafkaData => ∀ data, kafkaData.data = some data → node = some data ∧ held.settled = none
      | .storeDone data => node = some data ∧ held.settled = none
      | _ => True)
    fun held request answer after => after = held.after request answer

theorem heldContract_outside {node : Option PmPtr} {request : FlowCall} {held : Held}
    (outside : request.isOutside) (property : Held → Prop) (holds : property held) :
    (heldContract node).allowed held request ∧
      ∀ answer after, (heldContract node).effect held request answer after → property after := by
  cases request with
  | storeDone _ | makeShared _ | pushMsg _ | sendRequest _ _ _ | final _ _ | destroy _ =>
    exact outside.elim
  | _ =>
    refine ⟨trivial, ?_⟩
    rintro answer after rfl
    exact holds

/-- The thread holds its session, which is not finished, and nothing else. -/
def Holding (session : Session) (held : Held) (object : Session) : Prop :=
  held = { entries := [session.entry] } ∧ object.standing = (session.entry, false)

/-- The thread holds nothing any more. -/
def Empty (held : Held) : Prop := held = {}

abbrev FlowSafe {α : Type} (post : Held → α → Session → Prop) (program : Flow α) (held : Held)
    (object : Session) : Prop :=
  StateProg.Safe (heldContract none) (fun _ => True) post program held object

theorem Session.entry_of_standing {session object : Session} {finished : Bool}
    (standing : object.standing = (session.entry, finished)) : object.entry = session.entry :=
  (Prod.mk.inj standing).1

section Flow

variable {session object : Session} {held : Held}

/-! ## The ends of a function -/

theorem pushMsg_safe (holding : Holding session held object) :
    FlowSafe (fun held _ _ => Empty held) pushMsg held object := by
  obtain ⟨rfl, standing⟩ := holding
  have entry := Session.entry_of_standing standing
  apply StateProg.Safe.get
  rintro _ rfl
  refine ⟨⟨by simp [entry], (Prod.mk.inj standing).2⟩, ?_⟩
  rintro _ _ rfl _ rfl
  simp [Held.after, entry, Empty]

theorem final_safe (err : ErrCode) (holding : Holding session held object) :
    FlowSafe (fun held _ object => Empty held ∧ object.isFinished = true) (final err) held object := by
  obtain ⟨rfl, standing⟩ := holding
  have entry := Session.entry_of_standing standing
  have unfinished : object.isFinished = false := (Prod.mk.inj standing).2
  apply StateProg.Safe.get
  rw [unfinished]
  rintro _ rfl
  refine ⟨by rw [← entry]; exact List.mem_singleton_self _, ?_⟩
  rintro _ _ rfl _ rfl
  exact ⟨by simp [Held.after, entry, Empty], rfl⟩

theorem final_empty (err : ErrCode) (holding : Holding session held object) :
    FlowSafe (fun held _ _ => Empty held) (final err) held object :=
  (final_safe err holding).mono fun _ _ _ done => done.1

theorem pushOrFinal_safe (holding : Holding session held object) :
    FlowSafe (fun held _ _ => Empty held) pushOrFinal held object := by
  apply StateProg.Safe.get
  split
  · exact pushMsg_safe holding
  · exact final_empty _ holding

end Flow

/-! ## What `ParseDataFactory` and `parse` keep -/

/-- What an object is made with: its class, where it comes from, and the node of its message. -/
def BaseData.origin (self : BaseData) : DataClass × Int × Source × Option PmPtr :=
  (self.dataClass, self.payloadType, self.src, self.data)

/-- The parsed data is of the object that was made. -/
def KeepsOrigin (origin : DataClass × Int × Source × Option PmPtr) (parsed : Option BaseData) : Prop :=
  ∀ kafkaData, parsed = some kafkaData → kafkaData.origin = origin

/-- The origin, with the whole message, and the cursors in the urls of an event and of a person. -/
def BaseData.core (self : BaseData) : (DataClass × Int × Source × Option PmPtr) × Json × Nat × Nat :=
  (self.origin, self.totalJv, self.event.urlIndex, self.capture.person.faceIndex)

def KeepsCore (core : (DataClass × Int × Source × Option PmPtr) × Json × Nat × Nat)
    (parsed : Option BaseData) : Prop :=
  ∀ kafkaData, parsed = some kafkaData → kafkaData.core = core

section Core

variable {core : (DataClass × Int × Source × Option PmPtr) × Json × Nat × Nat}

theorem keepsCore_none : KeepsCore core none := by
  intro kafkaData impossible
  cases impossible

theorem keepsCore_some {self : BaseData} (same : self.core = core) : KeepsCore core (some self) := by
  rintro _ ⟨⟩
  exact same

end Core

theorem parseBusinessEvent_core (self : BaseData) (payloadJv : Json) :
    Returns (KeepsCore self.core) (parseBusinessEvent self payloadJv) := by
  apply Returns.bind
  intro eventJv
  cases eventJv with
  | none => exact .pure keepsCore_none
  | some eventJv =>
    iterate 13 (apply Returns.bind; intro _)
    exact .pure (keepsCore_some rfl)

theorem parsePerson_faceIndex (person : Person) (pesnJv : Json) :
    Returns (fun read => read.faceIndex = person.faceIndex) (parsePerson person pesnJv) := by
  iterate 3 (apply Returns.bind; intro _)
  exact .pure rfl

theorem parseCapture_core (self : BaseData) (payloadJv : Json) :
    Returns (KeepsCore self.core) (parseCapture self payloadJv) := by
  apply Returns.bind
  intro captureJv
  cases captureJv with
  | none => exact .pure keepsCore_none
  | some captureJv =>
    apply Returns.bind
    intro replay
    apply Returns.bind
    intro pesnJv
    cases pesnJv with
    | some pesnJv =>
      refine Returns.bind_of (parsePerson_faceIndex _ pesnJv) fun person sameIndex => ?_
      exact .pure (keepsCore_some (by simp [BaseData.core, BaseData.origin, sameIndex]))
    | none =>
      apply Returns.bind
      intro bkgdJv
      cases bkgdJv with
      | some bkgdJv =>
        apply Returns.bind
        intro background
        exact .pure (keepsCore_some rfl)
      | none => exact .pure (keepsCore_some rfl)

theorem parseScrennshot_core (self : BaseData) (payloadJv : Json) :
    Returns (KeepsCore self.core) (parseScrennshot self payloadJv) := by
  apply Returns.bind
  intro captureJv
  cases captureJv with
  | none => exact .pure keepsCore_none
  | some captureJv =>
    apply Returns.bind
    intro replay
    apply Returns.bind
    intro bkgdJv
    cases bkgdJv with
    | some bkgdJv =>
      apply Returns.bind
      intro background
      exact .pure (keepsCore_some rfl)
    | none => exact .pure (keepsCore_some rfl)

theorem parseFlowEvent_core (self : BaseData) (payloadJv : Json) :
    Returns (KeepsCore self.core) (parseFlowEvent self payloadJv) := by
  apply Returns.bind
  intro eventJv
  cases eventJv with
  | none => exact .pure keepsCore_none
  | some eventJv =>
    iterate 5 (apply Returns.bind; intro _)
    exact .pure (keepsCore_some rfl)

theorem parseTasks_core (self : BaseData) (tasksJv : Json) :
    Returns (KeepsCore self.core) (parseTasks self tasksJv) := by
  apply Returns.bind
  intro tasks
  cases tasks with
  | some tasks =>
    apply Returns.bind
    intro parsed
    exact .pure (keepsCore_some rfl)
  | none => exact .pure (keepsCore_some rfl)

/-- What holds of nothing and of what the part of the class returns holds of what `parse` returns. -/
theorem parseWith_returns (env : Env) {property : Option BaseData → Prop}
    {parsePayload : BaseData → Json → Except Fault (Option BaseData)} {self : BaseData}
    (nothing : property none)
    (returns : ∀ msgId ipc payloadJv,
      Returns property (parsePayload { self with msgId := msgId, ipc := ipc } payloadJv)) :
    Returns property (parseWith env parsePayload self) := by
  apply Returns.bind
  intro dataJv
  cases dataJv with
  | none => exact .pure nothing
  | some dataJv =>
    apply Returns.bind
    intro msgId
    apply Returns.bind
    intro payload
    cases payload with
    | none => exact .pure nothing
    | some payload =>
      dsimp only
      split
      · exact .pure nothing
      · apply Returns.bind
        intro ipc
        cases ipc with
        | none => exact .pure nothing
        | some ipc => exact returns _ _ _

theorem parseWith_core (env : Env) {parsePayload : BaseData → Json → Except Fault (Option BaseData)}
    (keeps : ∀ self payloadJv, Returns (KeepsCore self.core) (parsePayload self payloadJv))
    (self : BaseData) : Returns (KeepsCore self.core) (parseWith env parsePayload self) :=
  parseWith_returns env keepsCore_none fun msgId ipc payloadJv =>
    keeps { self with msgId := msgId, ipc := ipc } payloadJv

theorem parseScreenshoot_core (env : Env) (self : BaseData) :
    Returns (KeepsCore self.core) (parseScreenshoot env self) := by
  apply Returns.bind
  intro dataJv
  cases dataJv with
  | none => exact .pure keepsCore_none
  | some dataJv =>
    apply Returns.bind
    intro msgId
    apply Returns.bind
    intro bid
    cases bid with
    | none => exact .pure keepsCore_none
    | some bid =>
      dsimp only
      split
      · exact .pure keepsCore_none
      · apply Returns.bind
        intro payload
        cases payload with
        | none => exact .pure keepsCore_none
        | some payload =>
          dsimp only
          split
          · exact .pure keepsCore_none
          · apply Returns.bind
            intro ipc
            cases ipc with
            | none => exact .pure keepsCore_none
            | some ipc =>
              refine Returns.bind_of (parseScrennshot_core _ _) ?_
              intro parsed kept
              cases parsed with
              | none => exact .pure keepsCore_none
              | some parsed =>
                have tasks := parseTasks_core parsed
                rw [kept parsed rfl] at tasks
                exact tasks _

theorem parse_core (env : Env) (self : BaseData) : Returns (KeepsCore self.core) (self.parse env) := by
  unfold BaseData.parse
  split
  · exact parseWith_core env parseBusinessEvent_core self
  · refine Returns.bind_of (parseWith_core env parseCapture_core self) ?_
    intro parsed kept
    cases parsed with
    | none => exact .pure keepsCore_none
    | some parsed => exact .pure (keepsCore_some (kept parsed rfl))
  · exact parseScreenshoot_core env self
  · exact parseWith_core env parseFlowEvent_core self
  · exact parseWith_core env parseCapture_core self

theorem parse_origin (env : Env) (self : BaseData) : Returns (KeepsOrigin self.origin) (self.parse env) :=
  fun _ ran kafkaData same => congrArg Prod.fst (parse_core env self _ ran kafkaData same)

/-- An accepted message is read down to its class, which parses it. -/
theorem parseMessage_reads {env : Env} {data : Option PmPtr} {payload : String} {parsed : BaseData}
    (accepted : parseMessage env data payload = .ok (some parsed)) :
    ∃ totalJv dataJv payloadType dataClass, env.text.parseJson payload = some totalJv ∧
      dataOf env totalJv = some dataJv ∧ (dataJv.find? "ptype").bind Json.int? = some payloadType ∧
      classOf payloadType = some dataClass ∧
      (BaseData.make env dataClass payloadType totalJv data).parse env = .ok (some parsed) := by
  rw [parseMessage] at accepted
  obtain ⟨made, ran, accepted⟩ := bind_eq_ok.mp accepted
  cases made with
  | none => cases accepted
  | some made =>
    obtain ⟨totalJv, dataJv, payloadType, dataClass, read, found, type, isClass, rfl⟩ := parseData_reads ran
    exact ⟨totalJv, dataJv, payloadType, dataClass, read, found, type, isClass, accepted⟩

/-- A message is parsed with the cursor in front of its first url. -/
theorem parseMessage_urlIndex {env : Env} {data : Option PmPtr} {payload : String} {kafkaData : BaseData}
    (parsed : parseMessage env data payload = .ok (some kafkaData)) : kafkaData.urlIndex = 0 := by
  obtain ⟨totalJv, dataJv, payloadType, dataClass, -, -, -, -, ran⟩ := parseMessage_reads parsed
  have core := parse_core env _ _ ran kafkaData rfl
  have events : kafkaData.event.urlIndex = 0 := congrArg (fun core => core.2.2.1) core
  have persons : kafkaData.capture.person.faceIndex = 0 := congrArg (fun core => core.2.2.2) core
  cases isClass : kafkaData.dataClass <;> simp [BaseData.urlIndex, isClass, events, persons]

/-- `payload_type_` of the objects of a class. -/
def DataClass.payloadType : DataClass → Int
  | business => PayloadType.business
  | capture => PayloadType.trace
  | screenshot => PayloadType.screenshot
  | xiashunBusiness => PayloadType.xiashunBusiness
  | xiashunCapture => PayloadType.xiashunCapture

/-- An object that `ParseData` makes for the node, of some class. -/
def MadeFor (data : Option PmPtr) (made : Option BaseData) : Prop :=
  ∀ kafkaData, made = some kafkaData → kafkaData.origin =
    (kafkaData.dataClass, kafkaData.dataClass.payloadType, if data = none then .redis else .kafka, data)

theorem madeFor_none (data : Option PmPtr) : MadeFor data none := by
  intro kafkaData impossible
  cases impossible

theorem payloadType_of_classOf {payloadType : Int} {dataClass : DataClass}
    (isClass : classOf payloadType = some dataClass) : payloadType = dataClass.payloadType := by
  unfold classOf at isClass
  -- every class is made under its own payload type
  repeat' split at isClass
  all_goals cases isClass
  all_goals assumption

theorem parseData_madeFor (env : Env) (data : Option PmPtr) (payload : String) :
    Returns (MadeFor data) (parseData env data payload) := by
  rintro _ ran made rfl
  obtain ⟨totalJv, dataJv, payloadType, dataClass, -, -, -, isClass, rfl⟩ := parseData_reads ran
  rw [payloadType_of_classOf isClass]
  rfl

theorem parseMessage_madeFor (env : Env) (data : Option PmPtr) (payload : String) :
    Returns (MadeFor data) (parseMessage env data payload) := by
  refine Returns.bind_of (parseData_madeFor env data payload) ?_
  intro made madeFor
  cases made with
  | none => exact .pure (madeFor_none _)
  | some made =>
    intro parsed ran kafkaData same
    have origin := madeFor made rfl
    have kept : kafkaData.origin = made.origin := parse_origin env made parsed ran kafkaData same
    have sameClass : kafkaData.dataClass = made.dataClass := congrArg Prod.fst kept
    rw [kept, origin, sameClass]

theorem parseMessage_node (env : Env) (data : Option PmPtr) (payload : String) :
    Returns (fun parsed => ∀ kafkaData, parsed = some kafkaData → kafkaData.data = data)
      (parseMessage env data payload) := by
  intro parsed ran kafkaData same
  have origin := parseMessage_madeFor env data payload parsed ran kafkaData same
  exact congrArg (fun origin => origin.2.2.2) origin

/-! ## The functions that hand sessions on -/

theorem raiseFault_safe {α : Type} {node : Option PmPtr} {post : Held → α → Prop} {held : Held}
    {value : Except Fault α} (returns : Returns (post held) value) :
    (raiseFault value).Safe (heldContract node) (fun _ => True) post held := by
  cases value with
  | error fault => exact trivial
  | ok value =>
    rintro _ rfl
    exact returns value rfl

/-- A session that was just made is pushed, and its thread holds what it held before. -/
theorem pushMade_safe {node : Option PmPtr} {session : Session} {made : Entry}
    {entries : List Entry} {settled : Option Bool} {post : Held → Bool → Prop}
    (entry : session.entry = made) (unfinished : session.isFinished = false)
    (done : post { entries := entries, settled := settled } true) :
    (do Prog.perform (FlowCall.pushMsg session); return true : FlowProg Bool).Safe (heldContract node)
      (fun _ => True) post { entries := made :: entries, settled := settled } := by
  rintro _ rfl
  refine ⟨⟨entry ▸ List.mem_cons_self, unfinished⟩, ?_⟩
  rintro _ _ rfl _ rfl
  simpa [Held.after, entry] using done

theorem handle_safe (env : Env) (data : PmPtr) :
    (handle env data).Safe (heldContract (some data)) (fun _ => True)
      (fun held accepted => held = { settled := some accepted }) {} := by
  apply Prog.Safe.bind
  apply raiseFault_safe
  intro parsed ran
  cases parsed with
  | none =>
    rintro _ rfl
    refine ⟨⟨rfl, rfl⟩, ?_⟩
    rintro _ _ rfl _ rfl
    rfl
  | some kafkaData =>
    have node : kafkaData.data = some data := parseMessage_node env _ _ _ ran kafkaData rfl
    rintro _ rfl
    refine ⟨fun own same => ⟨same ▸ node.symm, rfl⟩, ?_⟩
    rintro ref _ rfl
    simp only [Held.after, node, Option.isSome_some, if_true, Prog.bind]
    apply pushMade_safe
    · simp [Session.entry, Session.make, node]
    · rfl
    · rfl

theorem handleFromRedis_safe (env : Env) (payload picResult : String) (held : Held) :
    (handleFromRedis env payload picResult).Safe (heldContract none) (fun _ => True)
      (fun later _ => later = held) held := by
  apply Prog.Safe.bind
  apply raiseFault_safe
  intro parsed ran
  cases parsed with
  | none =>
    rintro _ rfl
    rfl
  | some kafkaData =>
    have node : kafkaData.data = none := parseMessage_node env _ _ _ ran kafkaData rfl
    rintro _ rfl
    refine ⟨fun own same => absurd (node.symm.trans same) (by simp), ?_⟩
    rintro ref _ rfl
    simp only [Prog.perform, Prog.bind]
    apply Prog.Safe.bind
    apply raiseFault_safe
    rintro ⟨accepted, session⟩ read
    have standing := standing_of_bearing
      (congrArg Itinerary.bearing (parseTraceAnswer_preserves env _ picResult _ _ _ read))
    have entry : session.entry = (ref, kafkaData.data) := (Prod.mk.inj standing).1
    have unfinished : session.isFinished = false := (Prod.mk.inj standing).2
    simp only [Held.after, node, Option.isSome_none, Bool.false_eq_true, if_false]
    rw [node] at entry
    cases accepted with
    | true => exact pushMade_safe entry unfinished rfl
    | false =>
      rintro _ rfl
      refine ⟨⟨entry ▸ List.mem_cons_self, (Prod.mk.inj entry).2⟩, ?_⟩
      rintro _ _ rfl _ rfl
      simp [Held.after, entry]

theorem releaseWaiting_safe (env : Env) (traceResult : String) (waiting : List Json) (held : Held) :
    (releaseWaiting env traceResult waiting).Safe (heldContract none) (fun _ => True)
      (fun later _ => later = held) held := by
  induction waiting with
  | nil =>
    rintro _ rfl
    rfl
  | cons element rest inductionHypothesis =>
    cases element with
    | string payload =>
      apply Prog.Safe.bind
      apply (handleFromRedis_safe env payload traceResult held).mono
      rintro later _ rfl
      exact inductionHypothesis
    | _ => exact inductionHypothesis

/-! ## The picture wait -/

section PictureWait

variable {session object : Session} {held : Held}

/-- The thread still holds what it has held when outside calls are made. -/
theorem outside_safe {α : Type} {kind : FlowCall → Prop} {post : α → Prop} {program : FlowProg α}
    (makes : program.Makes kind post) (outside : ∀ request, kind request → request.isOutside) (held : Held) :
    program.Safe (heldContract none) (fun _ => True) (fun later value => later = held ∧ post value) held := by
  apply makes.safe (fun world => world = held)
  · rintro world later rfl same
    exact same
  · exact fun world request ofKind same => heldContract_outside (outside request ofKind) _ same
  · exact fun _ => trivial
  · rfl

/-- The sessions of the waiting payloads are made and given away again. -/
theorem waitPlan_safe (env : Env) (key traceResult : String) (plan : WaitPlan) (held : Held) :
    (plan.run env key traceResult).Safe (heldContract none) (fun _ => True) (fun later _ => later = held) held := by
  have writes : ∀ record, (putRecord env key record).Safe (heldContract none) (fun _ => True)
      (fun later _ => later = held) held := by
    intro record
    have calls : (putRecord env key record).Makes FlowCall.isOutside fun _ => True :=
      ⟨trivial, fun _ => trivial⟩
    exact (outside_safe calls (fun _ outside => outside) held).mono fun _ _ kept => kept.1
  cases plan with
  | keeps =>
    rintro _ rfl
    rfl
  | writes record => exact writes record
  | releases waiting =>
    apply Prog.Safe.bind
    apply (releaseWaiting_safe env traceResult waiting held).mono
    rintro _ _ rfl
    exact writes _

theorem waitCriticalSection_holding (env : Env) (key payload : String) (ptype : Int)
    (holding : Holding session held object) :
    FlowSafe (fun held _ object => Holding session held object)
      (waitCriticalSection env key payload ptype) held object := by
  unfold FlowSafe StateProg.Safe
  rw [waitCriticalSection_run]
  rintro _ rfl
  refine ⟨trivial, ?_⟩
  rintro reply _ rfl
  dsimp only
  have does : DoesPlan env key payload ptype object reply.value (handleValue env key payload ptype reply.value) :=
    handleValue_does reply.value
  rcases does with ⟨fault, ran⟩ | ⟨plan, result, after, does, ran⟩
  · rw [ran]
    trivial
  · have standing : after.standing = object.standing :=
      does.observes fun body =>
        (parseTraceAnswer_preserves env _ body).map fun itinerary => (itinerary.entry, itinerary.isFinished)
    rw [ran]
    apply Prog.Safe.bind
    apply (waitPlan_safe env key object.traceSpaceResult plan _).mono
    rintro _ _ rfl _ rfl
    exact ⟨holding.1, standing.trans holding.2⟩

theorem getResultOfWait_holding (env : Env) (holding : Holding session held object) :
    FlowSafe (fun held _ object => Holding session held object) (getResultOfWait env) held object := by
  unfold FlowSafe StateProg.Safe
  rw [getResultOfWait_run]
  cases object.kafkaData.data with
  | none => trivial
  | some data =>
    dsimp only
    split
    · rintro _ rfl
      exact holding
    · apply Prog.Safe.bind
      apply (outside_safe (redLock_makes trivial trivial trivial) (fun _ outside => outside) held).mono
      rintro _ locked ⟨rfl, -⟩
      split
      · apply Prog.Safe.bind
        apply Prog.Safe.mono (waitCriticalSection_holding env _ _ _ holding)
        intro later result holding
        apply Prog.Safe.bind
        apply (outside_safe (redUnlock_makes trivial) (fun _ outside => outside) later).mono
        rintro _ _ ⟨rfl, -⟩ _ rfl
        exact holding
      · rintro _ rfl
        exact holding

end PictureWait

/-! ## The modules and the callbacks -/

section Modules

variable {session object after : Session} {held : Held}

theorem Holding.of_standing (holding : Holding session held object) (same : after.standing = object.standing) :
    Holding session held after :=
  ⟨holding.1, same.trans holding.2⟩

/-- With each of the four endings the thread gives its session away. -/
theorem ending_safe (ending : Ending) (holding : Holding session held object) :
    FlowSafe (fun held _ _ => Empty held) ending.run held object := by
  cases ending with
  | passes => exact pushOrFinal_safe holding
  | again => exact pushMsg_safe holding
  | fails err => exact final_empty err holding
  | asks procType request =>
    obtain ⟨rfl, standing⟩ := holding
    have entry := Session.entry_of_standing standing
    apply StateProg.Safe.modify
    apply StateProg.Safe.get
    rintro _ rfl
    refine ⟨⟨by rw [← entry]; exact List.mem_singleton_self _, (Prod.mk.inj standing).2⟩, ?_⟩
    rintro _ _ rfl _ rfl
    simp only [Held.after, Empty]
    rw [← entry]
    exact congrArg (fun entries => Held.mk entries none) (List.erase_cons_head _ _)

theorem moduleProcess_safe (env : Env) (procType : ProcType) (holding : Holding session held object) :
    FlowSafe (fun held _ _ => Empty held) (moduleProcess env procType) held object := by
  rw [moduleProcess_eq]
  apply StateProg.Safe.bind
  by_cases wait : procType = .picWait
  · subst wait
    apply StateProg.Safe.bind
    apply (getResultOfWait_holding env holding).mono
    intro held result after holding
    cases result <;> rintro _ rfl <;> exact ending_safe _ holding
  · have does := (moduleBody_does env procType object).mono (ProcType.quiet_of_calls wait)
    apply Prog.Safe.mono (outside_safe does FlowCall.isOutside_of_quiet held)
    rintro _ ⟨ending, after⟩ ⟨rfl, does⟩
    exact ending_safe ending (holding.of_standing (standing_of_bearing does.bearing))

theorem requestCallback_safe (env : Env) (procType : ProcType) (response : Option HttpResponse)
    (holding : Holding session held object) :
    FlowSafe (fun held _ _ => Empty held) (requestCallback env procType response) held object := by
  unfold FlowSafe StateProg.Safe
  rcases requestCallback_does env procType response object with ⟨fault, ran⟩ | ⟨ending, after, does, ran⟩
  · rw [ran]
    trivial
  · rw [ran]
    exact ending_safe ending (holding.of_standing does.standing)

theorem sessionProcess_safe (env : Env) (holding : Holding session held object) :
    FlowSafe (fun held _ _ => Empty held) (sessionProcess env) held object := by
  apply StateProg.Safe.get
  split
  · exact final_empty _ holding
  · apply StateProg.Safe.modify
    exact moduleProcess_safe env _ holding

end Modules

end XBusiness
