import Mathlib.Data.List.TakeWhile
import XBusiness.Workflow.Poison
import XBusiness.Workflow.PoolSafety
import XBusiness.Workflow.Reparse
import XBusiness.Workflow.Twins

/-! # Outputs and inputs

Two runs for one message get the same answers.  They differ in the bytes that follow the payload
in memory, which the service reads as a C string, and in what it finds in the members that no
constructor initialises.  The bytes and two of the members, the time of the device and the
similarity of a person, can reach an output.

* `Settled` — the steps at which what reaches an output has been read before.
* `sessionProcess_beside` — a settled step makes the same calls in both runs.
* `outputs_of_inputs` — runs of settled steps send out the same requests, updates and records.
-/

namespace XBusiness

open Interaction
open XBusiness.Flow (call)

/-! ## A message in memory -/

/-- What `(const char*)` makes of the bytes from an address on. -/
def cString (bytes : List Char) : String := String.ofList (bytes.takeWhile fun byte => byte ≠ '\x00')

/-- What a session is made from: the node of a message with the bytes of its payload, or a payload
    that waited in Redis, with the answer it is released with. -/
inductive Input where
  | kafka (data : PmPtr) (payload : List Char)
  | redis (payload picResult : String)

/-- The node as `process_todo` hands it on, where other bytes follow the payload. -/
def PmPtr.inMemory (data : PmPtr) (payload tail : List Char) : PmPtr :=
  { data with msg := { data.msg with payload := cString (payload ++ tail) } }

def Input.start (env : Env) (tail : List Char) : Input → FlowProg Unit
  | kafka data payload => processMessage env (data.inMemory payload tail)
  | redis payload picResult => do
    let _ ← handleFromRedis env payload picResult
    return ()

/-- The message, from where its session is made to the given number of steps of the session. -/
def messageRun (env : Env) (respond : Nat → RequestInfo → Option HttpResponse) (steps : Nat)
    (tail : List Char) (input : Input) : FlowProg Pending := do
  let (_, pending) ← (input.start env tail).observed Pending.watch .ended
  course env respond steps pending

/-- The same service with other contents in the members without a constructor. -/
def Env.withUninit (env : Env) (uninit : Uninit) : Env := { env with uninit := uninit }

/-- Answers to the calls, by their place in the run. -/
abbrev Answers := Nat → (request : FlowCall) → request.Answer

/-! ## Steps at which an output is determined -/

/-- An answer that names a person says how similar it is. -/
def GivesScore (env : Env) (accepts : Int → Bool) (body : String) : Prop :=
  ∀ bodyJv person, env.text.parseJson body = some bodyJv → personOf accepts bodyJv = some person →
    (scoreOf person).isSome

/-- The same of the trace answer that is stored in a record. -/
def RecordGivesScore (env : Env) (value : String) : Prop :=
  ∀ record body, env.text.reader value = .ok (some record) →
    record.member? "ptype" Json.int? = .ok (some PayloadType.trace) →
    record.member? "trace_result" Json.string? = .ok (some body) → GivesScore env personCodes body

/-- What the next module of the session puts into an output has been read from an input. -/
structure Determined (env : Env) (answer : Answers) (session : Session) : Prop where
  request : session.procChain.head? = some .traceSpace → session.images ≠ [] →
    stamped env session.kafkaData.totalJv = true
  screenshot : session.procChain.head? = some .outputKafka → session.kafkaData.dataClass = .screenshot →
    stamped env session.kafkaData.totalJv = true
  score : session.procChain.head? = some .businessSave ∨ session.procChain.head? = some .outputKafka →
    session.writesScore = true → session.personResult.personAttributes ≠ []
  record : session.procChain.head? = some .picWait →
    session.kafkaData.payloadType = PayloadType.business →
    ∀ index value, answer index (.redisGet session.kafkaData.getPicWaitKey) = .string value →
      RecordGivesScore env value
  handedOn : session.procChain.head? = some .picWait → session.kafkaData.payloadType = PayloadType.trace →
    GivesScore env personCodes session.traceSpaceResult

/-- A session that is queued is determined, and a trace-space request is answered with a score. -/
def Settled (env : Env) (answer : Answers) (respond : Nat → RequestInfo → Option HttpResponse) :
    FlowCall → Prop
  | .pushMsg session => Determined env answer session
  | .sendRequest _ .traceSpace request =>
    ∀ step response, respond step request = some response → GivesScore env traceCodes response.content
  | _ => True

/-! ## Sessions of the two runs -/

/-- The sessions have read the same from their inputs. -/
structure SameInput (env : Env) (session : Session) (contents : Contents) : Prop where
  data : contents.data.isSome = session.kafkaData.data.isSome
  timestamp : stamped env session.kafkaData.totalJv = true →
    contents.timestamp = session.kafkaData.ipc.timestamp
  similar : session.personResult.personAttributes ≠ [] → contents.similar = session.personResult.similar

/-- The responses that both runs get, and the answers to the calls of each. -/
structure Runs where
  env : Env
  respond : Nat → RequestInfo → Option HttpResponse
  first : Answers
  second : Answers

/-- The calls of the two runs, side by side: they get equal answers, but for the readings of the clock
    and the identity of a new object. -/
inductive Beside (runs : Runs) : Coupling FlowCall FlowCall.Answer where
  | plain (request : FlowCall) (isPlain : request.isPlain) : Beside runs request request Eq
  | time : Beside runs .time .time fun _ _ => True
  | now : Beside runs .now .now fun reading readingSecond =>
      ∃ index, reading = runs.first index .now ∧ readingSecond = runs.second index .now
  | sleepFor (milliseconds : Nat) : Beside runs (.sleepFor milliseconds) (.sleepFor milliseconds) Eq
  | redisGet (key : String) : Beside runs (.redisGet key) (.redisGet key) fun reply replySecond =>
      reply = replySecond ∧ ∃ index, runs.first index (.redisGet key) = reply
  | redisSet (key data other : String) (milliseconds : Int) (nx : Bool) :
      Beside runs (.redisSet key data milliseconds nx) (.redisSet key other milliseconds nx) Eq
  | redisUnlock (key data : String) : Beside runs (.redisUnlock key data) (.redisUnlock key data) Eq
  | updateOne (collection : String) (filter : Filter) (set other : Document) (alike : ClockAlike set other) :
      Beside runs (.updateOne collection filter set) (.updateOne collection filter other) Eq
  | storeDone (data other : PmPtr) : Beside runs (.storeDone data) (.storeDone other) Eq
  | makeShared (kafkaData other : BaseData) :
      Beside runs (.makeShared kafkaData) (.makeShared other) fun _ _ => True
  | pushMsg (session : Session) (contents : Contents) (same : SameInput runs.env session contents) :
      Beside runs (.pushMsg session) (.pushMsg (session.vary contents))
        fun _ _ => Settled runs.env runs.first runs.respond (.pushMsg session)
  | sendRequest (session : Session) (contents : Contents) (procType : ProcType) (request : RequestInfo)
      (later : procType ≠ .picWait) (same : SameInput runs.env session contents) :
      Beside runs (.sendRequest session procType request)
        (.sendRequest (session.vary contents) procType request)
        fun _ _ => Settled runs.env runs.first runs.respond (.sendRequest session procType request)
  | final (session : Session) (contents : Contents) (err : ErrCode)
      (same : SameInput runs.env session contents) :
      Beside runs (.final session err) (.final (session.vary contents) err) Eq
  | destroy (session other : Session) : Beside runs (.destroy session) (.destroy other) Eq

theorem sameInput_neutral {env : Env} {session after : Session} {contents : Contents}
    (neutral : Neutral session after) (same : SameInput env session contents) :
    SameInput env after contents := by
  have sameContents := congrArg Session.Marks.contents neutral.marks
  have sameTotal : after.kafkaData.totalJv = session.kafkaData.totalJv :=
    congrArg Session.Marks.totalJv neutral.marks
  have sameAttributes : after.personResult.personAttributes = session.personResult.personAttributes :=
    congrArg Session.Marks.attributes neutral.marks
  constructor
  · exact same.data.trans (congrArg (fun contents => contents.data.isSome) sameContents).symm
  · intro isStamped
    rw [sameTotal] at isStamped
    exact (same.timestamp isStamped).trans (congrArg Contents.timestamp sameContents).symm
  · intro attributes
    rw [sameAttributes] at attributes
    exact (same.similar attributes).trans (congrArg Contents.similar sameContents).symm

/-- The kinship of the sessions of the two runs. -/
def inputKinship (runs : Runs) : Kinship where
  coupling := Beside runs
  allowed := SameInput runs.env
  reads score := score.isSome = true
  neutral := sameInput_neutral
  saved _ same := ⟨same.data, same.timestamp, same.similar⟩
  scored isRead same read _ := by
    refine ⟨same.data, same.timestamp, fun _ => ?_⟩
    obtain ⟨score, rfl⟩ := Option.isSome_iff_exists.mp isRead
    exact read.symm
  plain isPlain := .plain _ isPlain
  time := .time
  updateOne collection filter _ _ alike := .updateOne collection filter _ _ alike
  pushMsg same := ⟨_, .pushMsg _ _ same⟩
  sendRequest request later same := ⟨_, .sendRequest _ _ _ request later same⟩
  final err same := .final _ _ err same

/-! ## A new session -/

/-- Where `ParseData` says that the data of a node comes from. -/
def sourceOf (data : Option PmPtr) : Source := if data = none then .redis else .kafka

/-- The label of the data that the other run makes of the same text. -/
def otherLabel (data : Option PmPtr) (uninit : Uninit) : Label :=
  ⟨sourceOf data, data, fun _ => uninit.timestamp⟩

theorem parseData_other {env : Env} (uninit : Uninit) {payload otherPayload : String}
    (sameText : env.text.parseJson otherPayload = env.text.parseJson payload) (data other : Option PmPtr) :
    parseData (env.withUninit uninit) other otherPayload =
      Option.map (·.relabel (otherLabel other uninit)) <$> parseData env data payload := by
  unfold parseData
  rw [show (env.withUninit uninit).text = env.text from rfl, sameText]
  cases env.text.parseJson payload with
  | none => rfl
  | some totalJv =>
    simp only [map_bind]
    apply bind_congr
    intro dataJv
    cases dataJv with
    | none => rfl
    | some dataJv =>
      simp only [map_bind]
      apply bind_congr
      intro payloadType
      cases payloadType with
      | none => rfl
      | some payloadType =>
        dsimp only
        -- one case for each class
        repeat' split
        all_goals rfl

/-- The other run reads the same data from the same text, but for the label. -/
theorem parseMessage_other {env : Env} (uninit : Uninit) {payload otherPayload : String}
    (sameText : env.text.parseJson otherPayload = env.text.parseJson payload) (data other : Option PmPtr) :
    parseMessage (env.withUninit uninit) other otherPayload =
      Option.map (fun parsed => parsed.relabel ((otherLabel other uninit).read env parsed.totalJv)) <$>
        parseMessage env data payload := by
  unfold parseMessage
  rw [parseData_other uninit sameText data other, map_bind, bind_map_left]
  apply bind_congr
  intro made
  cases made with
  | none => rfl
  | some made =>
    have relabelled := parse_relabel env (otherLabel other uninit) made
    have kept := parse_core env made
    show (made.relabel (otherLabel other uninit)).parse (env.withUninit uninit) = _ <$> made.parse env
    rw [show (made.relabel (otherLabel other uninit)).parse (env.withUninit uninit) =
      (made.relabel (otherLabel other uninit)).parse env from rfl, relabelled]
    cases parsed : made.parse env with
    | error fault => rfl
    | ok result =>
      cases result with
      | none => rfl
      | some result =>
        have sameTotal : result.totalJv = made.totalJv := congrArg (·.2.1) (kept _ parsed result rfl)
        show (Except.ok (some (result.relabel ((otherLabel other uninit).read env made.totalJv))) :
          Except Fault (Option BaseData)) =
            .ok (some (result.relabel ((otherLabel other uninit).read env result.totalJv)))
        rw [sameTotal]

theorem Label.read_src (label : Label) (env : Env) (totalJv : Json) :
    (label.read env totalJv).src = label.src := by
  rw [Label.read]
  split <;> rfl

theorem Label.read_data (label : Label) (env : Env) (totalJv : Json) :
    (label.read env totalJv).data = label.data := by
  rw [Label.read]
  split <;> rfl

theorem make_other (env : Env) (uninit : Uninit) (ref otherRef : Nat) (kafkaData : BaseData) {label : Label}
    (sameSource : label.src = kafkaData.src) :
    Session.make (env.withUninit uninit) otherRef (kafkaData.relabel label) =
      (Session.make env ref kafkaData).vary
        (Session.make (env.withUninit uninit) otherRef (kafkaData.relabel label)).contents := by
  obtain ⟨src, data, stamp⟩ := label
  subst sameSource
  rfl

/-- The sessions that the two runs make of what they read stand side by side. -/
theorem newSession_same {env : Env} (uninit : Uninit) {payload : String} {data other : Option PmPtr}
    {parsed : BaseData} (sameOrigin : other.isSome = data.isSome)
    (parses : parseMessage env data payload = .ok (some parsed)) (ref otherRef : Nat) :
    ∃ contents, Session.make (env.withUninit uninit) otherRef
        (parsed.relabel ((otherLabel other uninit).read env parsed.totalJv)) =
          (Session.make env ref parsed).vary contents ∧
      SameInput env (Session.make env ref parsed) contents := by
  have origin := parseMessage_madeFor env data payload _ parses parsed rfl
  have sameSource : ((otherLabel other uninit).read env parsed.totalJv).src = parsed.src := by
    have isSource : parsed.src = sourceOf data := congrArg (fun origin => origin.2.2.1) origin
    rw [Label.read_src, isSource]
    cases data <;> cases other <;> first | rfl | cases sameOrigin
  refine ⟨_, make_other env uninit ref otherRef parsed sameSource, ?_, fun isStamped => ?_,
    fun attributes => ?_⟩
  · have isData : parsed.data = data := congrArg (fun origin => origin.2.2.2) origin
    show ((otherLabel other uninit).read env parsed.totalJv).data.isSome = parsed.data.isSome
    rw [Label.read_data, isData]
    exact sameOrigin
  · have isStamped : stamped env parsed.totalJv = true := isStamped
    show ((otherLabel other uninit).read env parsed.totalJv).stamp parsed.ipc.timestamp = parsed.ipc.timestamp
    rw [Label.read, if_pos isStamped]
    rfl
  · exact absurd rfl attributes

section Runs

variable {runs : Runs} {uninit : Uninit}

/-- The readers take the payloads of the two nodes for the same text. -/
structure SameText (env : Env) (data other : PmPtr) : Prop where
  read : (Consumer.readMessage env.text other.msg).isSome = (Consumer.readMessage env.text data.msg).isSome
  parse : env.text.parseJson other.msg.payload = env.text.parseJson data.msg.payload

theorem handle_beside {data other : PmPtr} (sameText : SameText runs.env data other) :
    Prog.Coupled (Beside runs) Eq (handle runs.env data) (handle (runs.env.withUninit uninit) other) := by
  unfold handle
  rw [parseMessage_other uninit sameText.parse (some data) (some other)]
  cases parses : parseMessage runs.env (some data) data.msg.payload with
  | error fault => exact .raise fault
  | ok parsed =>
    cases parsed with
    | none => exact .call (.storeDone data other) fun _ _ _ => .ret rfl
    | some parsed =>
      refine .call (.makeShared _ _) fun ref otherRef _ => ?_
      have sameOrigin : (some other).isSome = (some data).isSome := rfl
      obtain ⟨contents, isVaried, same⟩ := newSession_same uninit sameOrigin parses ref otherRef
      show Prog.Coupled (Beside runs) Eq (Prog.call (FlowCall.pushMsg (.make runs.env ref parsed)) _)
        (Prog.call (FlowCall.pushMsg (.make (runs.env.withUninit uninit) otherRef (parsed.relabel _))) _)
      rw [isVaried]
      exact .call (.pushMsg _ contents same) fun _ _ _ => .ret rfl

theorem processMessage_beside {data other : PmPtr} (sameText : SameText runs.env data other) :
    Prog.Coupled (Beside runs) Eq (processMessage runs.env data)
      (processMessage (runs.env.withUninit uninit) other) := by
  have sameRead := sameText.read
  unfold processMessage
  rw [show (runs.env.withUninit uninit).text = runs.env.text from rfl]
  cases read : Consumer.readMessage runs.env.text data.msg with
  | none =>
    rw [read] at sameRead
    rw [Option.isNone_iff_eq_none.mp (Option.isSome_eq_false_iff.mp sameRead)]
    exact .ret rfl
  | some node =>
    rw [read] at sameRead
    obtain ⟨otherNode, read⟩ := Option.isSome_iff_exists.mp sameRead
    rw [read]
    exact (handle_beside sameText).bind fun _ _ _ => .ret rfl

theorem run_ofSessionFn {α : Type} (function : SessionFn α) (session : Session) :
    (Flow.ofSessionFn function).run session = raiseFault (function.run session) := by
  cases ran : function.run session with
  | ok result => exact Flow.run_ofSessionFn_ok ran
  | error fault => exact Flow.run_ofSessionFn_error ran

/-- A waiting payload, released with an answer that gives the score. -/
theorem handleFromRedis_beside (payload : String) {picResult : String}
    (score : GivesScore runs.env personCodes picResult) :
    Prog.Coupled (Beside runs) Eq (handleFromRedis runs.env payload picResult)
      (handleFromRedis (runs.env.withUninit uninit) payload picResult) := by
  unfold handleFromRedis
  rw [parseMessage_other uninit rfl none none]
  cases parses : parseMessage runs.env none payload with
  | error fault => exact .raise fault
  | ok parsed =>
    cases parsed with
    | none => exact .ret rfl
    | some parsed =>
      refine .call (.makeShared _ _) fun ref otherRef _ => ?_
      have sameOrigin : (none : Option PmPtr).isSome = (none : Option PmPtr).isSome := rfl
      obtain ⟨contents, isVaried, same⟩ := newSession_same uninit sameOrigin parses ref otherRef
      have read : AlikeFn (inputKinship runs) (getPersonResult runs.env picResult) :=
        parseTraceAnswer_alike runs.env personCodes score
      have readSame := at_alike same read
      rw [AlikeAt, run_ofSessionFn, run_ofSessionFn, ← isVaried] at readSame
      apply Prog.Coupled.bind readSame
      rintro ⟨accepted, session⟩ ⟨_, _⟩ ⟨⟨⟩, contents, rfl, same⟩
      cases accepted with
      | true => exact .call (.pushMsg session contents same) fun _ _ _ => .ret rfl
      | false => exact .call (.destroy session _) fun _ _ _ => .ret rfl

end Runs

/-! ## The lock -/

/-- The clock lets the lock be tried as long in both runs. -/
def Runs.Paced (runs : Runs) : Prop :=
  ∀ begin later, (runs.first later .now : Int) - (runs.first begin .now : Int) < redlockAcquireTimeout ↔
    (runs.second later .now : Int) - (runs.second begin .now : Int) < redlockAcquireTimeout

section Commands

variable {runs : Runs}

theorem setAdvancedKeyValue_beside (key data other : String) (milliseconds : Int) (nx : Bool) :
    Prog.Coupled (Beside runs) Eq (setAdvancedKeyValue key data milliseconds nx)
      (setAdvancedKeyValue key other milliseconds nx) := by
  refine .call (.redisSet key data other milliseconds nx) ?_
  rintro reply _ rfl
  exact .ret rfl

theorem redLockLoop_beside (paced : runs.Paced) (key data : String) (expireTimeout : Int) (begin : Nat)
    (attempts : Nat) :
    Prog.Coupled (Beside runs) Eq
      (redLockLoop key data redlockAcquireTimeout expireTimeout (runs.first begin .now) attempts)
      (redLockLoop key data redlockAcquireTimeout expireTimeout (runs.second begin .now) attempts) := by
  induction attempts with
  | zero => exact .ret rfl
  | succ attempts inductionHypothesis =>
    rw [redLockLoop_succ, redLockLoop_succ]
    refine .call (.redisSet key data data expireTimeout true) ?_
    rintro reply _ rfl
    by_cases granted : reply = RedisReply.string "OK"
    · rw [if_pos granted, if_pos granted]
      exact .ret rfl
    · rw [if_neg granted, if_neg granted]
      refine .call (.sleepFor _) fun _ _ _ => .call .now ?_
      -- both runs have time for another attempt, or none has
      rintro _ _ ⟨later, rfl, rfl⟩
      by_cases inTime : (runs.first later .now : Int) - (runs.first begin .now : Int) < redlockAcquireTimeout
      · rw [if_pos inTime, if_pos ((paced begin later).mp inTime)]
        exact inductionHypothesis
      · rw [if_neg inTime, if_neg fun inTimeSecond => inTime ((paced begin later).mpr inTimeSecond)]
        exact .ret rfl

theorem redLock_beside (paced : runs.Paced) (key data : String) (expireTimeout : Int) :
    Prog.Coupled (Beside runs) Eq (redLock key data redlockAcquireTimeout expireTimeout)
      (redLock key data redlockAcquireTimeout expireTimeout) := by
  refine .call .now ?_
  rintro _ _ ⟨begin, rfl, rfl⟩
  exact redLockLoop_beside paced key data expireTimeout begin _

theorem redUnlock_beside (key data : String) :
    Prog.Coupled (Beside runs) Eq (redUnlock key data) (redUnlock key data) := by
  refine .call (.redisUnlock key data) ?_
  rintro reply _ rfl
  exact .ret rfl

/-- The value is that of an answer of the first run. -/
theorem getValueByKey_beside (key : String) :
    Prog.Coupled (Beside runs)
      (fun result other => result = other ∧
        (result.2 ≠ "" → ∃ index, runs.first index (.redisGet key) = .string result.2))
      (getValueByKey key) (getValueByKey key) := by
  refine .call (.redisGet key) ?_
  rintro reply _ ⟨rfl, index, found⟩
  refine .ret ⟨rfl, fun nonempty => ⟨index, ?_⟩⟩
  cases reply with
  | string value => exact found
  | _ => exact absurd rfl nonempty

end Commands

/-! ## The picture wait -/

section PictureWait

variable {runs : Runs} {uninit : Uninit} {session : Session} {contents : Contents}

theorem alike_progs {α β : Type} {kinship : Kinship} {values : α → β → Prop} {program : FlowProg α}
    {second : FlowProg β} (coupled : Prog.Coupled kinship.coupling values program second) :
    AlikeWith kinship values (Flow.ofProg program) (Flow.ofProg second) :=
  .lift coupled

theorem at_bindProgs {α β γ δ : Type} {kinship : Kinship} {values : α → β → Prop}
    {middle : γ → δ → Prop} {program : FlowProg γ} {second : FlowProg δ}
    {continuation : γ → Flow α} {continuationSecond : δ → Flow β}
    (coupled : Prog.Coupled kinship.coupling middle program second)
    (rest : ∀ value other, middle value other →
      AlikeAt kinship session contents values (continuation value) (continuationSecond other)) :
    AlikeAt kinship session contents values (Flow.ofProg program >>= continuation)
      (Flow.ofProg second >>= continuationSecond) := by
  rw [AlikeAt, run_ofProg_bind, run_ofProg_bind]
  exact coupled.bind rest

theorem storeRecord_alike (key : String) (record other : Json) :
    Alike (inputKinship runs) (storeRecord runs.env key record)
      (storeRecord (runs.env.withUninit uninit) key other) :=
  alike_bind (alike_progs (setAdvancedKeyValue_beside key _ _ _ false)) fun _ => alike_pure _

theorem handleWithoutKey_alike (key payload other : String) (ptype : Int) :
    Alike (inputKinship runs) (handleWithoutKey runs.env key payload ptype)
      (handleWithoutKey (runs.env.withUninit uninit) key other ptype) := by
  apply alike_ite
  · intro _
    exact alike_bind (storeRecord_alike key _ _) fun _ => alike_pure _
  · intro _
    apply alike_get
    intro session contents allowed
    exact at_alike allowed (alike_bind (storeRecord_alike key _ _) fun _ => alike_pure _)

theorem releaseWaiting_beside {traceResult : String} (score : GivesScore runs.env personCodes traceResult)
    (waiting : List Json) :
    Prog.Coupled (Beside runs) Eq (releaseWaiting runs.env traceResult waiting)
      (releaseWaiting (runs.env.withUninit uninit) traceResult waiting) := by
  induction waiting with
  | nil => exact .ret rfl
  | cons head rest inductionHypothesis =>
    cases head with
    | string payload =>
      apply (handleFromRedis_beside payload score).bind
      intro _ _ _
      exact inductionHypothesis
    | _ => exact inductionHypothesis

/-- Whether a text can join those of a record does not depend on the text. -/
theorem appendWaiting_text (record : Json) (text other : String) :
    (∃ fault, (do (← record.member "message_list").append (.string text)) = .error fault ∧
      (do (← record.member "message_list").append (.string other)) = .error fault) ∨
    ∃ list listOther, (do (← record.member "message_list").append (.string text)) = .ok list ∧
      (do (← record.member "message_list").append (.string other)) = .ok listOther := by
  cases record.member "message_list" with
  | error fault => exact .inl ⟨fault, rfl, rfl⟩
  | ok list =>
    cases list with
    | null | array => exact .inr ⟨_, _, rfl, rfl⟩
    | _ => exact .inl ⟨_, rfl, rfl⟩

/-- What a session reads of the record of its key, and hands on to those that wait there. -/
structure ScoresAtKey (env : Env) (session : Session) (value : String) : Prop where
  record : session.kafkaData.payloadType = PayloadType.business → RecordGivesScore env value
  handedOn : session.kafkaData.payloadType = PayloadType.trace →
    GivesScore env personCodes session.traceSpaceResult

theorem handleWithKey_at (allowed : SameInput runs.env session contents) (key payload other : String)
    {value : String} (scores : ScoresAtKey runs.env session value) :
    AlikeAt (inputKinship runs) session contents Eq
      (handleWithKey runs.env key value payload session.kafkaData.payloadType)
      (handleWithKey (runs.env.withUninit uninit) key value other session.kafkaData.payloadType) := by
  unfold handleWithKey
  rw [show (runs.env.withUninit uninit).text = runs.env.text from rfl]
  cases reads : runs.env.text.reader value with
  | error fault => exact .raise fault
  | ok dataJson =>
    cases dataJson with
    | none => exact at_pure allowed _
    | some dataJson =>
      simp only [Flow.ofExcept_ok, pure_bind]
      cases isType : dataJson.member? "ptype" Json.int? with
      | error fault => exact .raise fault
      | ok valueType =>
        cases valueType with
        | none => exact at_pure allowed _
        | some valueType =>
          simp only [Flow.ofExcept_ok, pure_bind]
          apply at_ite
          · rintro rfl
            -- a trace answer is stored
            apply at_ite
            · intro isBusiness
              cases isResult : dataJson.member? "trace_result" Json.string? with
              | error fault => exact .raise fault
              | ok traceResult =>
                cases traceResult with
                | none => exact at_pure allowed _
                | some traceResult =>
                  simp only [Flow.ofExcept_ok, pure_bind]
                  have score := scores.record isBusiness dataJson traceResult reads isType isResult
                  have read : AlikeFn (inputKinship runs) (getPersonResult runs.env traceResult) :=
                    parseTraceAnswer_alike runs.env personCodes score
                  exact at_alike allowed (alike_bind read fun _ => alike_pure _)
            · intro _
              exact at_pure allowed _
          · intro _
            apply at_ite
            · intro _
              -- payloads wait
              apply at_ite
              · intro _
                obtain ⟨fault, failed, failedOther⟩ | ⟨list, listOther, joined, joinedOther⟩ :=
                  appendWaiting_text dataJson payload other
                · rw [failed, failedOther]
                  exact .raise fault
                · rw [joined, joinedOther]
                  simp only [Flow.ofExcept_ok, pure_bind]
                  exact at_alike allowed (alike_bind (storeRecord_alike key _ _) fun _ => alike_pure _)
              · intro _
                apply at_ite
                · intro isTrace
                  cases messageList dataJson with
                  | error fault => exact .raise fault
                  | ok waiting =>
                    simp only [Flow.ofExcept_ok, pure_bind]
                    apply at_get
                    have score := scores.handedOn isTrace
                    apply at_alike allowed
                    refine alike_bind (alike_progs (releaseWaiting_beside score waiting)) fun _ => ?_
                    exact alike_bind (storeRecord_alike key _ _) fun _ => alike_pure _
                · intro _
                  exact at_pure allowed _
            · intro _
              exact at_pure allowed _

theorem waitCriticalSection_at (allowed : SameInput runs.env session contents) (key payload other : String)
    (scores : ∀ index value, runs.first index (.redisGet key) = .string value →
      ScoresAtKey runs.env session value) :
    AlikeAt (inputKinship runs) session contents Eq
      (waitCriticalSection runs.env key payload session.kafkaData.payloadType)
      (waitCriticalSection (runs.env.withUninit uninit) key other session.kafkaData.payloadType) := by
  unfold waitCriticalSection
  apply at_bindProgs (getValueByKey_beside key)
  rintro ⟨found, value⟩ _ ⟨rfl, stored⟩
  apply at_ite
  · intro _
    exact at_alike allowed (handleWithoutKey_alike key payload other _)
  · intro isFound
    obtain ⟨index, reply⟩ := stored fun isEmpty => isFound (.inr isEmpty)
    exact handleWithKey_at allowed key payload other (scores index value reply)

theorem getResultOfWait_at (paced : runs.Paced) (allowed : SameInput runs.env session contents)
    (scores : ∀ index value,
      runs.first index (.redisGet session.kafkaData.getPicWaitKey) = .string value →
        ScoresAtKey runs.env session value) :
    AlikeAt (inputKinship runs) session contents Eq (getResultOfWait runs.env)
      (getResultOfWait (runs.env.withUninit uninit)) := by
  have sameOrigin := allowed.data
  apply at_get
  rw [show (session.vary contents).kafkaData.data = contents.data from rfl]
  cases isNode : session.kafkaData.data with
  | none =>
    rw [isNode] at sameOrigin
    rw [Option.isNone_iff_eq_none.mp (Option.isSome_eq_false_iff.mp sameOrigin)]
    exact .raise Fault.undefined
  | some data =>
    rw [isNode] at sameOrigin
    obtain ⟨other, isNode⟩ := Option.isSome_iff_exists.mp sameOrigin
    rw [isNode]
    apply at_ite
    · intro _
      exact at_pure allowed _
    · intro _
      apply at_bindProgs (redLock_beside paced _ _ _)
      rintro granted _ rfl
      apply at_ite
      · intro _
        apply at_bind (waitCriticalSection_at allowed _ data.msg.payload other.msg.payload scores)
        rintro result _ rfl
        exact alike_bind (alike_progs (redUnlock_beside _ _)) fun _ => alike_pure _
      · intro _
        exact at_pure allowed _

theorem pictureWaitProcess_at (paced : runs.Paced) (allowed : SameInput runs.env session contents)
    (scores : ∀ index value,
      runs.first index (.redisGet session.kafkaData.getPicWaitKey) = .string value →
        ScoresAtKey runs.env session value) :
    AlikeAt (inputKinship runs) session contents Eq (pictureWaitProcess runs.env)
      (pictureWaitProcess (runs.env.withUninit uninit)) := by
  apply at_bind (getResultOfWait_at paced allowed scores)
  rintro result _ rfl
  cases result with
  | wait => exact final_alike .success
  | pass => exact pushOrFinal_alike

end PictureWait

/-! ## Steps -/

/-- Only the picture wait makes sessions, with members that no constructor initialises. -/
theorem moduleProcess_withUninit (env : Env) (uninit : Uninit) {proc : ProcType} (later : proc ≠ .picWait) :
    moduleProcess (env.withUninit uninit) proc = moduleProcess env proc := by
  cases proc with
  | picWait => exact absurd rfl later
  | _ => rfl

theorem requestCallback_withUninit (env : Env) (uninit : Uninit) (procType : ProcType)
    (response : Option HttpResponse) :
    requestCallback (env.withUninit uninit) procType response = requestCallback env procType response := by
  cases procType <;> rfl

section Steps

variable {runs : Runs} {uninit : Uninit} {session : Session} {contents : Contents}

theorem Determined.writesSame {proc : ProcType} (determined : Determined runs.env runs.first session)
    (same : SameInput runs.env session contents) (next : session.procChain.head? = some proc) :
    WritesSame session contents proc where
  request isTrace images := same.timestamp (determined.request (next.trans (congrArg some isTrace)) images)
  screenshot isOutput isScreenshot :=
    same.timestamp (determined.screenshot (next.trans (congrArg some isOutput)) isScreenshot)
  score writer writes := by
    apply same.similar
    apply determined.score _ writes
    exact writer.imp (fun saves => next.trans (congrArg some saves)) fun outputs =>
      next.trans (congrArg some outputs)

/-- A step of a determined session, in both runs. -/
theorem sessionProcess_beside (paced : runs.Paced) (same : SameInput runs.env session contents)
    (determined : Determined runs.env runs.first session) :
    AlikeAt (inputKinship runs) session contents Eq (sessionProcess runs.env)
      (sessionProcess (runs.env.withUninit uninit)) := by
  apply sessionProcess_of_module same
  intro proc rest chain popped
  have next : session.procChain.head? = some proc := by rw [chain]; rfl
  by_cases isWait : proc = .picWait
  · subst isWait
    apply pictureWaitProcess_at paced popped
    intro index value reply
    exact ⟨fun isBusiness => determined.record next isBusiness index value reply,
      determined.handedOn next⟩
  · rw [moduleProcess_withUninit runs.env uninit isWait]
    have written := determined.writesSame same next
    exact moduleProcess_at runs.env isWait popped ⟨written.request, written.screenshot, written.score⟩

end Steps

/-! ## Runs -/

/-- The pool of either run has a session, at the same point. -/
inductive PendingBeside (runs : Runs) : Pending → Pending → Prop where
  | queued (session : Session) (contents : Contents) (same : SameInput runs.env session contents)
      (determined : Determined runs.env runs.first session) :
      PendingBeside runs (.queued session) (.queued (session.vary contents))
  | requested (session : Session) (contents : Contents) (procType : ProcType) (request : RequestInfo)
      (later : procType ≠ .picWait) (same : SameInput runs.env session contents)
      (score : Settled runs.env runs.first runs.respond (.sendRequest session procType request)) :
      PendingBeside runs (.requested session procType request)
        (.requested (session.vary contents) procType request)
  | ended : PendingBeside runs .ended .ended

section Course

variable {runs : Runs} {uninit : Uninit}

theorem PendingBeside.watch {pending other : Pending} {first second : FlowCall}
    {answers : first.Answer → second.Answer → Prop} {answer : first.Answer} {otherAnswer : second.Answer}
    (together : Beside runs first second answers) (related : answers answer otherAnswer)
    (beside : PendingBeside runs pending other) :
    PendingBeside runs (pending.watch first) (other.watch second) := by
  cases together with
  | plain _ isPlain => cases first <;> first | exact beside | cases isPlain
  | pushMsg session contents same => exact .queued session contents same related
  | sendRequest session contents procType request later same =>
    exact .requested session contents procType request later same related
  | final => exact .ended
  | _ => exact beside

theorem observed_beside {α : Type} {post : α → α → Prop} {program second : FlowProg α}
    (coupled : Prog.Coupled (Beside runs) post program second) :
    Prog.Coupled (Beside runs) (fun result resultSecond => PendingBeside runs result.2 resultSecond.2)
      (program.observed Pending.watch .ended) (second.observed Pending.watch .ended) := by
  refine (Prog.Coupled.observed coupled ?_ PendingBeside.ended).mono fun _ _ kept => kept.2
  intro pending other first second answers answer otherAnswer together related beside
  exact beside.watch together related

theorem course_beside (paced : runs.Paced) (steps : Nat) {pending other : Pending}
    (beside : PendingBeside runs pending other) :
    Prog.Coupled (Beside runs) (PendingBeside runs) (course runs.env runs.respond steps pending)
      (course (runs.env.withUninit uninit) runs.respond steps other) := by
  induction steps generalizing pending other with
  | zero => exact .ret beside
  | succ steps inductionHypothesis =>
    cases beside with
    | ended => exact .ret .ended
    | queued session contents same determined =>
      have processed : AlikeAt (inputKinship runs) session contents Eq (sessionProcess runs.env)
          (sessionProcess (runs.env.withUninit uninit)) := sessionProcess_beside paced same determined
      apply (observed_beside processed).bind
      intro result resultSecond beside
      exact inductionHypothesis beside
    | requested session contents procType request later same score =>
      have answered : Alike (inputKinship runs)
          (requestCallback runs.env procType (runs.respond steps request))
          (requestCallback (runs.env.withUninit uninit) procType (runs.respond steps request)) := by
        rw [requestCallback_withUninit]
        apply requestCallback_alike runs.env later
        rintro response answered rfl
        exact score steps response answered
      apply (observed_beside (at_alike same answered)).bind
      intro result resultSecond beside
      exact inductionHypothesis beside

end Course

/-! ## What the runs send out -/

/-- The HTTP requests. -/
def requestsOf (calls : List FlowCall) : List RequestInfo :=
  calls.filterMap fun
    | .sendRequest _ _ request => some request
    | _ => none

/-- The same requests and records, and the same updates up to the clock. -/
structure SameOutputs (first second : List FlowCall) : Prop where
  requests : requestsOf first = requestsOf second
  updates : List.Forall₂ UpdateAlike (updatesOf first) (updatesOf second)
  records : recordsOf first = recordsOf second

theorem sameOutputs_of_beside {runs : Runs} {first second : List FlowCall}
    (beside : List.Forall₂ (fun call other => ∃ answers, Beside runs call other answers) first second) :
    SameOutputs first second := by
  induction beside with
  | nil => exact ⟨rfl, .nil, rfl⟩
  | @cons request other _ _ together _ inductionHypothesis =>
    obtain ⟨answers, together⟩ := together
    obtain ⟨requests, updates, records⟩ := inductionHypothesis
    cases together with
    | updateOne collection filter set other alike =>
      exact ⟨requests, .cons ⟨rfl, rfl, alike⟩ updates, records⟩
    | sendRequest session contents procType request =>
      exact ⟨congrArg (request :: ·) requests, updates, records⟩
    | plain _ isPlain =>
      cases request with
      | produce topic data => exact ⟨requests, updates, congrArg ((topic, data) :: ·) records⟩
      | tryAcquire | findOne | topicHandle | poll => exact ⟨requests, updates, records⟩
      | _ => cases isPlain
    | _ => exact ⟨requests, updates, records⟩

/-- The runs get the same answers from Mongo, Redis and the producer, and the clock lets the lock be
    tried as long. -/
structure Runs.SameAnswers (runs : Runs) : Prop where
  plain : ∀ index (request : FlowCall), request.isPlain →
    runs.first index request = runs.second index request
  redisGet : ∀ index key, runs.first index (.redisGet key) = runs.second index (.redisGet key)
  redisSet : ∀ index key data other milliseconds nx,
    runs.first index (.redisSet key data milliseconds nx) =
      runs.second index (.redisSet key other milliseconds nx)
  redisUnlock : ∀ index key data,
    runs.first index (.redisUnlock key data) = runs.second index (.redisUnlock key data)
  updateOne : ∀ index collection filter set other, ClockAlike set other →
    runs.first index (.updateOne collection filter set) =
      runs.second index (.updateOne collection filter other)
  paced : runs.Paced

/-- The JSON readers take no notice of the bytes that follow the payload, and the answer that a waiting
    payload is released with gives the score. -/
def Input.Determines (env : Env) : Input → Prop
  | kafka data payload => ∀ tail, SameText env (data.inMemory payload []) (data.inMemory payload tail)
  | redis _ picResult => GivesScore env personCodes picResult

theorem start_beside {runs : Runs} {uninit : Uninit} {input : Input} (text : input.Determines runs.env)
    (tail otherTail : List Char) :
    Prog.Coupled (Beside runs) Eq (input.start runs.env tail)
      (input.start (runs.env.withUninit uninit) otherTail) := by
  cases input with
  | kafka data payload =>
    have sameText : SameText runs.env (data.inMemory payload tail) (data.inMemory payload otherTail) :=
      ⟨(text otherTail).read.trans (text tail).read.symm,
        (text otherTail).parse.trans (text tail).parse.symm⟩
    exact processMessage_beside sameText
  | redis payload picResult => exact (handleFromRedis_beside payload text).bind fun _ _ _ => .ret rfl

theorem messageRun_beside {runs : Runs} {uninit : Uninit} {input : Input} (paced : runs.Paced)
    (text : input.Determines runs.env) (tail otherTail : List Char) (steps : Nat) :
    Prog.Coupled (Beside runs) (PendingBeside runs) (messageRun runs.env runs.respond steps tail input)
      (messageRun (runs.env.withUninit uninit) runs.respond steps otherTail input) := by
  apply (observed_beside (start_beside text tail otherTail)).bind
  intro result resultSecond beside
  exact course_beside paced steps beside

/-- The outputs of a message depend on its inputs alone.  Two runs for one message, with the same
    answers but with other bytes behind the payload and other contents in the members that no
    constructor initialises, send out the same, as long as the payload is a text of its own and every
    step has read what it writes. -/
theorem outputs_of_inputs (runs : Runs) (answers : runs.SameAnswers) (uninit : Uninit) (input : Input)
    (text : input.Determines runs.env) (tail otherTail : List Char) (steps : Nat)
    (settled : ∀ call ∈ (messageRun runs.env runs.respond steps tail input).calls runs.first 0,
      Settled runs.env runs.first runs.respond call) :
    SameOutputs ((messageRun runs.env runs.respond steps tail input).calls runs.first 0)
      ((messageRun (runs.env.withUninit uninit) runs.respond steps otherTail input).calls runs.second 0) := by
  have coupled : Prog.Coupled (Beside runs) (PendingBeside runs)
      (messageRun runs.env runs.respond steps tail input)
      (messageRun (runs.env.withUninit uninit) runs.respond steps otherTail input) :=
    messageRun_beside answers.paced text tail otherTail steps
  apply sameOutputs_of_beside
  apply coupled.calls_of_made _ 0 settled
  intro index first second related together made
  cases together with
  | plain _ isPlain => exact answers.plain index _ isPlain
  | time | makeShared => trivial
  | now => exact ⟨index, rfl, rfl⟩
  | redisGet key => exact ⟨answers.redisGet index key, index, rfl⟩
  | redisSet => exact answers.redisSet index _ _ _ _ _
  | redisUnlock => exact answers.redisUnlock index _ _
  | updateOne collection filter set other alike => exact answers.updateOne index _ _ _ _ alike
  | pushMsg | sendRequest => exact made
  | sleepFor | storeDone | final | destroy => rfl

/-! ## A score without an answer, and a payload that goes on -/

/-- A business message of type 1, and an answer that says how similar its person is. -/
def countMessage : String :=
  "\x7b\"data\":\x7b\"app_id\":\"a\",\"did\":\"d\",\"payload\":\"\x7b\\\"event\\\":\x7b\\\"msg_type\\\":1\x7d\x7d\",\"ptype\":32\x7d,\"msg_id\":\"m\"\x7d"

def scoredAnswer : String :=
  "\x7b\"error_code\":0,\"result\":\x7b\"person_result\":\x7b\"id\":\"p\",\"slimilar\":0.5\x7d,\"track_result\":\x7b\x7d\x7d\x7d"

def scoredPerson : Json := .object [("id", .string "p"), ("slimilar", .real (1 / 2))]

def scoredBody : Json :=
  .object [("error_code", .int 0),
    ("result", .object [("person_result", scoredPerson), ("track_result", .object [])])]

def inputTable : List (String × Json) :=
  [(businessMessage, messageJson "\x7b\"event\":\x7b\"msg_type\":2\x7d\x7d" 32),
    ("\x7b\"event\":\x7b\"msg_type\":2\x7d\x7d", .object [("event", .object [("msg_type", .int 2)])]),
    (countMessage, messageJson "\x7b\"event\":\x7b\"msg_type\":1\x7d\x7d" 32),
    ("\x7b\"event\":\x7b\"msg_type\":1\x7d\x7d", .object [("event", .object [("msg_type", .int 1)])]),
    (scoredAnswer, scoredBody)]

/-- Every command succeeds, and no request is answered. -/
def inputRuns : Runs where
  env := {
    text := tableText inputTable
    conf := { getValue := fun _ _ => some "/", getIntValue := fun _ _ => none }
    uninit := { timestamp := 0, similar := 0 } }
  respond _ _ := none
  first _ := FlowCall.succeed
  second _ := FlowCall.succeed

/-- The members hold other values in the second run. -/
def otherUninit : Uninit where
  timestamp := 1
  similar := 1
  eventType := 1
  msgType := 1
  eventTime := 1
  trackId := 1

theorem inputRuns_sameAnswers : inputRuns.SameAnswers where
  plain _ _ _ := rfl
  redisGet _ _ := rfl
  redisSet _ _ _ _ _ _ := rfl
  redisUnlock _ _ _ := rfl
  updateOne _ _ _ _ _ _ := rfl
  paced _ _ := Iff.rfl

/-- What is read before a byte 0 ends there. -/
theorem cString_ended (text tail : List Char) (ended : '\x00' ∈ text) :
    cString (text ++ tail) = cString text := by
  rw [cString, cString, List.takeWhile_append]
  have short : (text.takeWhile fun byte => byte ≠ '\x00').length ≠ text.length := by
    intro same
    have whole := (List.takeWhile_prefix _).eq_of_length same
    have nonzero := List.takeWhile_eq_self_iff.mp whole _ ended
    simp at nonzero
  rw [if_neg short]

/-- A check that suffices for a queued session: no answer has a part in its next step. -/
def Session.assigned (session : Session) : Bool :=
  match session.procChain.head? with
  | some .traceSpace => false
  | some .businessSave | some .outputKafka =>
    decide (session.kafkaData.dataClass ≠ .screenshot) &&
      (!session.writesScore || !session.personResult.personAttributes.isEmpty)
  | some .picWait => false
  | _ => true

def FlowCall.assigned : FlowCall → Bool
  | .pushMsg session => session.assigned
  | .sendRequest _ .traceSpace _ => false
  | _ => true

theorem determined_of_assigned (env : Env) (answer : Answers) {session : Session}
    (assigned : session.assigned = true) : Determined env answer session := by
  rw [Session.assigned] at assigned
  cases next : session.procChain.head? with
  | none => constructor <;> simp [next]
  | some proc =>
    rw [next] at assigned
    cases proc with
    | traceSpace | picWait => cases assigned
    | businessSave | outputKafka =>
      simp only [Bool.and_eq_true, decide_eq_true_eq, Bool.or_eq_true, Bool.not_eq_true'] at assigned
      obtain ⟨notScreenshot, scored⟩ := assigned
      constructor
      case request => simp [next]
      case screenshot => exact fun _ isScreenshot => absurd isScreenshot notScreenshot
      case score =>
        intro _ writes noAttributes
        rw [writes, noAttributes] at scored
        simp at scored
      case record => simp [next]
      case handedOn => simp [next]
    | downloadImage | generateUrl | getPlugin => constructor <;> simp [next]

theorem settled_of_assigned (env : Env) (answer : Answers)
    (respond : Nat → RequestInfo → Option HttpResponse) {calls : List FlowCall}
    (assigned : calls.all FlowCall.assigned = true) : ∀ call ∈ calls, Settled env answer respond call := by
  intro call member
  have check := List.all_eq_true.mp assigned call member
  cases call with
  | pushMsg session => exact determined_of_assigned env answer check
  | sendRequest session procType request =>
    cases procType with
    | traceSpace => cases check
    | _ => trivial
  | _ => trivial

def messageNode : PmPtr := ⟨0, 0, ⟨"gzc", 0, 0, ""⟩⟩

/-- A message whose text ends in its payload, and a payload that waited for an answer with a score. -/
def endedMessage : Input := .kafka messageNode (countMessage.toList ++ ['\x00'])

def scoredMessage : Input := .redis businessMessage scoredAnswer

/-- The calls of a run with the values of the members and the bytes behind the payload. -/
def inputCalls (uninit : Uninit) (tail : List Char) (input : Input) : List FlowCall :=
  (messageRun (inputRuns.env.withUninit uninit) inputRuns.respond 3 tail input).calls inputRuns.first 0

theorem endedMessage_determines : endedMessage.Determines inputRuns.env := by
  intro tail
  have ended : '\x00' ∈ countMessage.toList ++ ['\x00'] := List.mem_append_right _ List.mem_cons_self
  have same : messageNode.inMemory (countMessage.toList ++ ['\x00']) tail =
      messageNode.inMemory (countMessage.toList ++ ['\x00']) [] := by
    rw [PmPtr.inMemory, PmPtr.inMemory, cString_ended _ tail ended, List.append_nil]
  rw [same]
  exact ⟨rfl, rfl⟩

theorem scoredMessage_determines : scoredMessage.Determines inputRuns.env := by
  intro bodyJv person parsed isPerson
  have read : inputRuns.env.text.parseJson scoredAnswer = some scoredBody := by rfl
  obtain rfl := Option.some.inj (read.symm.trans parsed)
  have names : personOf personCodes scoredBody = some scoredPerson := by rfl
  obtain rfl := Option.some.inj (names.symm.trans isPerson)
  rfl

set_option maxRecDepth 16000 in
theorem outputs_of_inputs_messages :
    SameOutputs (inputCalls inputRuns.env.uninit [] endedMessage)
        (inputCalls otherUninit ['\x7d', '\x00'] endedMessage) ∧
      SameOutputs (inputCalls inputRuns.env.uninit [] scoredMessage)
        (inputCalls otherUninit [] scoredMessage) :=
  ⟨outputs_of_inputs inputRuns inputRuns_sameAnswers otherUninit endedMessage endedMessage_determines []
      ['\x7d', '\x00'] 3 (settled_of_assigned _ _ _ (by rfl)),
    outputs_of_inputs inputRuns inputRuns_sameAnswers otherUninit scoredMessage scoredMessage_determines []
      [] 3 (settled_of_assigned _ _ _ (by rfl))⟩

theorem ClockAlike.lookup {first second : Document} (alike : ClockAlike first second) {name : String}
    (isData : name ∉ clockFields) : first.lookup name = second.lookup name := by
  induction alike with
  | nil => rfl
  | @cons field other _ _ same _ inductionHypothesis =>
    obtain ⟨key, value⟩ := field
    obtain ⟨otherKey, otherValue⟩ := other
    obtain ⟨⟨⟩⟩ | ⟨sameKey, isClock⟩ := same
    · rw [List.lookup_cons, List.lookup_cons, inductionHypothesis]
    · obtain rfl : key = otherKey := sameKey
      have different : (name == key) = false := by
        rw [beq_eq_false_iff_ne]
        rintro rfl
        exact isData isClock
      rw [List.lookup_cons, List.lookup_cons, different, inductionHypothesis]

/-- The scores that are stored. -/
def scoresOf (calls : List FlowCall) : List (Option Bson) :=
  (updatesOf calls).map fun update => update.set.lookup "score"

theorem SameOutputs.scores {first second : List FlowCall} (same : SameOutputs first second) :
    scoresOf first = scoresOf second := by
  have isData : "score" ∉ clockFields := by decide
  have alike := same.updates
  rw [scoresOf, scoresOf]
  generalize updatesOf first = updates at alike ⊢
  generalize updatesOf second = others at alike ⊢
  induction alike with
  | nil => rfl
  | cons head _ inductionHypothesis => simp only [List.map_cons, head.set.lookup isData, inductionHypothesis]

/-- A capture that passes the picture wait without an answer, and a payload without its last bracket. -/
def captureInput : Input := .kafka messageNode businessMessage.toList

def openInput : Input := .kafka messageNode businessMessage.toList.dropLast

set_option maxRecDepth 16000 in
/-- The capture is stored with the score that its object happened to hold, and what follows the other
    payload makes a message of it. -/
theorem outputs_not_of_inputs :
    inputRuns.SameAnswers ∧
      ¬SameOutputs (inputCalls inputRuns.env.uninit ['\x00'] captureInput)
        (inputCalls otherUninit ['\x00'] captureInput) ∧
      ¬SameOutputs (inputCalls inputRuns.env.uninit ['\x00'] openInput)
        (inputCalls inputRuns.env.uninit ['\x7d', '\x00'] openInput) := by
  refine ⟨inputRuns_sameAnswers, fun same => ?_, fun same => ?_⟩
  · have found : scoresOf (inputCalls inputRuns.env.uninit ['\x00'] captureInput) = [some (.double 0)] := by
      rfl
    have other : scoresOf (inputCalls otherUninit ['\x00'] captureInput) = [some (.double 1)] := by rfl
    have scores := same.scores
    rw [found, other] at scores
    simp at scores
  · have found : scoresOf (inputCalls inputRuns.env.uninit ['\x00'] openInput) = [] := by rfl
    have other : scoresOf (inputCalls inputRuns.env.uninit ['\x7d', '\x00'] openInput) =
        [some (.double 0)] := by
      rfl
    have scores := same.scores
    rw [found, other] at scores
    cases scores

end XBusiness
