import XBusiness.Workflow.Rendezvous
import XBusiness.Workflow.Twins

/-! # The order in which a capture and its trace answer arrive

A business capture that reaches the picture wait first is stored, and goes on as the session
that `handleFromRedis` makes of its payload; one that comes after the trace answer goes on
itself.  The two sessions are twins.

* `pictureWait_meets` — the whole step of a session at the picture wait.
* `arrival_order` — either way the capture goes on with the same steps, results and calls.
-/

namespace XBusiness

open Interaction
open Interaction.Prog (handled handled_bind)

/-! ## The step at the picture wait -/

/-- What `PictureWaitModule::Process` does with the result. -/
def endOfWait (outcome : PictureWaitResult × Session) : FlowProg (Unit × Session) :=
  match outcome.1 with
  | .wait => (final .success).run outcome.2
  | .pass => pushOrFinal.run outcome.2

theorem final_makes (err : ErrCode) (session : Session) :
    ((final err).run session).Makes FlowCall.isSessionCall fun _ => True := by
  show Prog.Makes _ _ (StateT.run (if session.isFinished = true then _ else _) session)
  split
  · trivial
  · exact ⟨trivial, fun _ => trivial⟩

theorem pushOrFinal_makes (session : Session) :
    (pushOrFinal.run session).Makes FlowCall.isSessionCall fun _ => True := by
  show Prog.Makes _ _ (StateT.run (if decide (session.procChain ≠ []) = true then _ else _) session)
  split
  · exact ⟨trivial, fun _ => trivial⟩
  · exact final_makes .success session

theorem pushOrFinal_run (session : Session) (unfinished : session.procChain ≠ []) :
    pushOrFinal.run session = .call (.pushMsg session) fun _ => .ret ((), session) := by
  show StateT.run (if decide (session.procChain ≠ []) = true then _ else _) session = _
  rw [if_pos (decide_eq_true unfinished)]
  rfl

theorem endOfWait_makes (outcome : PictureWaitResult × Session) :
    (endOfWait outcome).Makes FlowCall.isSessionCall fun _ => True := by
  obtain ⟨result, session⟩ := outcome
  cases result with
  | wait => exact final_makes .success session
  | pass => exact pushOrFinal_makes session

/-- The session without the step that it is about to make. -/
def Session.popped (session : Session) (rest : List ProcType) : Session := { session with procChain := rest }

theorem CanVisit.popped {env : Env} {session : Session} (canVisit : CanVisit env session)
    (rest : List ProcType) : CanVisit env (session.popped rest) := by
  cases canVisit with
  | business data parsed node kind parses => exact .business data parsed node kind parses
  | trace data response before after node kind accepted body =>
    exact .trace data response before after node kind accepted body

/-- The step of a session whose next module is the picture wait. -/
theorem pictureWait_meets {env : Env} {key : String} (nonempty : key ≠ "") {arrival : Arrival}
    {rest : List ProcType} (chain : arrival.session.procChain = .picWait :: rest)
    (arrives : Arrives env key arrival) (meeting : Meeting)
    (back : ∀ record, meeting.record = some record → ReadsBack env record)
    (readable : meeting.Readable env) :
    ∃ now, ((sessionProcess env).run arrival.session).handled (KeyStore.answer key)
        ⟨meeting.stored env, arrival.refusals, arrival.start⟩ =
      dispatchAll env (meeting.released arrival.visit) >>= fun _ =>
        endOfWait (outcomeAfter env meeting.first arrival.visit (arrival.session.popped rest)) >>=
          fun result => .ret (result, ⟨(meeting.visit arrival.visit).stored env, [], now⟩) := by
  obtain ⟨keyed, canVisit, inTime⟩ := arrives
  have keyedPopped : (arrival.session.popped rest).kafkaData.getPicWaitKey = key := keyed
  obtain ⟨now, met⟩ := getResultOfWait_meets nonempty keyedPopped (canVisit.popped rest) arrival.start
    inTime meeting back readable
  refine ⟨now, ?_⟩
  rw [sessionProcess_cons chain]
  show handled _ (StateT.run (pictureWaitProcess env) (arrival.session.popped rest)) _ = _
  unfold pictureWaitProcess
  rw [StateT.run_bind, handled_bind, met, bind_assoc]
  congr 1
  funext _
  have visit : (arrival.session.popped rest).visit = arrival.visit := rfl
  rw [visit]
  generalize outcomeAfter env meeting.first arrival.visit (arrival.session.popped rest) = outcome
  have ends (store : KeyStore) := Prog.handled_of_unanswered (endOfWait_makes outcome) store
    (KeyStore.answer_sessionCall key store)
  obtain ⟨result, after⟩ := outcome
  cases result <;> exact ends _

/-! ## The two orders -/

/-- Two sessions at the picture wait of one key, one after the other, from an empty key on. What
    remains are the calls by which sessions are made, pushed and finalised. -/
def bothVisit (env : Env) (key : String) (first second : Arrival) : FlowProg Unit := do
  let (_, store) ← ((sessionProcess env).run first.session).handled (KeyStore.answer key)
    ⟨none, first.refusals, first.start⟩
  let _ ← ((sessionProcess env).run second.session).handled (KeyStore.answer key)
    ⟨store.record, second.refusals, second.start⟩
  return ()

theorem bothVisit_eq {env : Env} {key : String} {first second : Arrival} {store last : KeyStore}
    {firstProgram secondProgram : FlowProg (Unit × Session)}
    (ranFirst : ((sessionProcess env).run first.session).handled (KeyStore.answer key)
      ⟨none, first.refusals, first.start⟩ = firstProgram >>= fun result => .ret (result, store))
    (ranSecond : ((sessionProcess env).run second.session).handled (KeyStore.answer key)
      ⟨store.record, second.refusals, second.start⟩ = secondProgram >>= fun result => .ret (result, last)) :
    bothVisit env key first second = firstProgram >>= fun _ => secondProgram >>= fun _ => .ret () := by
  unfold bothVisit
  rw [ranFirst, bind_assoc]
  congr 1
  funext result
  show (handled _ _ _ >>= fun _ => _) = _
  rw [ranSecond, bind_assoc]
  rfl

/-- A business capture with the key, and the data that `handle` parses from it. -/
structure IsCapture (env : Env) (key : String) (data : PmPtr) (kafkaData : BaseData) : Prop where
  parses : parseMessage env (some data) data.msg.payload = .ok (some kafkaData)
  kind : kafkaData.payloadType = PayloadType.business
  msgType : kafkaData.event.msgType = MsgType.businessCapture
  keyed : kafkaData.getPicWaitKey = key

/-- The session that `handle` made of the capture comes to the picture wait. -/
structure CaptureArrives (env : Env) (kafkaData : BaseData) (arrival : Arrival) : Prop where
  made : arrival.session = .make env arrival.session.ref kafkaData
  inTime : refusedTime arrival.refusals < redlockAcquireTimeout

/-- A trace session with the answer comes to the picture wait. -/
structure TraceArrives (env : Env) (key body : String) (rest : List ProcType) (arrival : Arrival) :
    Prop where
  arrives : Arrives env key arrival
  visit : arrival.visit = .trace body
  chain : arrival.session.procChain = .picWait :: rest

/-- The steps of a capture after the picture wait. -/
def stepsAfterWait : List ProcType := [.getPlugin, .businessSave, .generateUrl, .outputKafka]

/-- The session of a capture that was stored, and of one that was given the stored answer. -/
def storedSession (env : Env) (kafkaData : BaseData) (body : String) (ref : Nat) : Session :=
  givenBody env body (.make env ref kafkaData.fromRedis)

def givenSession (env : Env) (kafkaData : BaseData) (body : String) (ref : Nat) : Session :=
  givenBody env body ((Session.make env ref kafkaData).popped stepsAfterWait)

section Capture

variable {env : Env} {key : String} {data : PmPtr} {kafkaData : BaseData}

theorem IsCapture.origin (capture : IsCapture env key data kafkaData) :
    kafkaData.dataClass = .business ∧ kafkaData.src = .kafka ∧ kafkaData.data = some data := by
  have made := parseMessage_madeFor env (some data) data.msg.payload _ capture.parses kafkaData rfl
  simp only [BaseData.origin, Prod.mk.injEq] at made
  obtain ⟨-, payloadType, src, node⟩ := made
  refine ⟨?_, src, node⟩
  rw [capture.kind] at payloadType
  cases dataClass : kafkaData.dataClass with
  | business => rfl
  | _ =>
    rw [dataClass] at payloadType
    exact absurd payloadType (by decide)

theorem IsCapture.chain (capture : IsCapture env key data kafkaData) :
    makeProcessChain kafkaData = .picWait :: stepsAfterWait := by
  obtain ⟨dataClass, src, -⟩ := capture.origin
  simp [makeProcessChain, dataClass, businessChain, capture.msgType, src, stepsAfterWait]

theorem IsCapture.chainFromRedis (capture : IsCapture env key data kafkaData) :
    makeProcessChain kafkaData.fromRedis = stepsAfterWait := by
  obtain ⟨dataClass, -, -⟩ := capture.origin
  simp [makeProcessChain, BaseData.fromRedis, dataClass, businessChain, capture.msgType, stepsAfterWait]

theorem CaptureArrives.arrives (capture : IsCapture env key data kafkaData) {arrival : Arrival}
    (arrived : CaptureArrives env kafkaData arrival) :
    Arrives env key arrival ∧ arrival.visit = .business data.msg.payload ∧
      arrival.session.procChain = .picWait :: stepsAfterWait := by
  obtain ⟨-, -, node⟩ := capture.origin
  have same : arrival.session.kafkaData = kafkaData := by rw [arrived.made]; rfl
  refine ⟨⟨?_, ?_, arrived.inTime⟩, ?_, ?_⟩
  · rw [same, capture.keyed]
  · exact .business data kafkaData (same ▸ node) (same ▸ capture.kind) capture.parses
  · exact Session.visit_business (same ▸ node) (same ▸ capture.kind)
  · rw [arrived.made]
    exact capture.chain

theorem givenBody_eq {body : String} {answer : TraceAnswer} (reads : answer.ReadFrom env body)
    (session : Session) :
    givenBody env body session = if answer.code = 0 then answer.giveTo session else session := by
  have ran : (getPersonResult env body).run session = _ := reads (· = 0) session
  unfold givenBody
  rw [ran]
  simp only [decide_eq_true_eq]
  split <;> rfl

theorem givenBody_relink {body : String} {answer : TraceAnswer} (reads : answer.ReadFrom env body)
    (session : Session) (ref : Nat) (src : Source) (node : Option PmPtr) :
    givenBody env body (session.relink ref src node) = (givenBody env body session).relink ref src node := by
  rw [givenBody_eq reads, givenBody_eq reads]
  split <;> rfl

theorem givenBody_chain {body : String} {answer : TraceAnswer} (reads : answer.ReadFrom env body)
    (session : Session) : (givenBody env body session).procChain = session.procChain := by
  rw [givenBody_eq reads]
  split <;> rfl

theorem givenSession_eq (capture : IsCapture env key data kafkaData) (body : String)
    {answer : TraceAnswer} (reads : answer.ReadFrom env body) (ref other : Nat) :
    givenSession env kafkaData body other =
      (storedSession env kafkaData body ref).relink other .kafka (some data) := by
  obtain ⟨-, src, node⟩ := capture.origin
  have made : (Session.make env other kafkaData).popped stepsAfterWait =
      (Session.make env ref kafkaData.fromRedis).relink other .kafka (some data) := by
    simp only [Session.make, Session.popped, Session.relink, capture.chainFromRedis]
    rw [← src, ← node]
    rfl
  unfold givenSession storedSession
  rw [made, givenBody_relink reads]

/-- The two sessions of a capture are twins. -/
theorem stored_twins_given (capture : IsCapture env key data kafkaData) (body : String)
    {answer : TraceAnswer} (reads : answer.ReadFrom env body) (ref other : Nat) :
    Twins (storedSession env kafkaData body ref) (givenSession env kafkaData body other) where
  relinked := ⟨other, .kafka, some data, givenSession_eq capture body reads ref other⟩
  waited := by
    have chain : (storedSession env kafkaData body ref).procChain = stepsAfterWait :=
      (givenBody_chain reads _).trans capture.chainFromRedis
    rw [chain]
    decide

variable {body : String} {answer : TraceAnswer} {rest : List ProcType} {captureArr traceArr : Arrival}

/-- The capture first: it is stored and ends, and the trace session hands its payload to
    `handleFromRedis`. -/
theorem bothVisit_captureFirst (nonempty : key ≠ "") (capture : IsCapture env key data kafkaData)
    (reads : ReadsRecords env [.business data.msg.payload, .trace body])
    (readFrom : answer.ReadFrom env body) (code : answer.code = 0)
    (captured : CaptureArrives env kafkaData captureArr)
    (traced : TraceArrives env key body rest traceArr) :
    bothVisit env key captureArr traceArr = (do
      let _ ← (final .success).run (captureArr.session.popped stepsAfterWait)
      let ref ← Prog.perform (FlowCall.makeShared kafkaData.fromRedis)
      Prog.perform (FlowCall.pushMsg (storedSession env kafkaData body ref))
      let _ ← pushOrFinal.run (traceArr.session.popped rest)
      return ()) := by
  obtain ⟨arrives, visit, chain⟩ := captured.arrives capture
  obtain ⟨now, first⟩ := pictureWait_meets nonempty chain arrives (.waiting []) (by simp [Meeting.record])
    (by rintro _ ⟨⟩)
  obtain ⟨later, second⟩ := pictureWait_meets nonempty traced.chain traced.arrives
    (.waiting [data.msg.payload]) (by
      rintro _ ⟨⟩
      exact reads.business _ (List.cons_ne_nil _ _) (List.prefix_refl _))
    (by rintro _ ⟨⟩)
  rw [visit] at first
  rw [traced.visit] at second
  rw [← bind_assoc] at first second
  -- the capture waits; the trace answer dispatches its payload, and goes on
  refine (bothVisit_eq first second).trans ?_
  show ((final .success).run _ >>= fun _ => _) = _
  congr 1
  funext _
  show ((handleFromRedis env data.msg.payload body >>= fun _ => .ret ()) >>= fun _ => pushOrFinal.run _) >>= _ = _
  -- the payload is read again, now as one that comes from Redis
  have reparsed : parseMessage env none data.msg.payload = .ok (some kafkaData.fromRedis) := by
    rw [parseMessage_fromRedis env (some data), capture.parses]
    rfl
  have stored (ref : Nat) : storedSession env kafkaData body ref =
      answer.giveTo (.make env ref kafkaData.fromRedis) := by
    rw [storedSession, givenBody_eq readFrom, if_pos code]
  rw [handleFromRedis_eq reparsed readFrom]
  refine congrArg (Prog.call (FlowCall.makeShared kafkaData.fromRedis)) (funext fun ref => ?_)
  show _ = Prog.call (FlowCall.pushMsg (storedSession env kafkaData body ref)) _
  rw [stored]
  dsimp only
  rw [if_pos code]
  rfl

/-- The trace answer first: it is stored, and the capture is given it. -/
theorem bothVisit_traceFirst (nonempty : key ≠ "") (capture : IsCapture env key data kafkaData)
    (reads : ReadsRecords env [.business data.msg.payload, .trace body])
    (readFrom : answer.ReadFrom env body)
    (captured : CaptureArrives env kafkaData captureArr)
    (traced : TraceArrives env key body rest traceArr) :
    bothVisit env key traceArr captureArr = (do
      let _ ← pushOrFinal.run (traceArr.session.popped rest)
      Prog.perform (FlowCall.pushMsg (givenSession env kafkaData body captureArr.session.ref))
      return ()) := by
  obtain ⟨arrives, visit, chain⟩ := captured.arrives capture
  obtain ⟨now, first⟩ := pictureWait_meets nonempty traced.chain traced.arrives (.waiting [])
    (by simp [Meeting.record]) (by rintro _ ⟨⟩)
  obtain ⟨later, second⟩ := pictureWait_meets nonempty chain arrives (.traced body) (by
      rintro _ ⟨⟩
      exact reads.trace body (by simp))
    (by
      rintro _ ⟨⟩
      exact ⟨answer, readFrom⟩)
  rw [traced.visit] at first
  rw [visit] at second
  rw [← bind_assoc] at first second
  -- the trace answer goes on; the capture reads it and goes on itself
  refine (bothVisit_eq first second).trans ?_
  show (pushOrFinal.run _ >>= fun _ => _) = _
  congr 1
  funext _
  have chainAfter : (givenSession env kafkaData body captureArr.session.ref).procChain = stepsAfterWait :=
    givenBody_chain readFrom _
  have given : givenBody env body (captureArr.session.popped stepsAfterWait) =
      givenSession env kafkaData body captureArr.session.ref := by
    rw [givenSession, captured.made]
    rfl
  show (pushOrFinal.run (givenBody env body (captureArr.session.popped stepsAfterWait)) >>= fun _ => _) = _
  rw [given, pushOrFinal_run _ (by rw [chainAfter]; decide)]
  rfl

end Capture

/-- A capture and a trace answer of error code 0 with one key, in either order.  The capture goes
    on as `storedSession` or as `givenSession`; both have the same steps before them and the same
    results, and whatever the answers are, if they are the same for both, then so are the Kafka
    records and, up to the clock, the updates of Mongo. -/
theorem arrival_order (env : Env) (key : String) (nonempty : key ≠ "") (data : PmPtr)
    (kafkaData : BaseData) (capture : IsCapture env key data kafkaData) (body : String)
    (code : errorCode env body = some 0)
    (reads : ReadsRecords env [.business data.msg.payload, .trace body]) (rest : List ProcType)
    (captureFirst traceLast traceFirst captureLast : Arrival)
    (capturedFirst : CaptureArrives env kafkaData captureFirst)
    (tracedLast : TraceArrives env key body rest traceLast)
    (tracedFirst : TraceArrives env key body rest traceFirst)
    (capturedLast : CaptureArrives env kafkaData captureLast) :
    bothVisit env key captureFirst traceLast = (do
        let _ ← (final .success).run (captureFirst.session.popped stepsAfterWait)
        let ref ← Prog.perform (FlowCall.makeShared kafkaData.fromRedis)
        Prog.perform (FlowCall.pushMsg (storedSession env kafkaData body ref))
        let _ ← pushOrFinal.run (traceLast.session.popped rest)
        return ()) ∧
      bothVisit env key traceFirst captureLast = (do
        let _ ← pushOrFinal.run (traceFirst.session.popped rest)
        Prog.perform (FlowCall.pushMsg (givenSession env kafkaData body captureLast.session.ref))
        return ()) ∧
      ∀ ref other,
        (storedSession env kafkaData body ref).procChain = (givenSession env kafkaData body other).procChain ∧
        (storedSession env kafkaData body ref).trackResult =
          (givenSession env kafkaData body other).trackResult ∧
        (storedSession env kafkaData body ref).personResult =
          (givenSession env kafkaData body other).personResult ∧
        ∀ respond steps first second, AnswersAgree first second →
          let calls := (course env respond steps (.queued (storedSession env kafkaData body ref))).calls first 0
          let callsGiven :=
            (course env respond steps (.queued (givenSession env kafkaData body other))).calls second 0
          SideBySide calls callsGiven ∧ recordsOf calls = recordsOf callsGiven ∧
            List.Forall₂ UpdateAlike (updatesOf calls) (updatesOf callsGiven) := by
  obtain ⟨answer, found, readFrom⟩ := tracedLast.arrives.canVisit.readable tracedLast.visit
  have accepted : answer.code = 0 := Option.some.inj (found.symm.trans code)
  refine ⟨bothVisit_captureFirst nonempty capture reads readFrom accepted capturedFirst tracedLast,
    bothVisit_traceFirst nonempty capture reads readFrom capturedLast tracedFirst, fun ref other => ?_⟩
  have same := givenSession_eq capture body readFrom ref other
  refine ⟨?_, ?_, ?_, ?_⟩
  · rw [same]
    rfl
  · rw [same]
    rfl
  · rw [same]
    rfl
  · intro respond steps first second agree
    -- the two sessions differ in their identity alone, and their courses go on side by side
    have twins := PendingTwins.queued _ _ (stored_twins_given capture body readFrom ref other)
    have sideBySide := (course_alike env respond steps twins).calls agree 0
    exact ⟨sideBySide, SideBySide.records sideBySide, SideBySide.updates sideBySide⟩

/-- The trace session when the picture wait is its next step. -/
def traceAtWait : Arrival where
  session := traceArrival.session.popped [.picWait, .generateUrl, .outputKafka]
  start := 0
  refusals := []

theorem traceAtWait_arrives :
    TraceArrives meetingEnv "k" personAnswer [.generateUrl, .outputKafka] traceAtWait where
  arrives := ⟨traceArrival_arrives.keyed, traceArrival_arrives.canVisit.popped _, traceArrival_arrives.inTime⟩
  visit := rfl
  chain := rfl

theorem captureData_isCapture : IsCapture meetingEnv "k" captureNode captureData where
  parses := parse_captureMessage
  kind := rfl
  msgType := rfl
  keyed := by rfl

theorem captureArrival_made (ref : Nat) : CaptureArrives meetingEnv captureData (captureArrival ref) where
  made := rfl
  inTime := (captureArrival_arrives ref).inTime

theorem succeed_agree : AnswersAgree (fun _ => FlowCall.succeed) fun _ => FlowCall.succeed := by
  intro index request other answers together
  cases together <;> first | rfl | trivial

/-- Every request for urls is answered without content. -/
def answerEmpty (_ : Nat) (_ : RequestInfo) : Option HttpResponse := some ⟨"200 OK", ""⟩

set_option maxRecDepth 4000 in
theorem arrival_order_captureMessage :
    recordsOf ((course meetingEnv answerEmpty 5
        (.queued (storedSession meetingEnv captureData personAnswer 2))).calls (fun _ => FlowCall.succeed) 0) =
      [("/", answerRecord)] ∧
    recordsOf ((course meetingEnv answerEmpty 5
        (.queued (givenSession meetingEnv captureData personAnswer 0))).calls (fun _ => FlowCall.succeed) 0) =
      [("/", answerRecord)] := by
  have same := (arrival_order meetingEnv "k" (by decide) captureNode captureData captureData_isCapture
    personAnswer (by rfl)
    { business := fun payloads nonempty isPrefix => meetingEnv_reads.business payloads nonempty isPrefix
      trace := fun body member => meetingEnv_reads.trace body (by simpa using member) }
    [.generateUrl, .outputKafka] (captureArrival 0) traceAtWait traceAtWait (captureArrival 0)
    (captureArrival_made 0) traceAtWait_arrives traceAtWait_arrives (captureArrival_made 0)).2.2 2 0
  have records := (same.2.2.2 answerEmpty 5 _ _ succeed_agree).2.1
  have stored : recordsOf ((course meetingEnv answerEmpty 5
      (.queued (storedSession meetingEnv captureData personAnswer 2))).calls (fun _ => FlowCall.succeed) 0) =
        [("/", answerRecord)] := by
    rfl
  exact ⟨stored, records.symm.trans stored⟩

end XBusiness
