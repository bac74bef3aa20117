import XBusiness.Lib.StateProg
import XBusiness.Workflow.Modules

/-! # The itinerary of a session

Most functions of a step fill in the results of the session and do not touch what decides
where it goes next: who it is, its chain, the retries and the urls it has left, and the data
type that `GetPlugin` looks for.

* `Itinerary` — that part of a session.
* `SessionFn.Preserves` — the functions of the handler that leave a part of the session as it is.
* `FlowFills` — the functions that make quiet calls only and fill in results of their session.
-/

namespace XBusiness

open Interaction

/-- What names a session: its identity and the node it marks as done. -/
abbrev Entry := Nat × Option PmPtr

def Session.entry (session : Session) : Entry := (session.ref, session.kafkaData.data)

structure Itinerary where
  entry : Entry
  isFinished : Bool
  procChain : List ProcType
  httpRetryTime : Nat
  urlIndex : Nat
  urlCount : Nat
  payloadType : Int
  datatype : Int

def Session.itinerary (session : Session) : Itinerary where
  entry := session.entry
  isFinished := session.isFinished
  procChain := session.procChain
  httpRetryTime := session.httpRetryTime
  urlIndex := session.kafkaData.urlIndex
  urlCount := session.kafkaData.getUrlCount
  payloadType := session.kafkaData.payloadType
  datatype := session.kafkaData.plugin.datatype

/-- What no module changes of its session: who it is, whether it is finished, whether it has the
    picture wait before it, and the type of its payload. -/
structure Bearing where
  entry : Entry
  isFinished : Bool
  waits : Bool
  payloadType : Int

def Itinerary.bearing (itinerary : Itinerary) : Bearing where
  entry := itinerary.entry
  isFinished := itinerary.isFinished
  waits := itinerary.procChain.contains .picWait
  payloadType := itinerary.payloadType

def Session.bearing (session : Session) : Bearing := session.itinerary.bearing

/-- A session without the results that the modules fill in. -/
def Session.unfilled (session : Session) : Session := { session with
  currentType := none
  trackResult := {}
  personResult := { similar := 0 }
  saveMongoData := {} }

/-- The same without the answer of the trace space, which is stored by its callback. -/
def Session.unanswered (session : Session) : Session := { session.unfilled with traceSpaceResult := "" }

namespace FlowCall

/-- The calls to Mongo, to the Kafka producer and of the clock. -/
def isQuiet : FlowCall → Prop
  | tryAcquire | findOne _ _ | updateOne _ _ _ | time | topicHandle _ | produce _ _ | poll _ => True
  | _ => False

/-- A call that has nothing to do with the sessions of the pool. -/
def isOutside : FlowCall → Prop
  | storeDone _ | makeShared _ | pushMsg _ | sendRequest _ _ _ | final _ _ | destroy _ => False
  | _ => True

/-- The calls by which a session is made, handed to the pool, finalised or dropped. -/
def isSessionCall : FlowCall → Prop
  | makeShared _ | pushMsg _ | final _ _ | destroy _ => True
  | _ => False

theorem isOutside_of_quiet (request : FlowCall) (quiet : request.isQuiet) : request.isOutside := by
  cases request <;> first | exact trivial | cases quiet

end FlowCall

/-- What the pool has of a session between two steps: it is in the queue, or it waits for the
    response to a request, or it has ended. -/
inductive Pending where
  | queued (session : Session)
  | requested (session : Session) (procType : ProcType) (request : RequestInfo)
  | ended

/-! ## What a computation returns -/

/-- What a computation returns, if it returns, has the property. -/
def Returns {α : Type} (property : α → Prop) (value : Except Fault α) : Prop :=
  ∀ result, value = .ok result → property result

section Returns

variable {α β : Type} {property : α → Prop}

theorem Returns.pure {result : α} (holds : property result) :
    Returns property (Pure.pure result : Except Fault α) := by
  rintro _ ⟨⟩
  exact holds

theorem Returns.bind {value : Except Fault β} {continuation : β → Except Fault α}
    (returns : ∀ result, Returns property (continuation result)) :
    Returns property (value >>= continuation) := by
  intro result ran
  cases value with
  | error fault => cases ran
  | ok middle => exact returns middle result ran

/-- The same, with what the first part returns. -/
theorem Returns.bind_of {first : β → Prop} {value : Except Fault β} {continuation : β → Except Fault α}
    (returned : Returns first value)
    (returns : ∀ result, first result → Returns property (continuation result)) :
    Returns property (value >>= continuation) := by
  intro result ran
  cases value with
  | error fault => cases ran
  | ok middle => exact returns middle (returned middle rfl) result ran

end Returns

/-! ## Functions of the handler -/

namespace SessionFn

variable {α β τ : Type} {observe : Session → τ}

/-- From this session on, the function leaves what is observed as it is. -/
def PreservesFrom (observe : Session → τ) (function : SessionFn α) (session : Session) : Prop :=
  ∀ result after, function.run session = .ok (result, after) → observe after = observe session

def Preserves (observe : Session → τ) (function : SessionFn α) : Prop :=
  ∀ session, function.PreservesFrom observe session

theorem Preserves.pure {value : α} : Preserves observe (Pure.pure value : SessionFn α) := by
  rintro session _ _ ⟨⟩
  rfl

theorem PreservesFrom.bind {function : SessionFn α} {continuation : α → SessionFn β} {session : Session}
    (preserves : function.PreservesFrom observe session)
    (preservesRest : ∀ result after, function.run session = .ok (result, after) →
      (continuation result).PreservesFrom observe after) :
    PreservesFrom observe (function >>= continuation) session := by
  intro result after ran
  cases first : function.run session with
  | error fault =>
    rw [StateT.run_bind, first] at ran
    cases ran
  | ok middle =>
    rw [StateT.run_bind, first] at ran
    exact (preservesRest middle.1 middle.2 first result after ran).trans (preserves _ _ first)

theorem Preserves.bind {function : SessionFn α} {continuation : α → SessionFn β}
    (preserves : function.Preserves observe) (preservesRest : ∀ value, (continuation value).Preserves observe) :
    Preserves observe (function >>= continuation) :=
  fun session => (preserves session).bind fun result after _ => preservesRest result after

theorem Preserves.get {continuation : Session → SessionFn β}
    (preserves : ∀ session, (continuation session).PreservesFrom observe session) :
    Preserves observe (MonadState.get >>= continuation) := preserves

theorem Preserves.modify {change : Session → Session}
    (same : ∀ session, observe (change session) = observe session) :
    Preserves observe (modify change : SessionFn PUnit) := by
  rintro session _ _ ⟨⟩
  exact same session

theorem Preserves.lift {value : Except Fault α} : Preserves observe (liftM value : SessionFn α) := by
  intro session result after ran
  cases value with
  | error fault => cases ran
  | ok value => cases ran; rfl

/-- A value that is computed without the session. -/
theorem PreservesFrom.bind_lift {value : Except Fault α} {continuation : α → SessionFn β} {session : Session}
    (preservesRest : ∀ result, value = .ok result → (continuation result).PreservesFrom observe session) :
    PreservesFrom observe ((liftM value : SessionFn α) >>= continuation) session := by
  apply PreservesFrom.bind
  · exact Preserves.lift session
  · intro result after ran
    cases value with
    | error fault => cases ran
    | ok value =>
      cases ran
      exact preservesRest _ rfl

theorem PreservesFrom.bind_modify {change : Session → Session} {continuation : PUnit → SessionFn β}
    {session : Session} (same : observe (change session) = observe session)
    (preservesRest : (continuation ⟨⟩).Preserves observe) :
    PreservesFrom observe ((modify change : SessionFn PUnit) >>= continuation) session := by
  intro result after ran
  exact (preservesRest (change session) result after ran).trans same

/-- What is made of an observation is preserved with it. -/
theorem Preserves.map {υ : Type} {function : SessionFn α} (preserves : function.Preserves observe)
    (project : τ → υ) : function.Preserves fun session => project (observe session) :=
  fun session result after ran => congrArg project (preserves session result after ran)

end SessionFn

open SessionFn (Preserves PreservesFrom)

theorem parseTraceAnswer_fills (env : Env) (accepts : Int → Bool) (body : String) :
    (parseTraceAnswer env accepts body).Preserves Session.unfilled := by
  unfold parseTraceAnswer
  split
  · exact .pure
  · apply Preserves.bind .lift
    intro errorCode
    split
    · exact .pure
    · split
      · apply Preserves.bind .lift
        intro result
        split
        · exact .pure
        · apply Preserves.bind .lift
          intro track
          split
          · exact .pure
          · apply Preserves.get
            intro session
            apply Preserves.bind .lift
            intro trackResult
            apply Preserves.bind
            · exact .modify fun _ => rfl
            intro _
            apply Preserves.bind .lift
            intro person
            split
            · exact .pure
            · apply Preserves.get
              intro session
              apply Preserves.bind .lift
              intro personResult
              exact .bind (.modify fun _ => rfl) fun _ => .pure
      · exact .pure

theorem parseTraceAnswer_preserves (env : Env) (accepts : Int → Bool) (body : String) :
    (parseTraceAnswer env accepts body).Preserves Session.itinerary :=
  (parseTraceAnswer_fills env accepts body).map Session.itinerary

theorem procTraceSpaceResponse_fills (env : Env) (response : HttpResponse) :
    (procTraceSpaceResponse env response).Preserves Session.unanswered := by
  have reads : ∀ accepts body, (parseTraceAnswer env accepts body).Preserves Session.unanswered :=
    fun accepts body => (parseTraceAnswer_fills env accepts body).map fun session =>
      { session with traceSpaceResult := "" }
  unfold procTraceSpaceResponse
  split
  · apply Preserves.bind (reads _ _)
    intro accepted
    split
    · exact .bind (.modify fun _ => rfl) fun _ => .pure
    · exact .pure
  · exact .pure

theorem procTraceSpaceResponse_preserves (env : Env) (response : HttpResponse) :
    (procTraceSpaceResponse env response).Preserves Session.itinerary :=
  (procTraceSpaceResponse_fills env response).map Session.itinerary

theorem genFaceUrls_urls (resultlist : Json) (index : Nat) (faces : List CaptureFace) :
    Returns (fun result => result.2.map CaptureFace.url = faces.map CaptureFace.url)
      (genFaceUrls resultlist index faces) := by
  induction faces generalizing index with
  | nil => exact .pure rfl
  | cons face rest inductionHypothesis =>
    apply Returns.bind
    intro element
    apply Returns.bind
    intro read
    cases read with
    | none => exact .pure rfl
    | some read =>
      obtain ⟨generated, url, expire⟩ := read
      dsimp only
      refine Returns.bind_of (inductionHypothesis (index + 1)) fun result same => ?_
      apply Returns.pure
      cases generated <;> simp [same]

/-- Faces for faces leave the number of urls. -/
theorem itinerary_setCaptureFaces (session : Session) {faces : List CaptureFace}
    (same : faces.length = session.kafkaData.captureFaces.length) :
    ({ session with kafkaData := session.kafkaData.setCaptureFaces faces } : Session).itinerary =
      session.itinerary := by
  obtain ⟨ref, kafkaData⟩ := session
  obtain ⟨dataClass⟩ := kafkaData
  cases dataClass with
  | screenshot | xiashunBusiness => rfl
  | business =>
    simp only [BaseData.captureFaces] at same
    simp [Session.itinerary, Session.entry, BaseData.setCaptureFaces, BaseData.getUrlCount,
      BaseData.captureFaces, BaseData.urlIndex, same]
  | capture | xiashunCapture =>
    simp only [BaseData.captureFaces, List.length_map] at same
    simp [Session.itinerary, Session.entry, BaseData.setCaptureFaces, BaseData.getUrlCount,
      BaseData.captureFaces, BaseData.urlIndex, same]

/-- `GetGenUrl` puts faces with the same urls in place and fills in what was generated for the person. -/
theorem getGenUrl_preserves_of {τ : Type} {observe : Session → τ}
    (sameFaces : ∀ (session : Session) (faces : List CaptureFace),
      faces.map CaptureFace.url = session.kafkaData.captureFaces.map CaptureFace.url →
        observe { session with kafkaData := session.kafkaData.setCaptureFaces faces } = observe session)
    (samePerson : ∀ (session : Session) (person : PersonResult),
      observe { session with personResult := person } = observe session)
    (bodyJv : Json) : (getGenUrl bodyJv).Preserves observe := by
  apply Preserves.get
  intro session
  dsimp only
  split
  · exact Preserves.pure session
  · exact Preserves.pure session
  -- the classes that have faces
  all_goals
    apply PreservesFrom.bind_lift
    intro resultlist _
    apply PreservesFrom.bind_lift
    intro result read
    apply PreservesFrom.bind_modify
    · exact sameFaces session _ (genFaceUrls_urls _ _ _ result read)
    · split
      · split
        · apply Preserves.bind .lift
          intro read
          split
          · exact .pure
          · split
            · exact .bind (.modify fun session => samePerson session _) fun _ => .pure
            · exact .pure
        · exact .pure
      · exact .pure

theorem procGenerateUrlResponse_preserves_of {τ : Type} {observe : Session → τ}
    (genUrl : ∀ bodyJv, (getGenUrl bodyJv).Preserves observe) (env : Env) (response : HttpResponse) :
    (procGenerateUrlResponse env response).Preserves observe := by
  unfold procGenerateUrlResponse
  split
  · split
    · split
      · exact .pure
      · apply Preserves.bind .lift
        intro results
        split
        · exact .pure
        · apply Preserves.get
          intro session
          dsimp only
          generalize session.kafkaData.getUrlCount + _ = urlCount
          split
          · exact Preserves.pure session
          · exact genUrl _ session
    · exact .pure
  · exact .pure

theorem procGenerateUrlResponse_preserves (env : Env) (response : HttpResponse) :
    (procGenerateUrlResponse env response).Preserves Session.itinerary := by
  apply procGenerateUrlResponse_preserves_of
  apply getGenUrl_preserves_of
  · intro session faces same
    have lengths := congrArg List.length same
    rw [List.length_map, List.length_map] at lengths
    exact itinerary_setCaptureFaces session lengths
  · exact fun _ _ => rfl

/-- A change of the chain that does not touch the picture wait. -/
theorem bearing_procChain (session : Session) {chain : List ProcType}
    (same : chain.contains .picWait = session.procChain.contains .picWait) :
    ({ session with procChain := chain } : Session).bearing = session.bearing :=
  congrArg (fun waits => { session.bearing with waits := waits }) same

/-- A picture is stored, and the next download comes to the front of the chain. -/
theorem procImageResponse_preserves_of {τ : Type} {observe : Session → τ}
    (sameImages : ∀ (session : Session) (images : List ImageInfo),
      observe { session with images := images } = observe session)
    (sameChain : ∀ session : Session,
      observe { session with procChain := .downloadImage :: session.procChain } = observe session)
    (response : HttpResponse) : (procImageResponse response).Preserves observe := by
  have next : ∀ value : PUnit, Preserves observe (do
      if (← get).kafkaData.hasNextUrl then
        modify fun session => { session with procChain := .downloadImage :: session.procChain }
      return true) := by
    intro _
    apply Preserves.get
    intro session
    split
    · exact PreservesFrom.bind_modify (sameChain session) .pure
    · exact Preserves.pure session
  unfold procImageResponse
  split
  · split
    · exact Preserves.bind (.modify fun session => sameImages session _) next
    · exact next ⟨⟩
  · exact Preserves.pure

theorem procHandlerResponse_preserves (env : Env) (procType : ProcType) (response : HttpResponse) :
    (procHandlerResponse env procType response).Preserves Session.bearing := by
  cases procType with
  | downloadImage =>
    exact procImageResponse_preserves_of (fun _ _ => rfl) (fun session => bearing_procChain session rfl) response
  | traceSpace => exact (procTraceSpaceResponse_preserves env response).map Itinerary.bearing
  | generateUrl => exact (procGenerateUrlResponse_preserves env response).map Itinerary.bearing
  | _ => exact Preserves.pure

/-! ## Functions that make quiet calls only -/

open StateProg (Frames)

section Frames

variable {α τ : Type} {observe : Session → τ}

theorem ofExcept_frames {kind : FlowCall → Prop} (value : Except Fault α) :
    Frames kind observe (Flow.ofExcept value) := by
  cases value with
  | ok value => exact .pure
  | error fault => exact .raise

theorem call_frames {kind : FlowCall → Prop} {request : FlowCall} (holds : kind request) :
    Frames kind observe (Flow.call request) := .call holds

theorem ofProg_frames {kind : FlowCall → Prop} {program : FlowProg α}
    (makes : program.Makes kind fun _ => True) : Frames kind observe (Flow.ofProg program) :=
  .lift makes

end Frames

/-- The function makes quiet calls only and fills in results. -/
abbrev FlowFills {α : Type} (program : Flow α) : Prop :=
  Frames FlowCall.isQuiet Session.unfilled program

theorem switchFaceSet_fills : FlowFills switchFaceSetIdBySetName := by
  apply Frames.get
  intro session
  dsimp only
  split
  · exact .pure
  · apply Frames.bind (call_frames (by trivial))
    intro acquired
    split
    · apply Frames.bind (call_frames (by trivial))
      intro found
      cases found with
      | notFound => exact .pure
      | exception => exact .pure
      | found view =>
        dsimp only
        split
        · exact .pure
        · apply Frames.bind
          · exact .modify fun _ => rfl
          intro _
          split
          · exact .pure
          · exact .bind (.modify fun _ => rfl) fun _ => .pure
    · exact .pure

theorem saveReplay_fills (session : Session) (data : SaveMongoData) (fields : Document) :
    FlowFills (saveReplay session data fields) := by
  unfold saveReplay
  split
  · apply Frames.bind (call_frames (by trivial))
    intro found
    cases found with
    | found view => exact .pure
    | exception => exact .pure
    | notFound => exact call_frames trivial
  · exact call_frames trivial

theorem saveBusinessMongo_fills : FlowFills saveBusinessMongo := by
  apply Frames.bind switchFaceSet_fills
  intro switched
  split
  · apply Frames.bind (call_frames (by trivial))
    intro acquired
    split
    · apply Frames.get
      intro session
      apply Frames.bind (ofExcept_frames _)
      intro data
      cases data with
      | none => exact .pure
      | some data =>
        apply Frames.bind
        · exact .modify fun _ => rfl
        intro _
        apply Frames.bind (call_frames (by trivial))
        intro seconds
        dsimp only
        split
        · apply Frames.bind (call_frames (by trivial))
          intro found
          cases found with
          | found view => exact .pure
          | exception => exact .pure
          | notFound => exact saveReplay_fills _ _ _
        · exact saveReplay_fills _ _ _
    · exact .pure
  · exact .pure

theorem makeCaptureKafkaRequest_fills (env : Env) : FlowFills (makeCaptureKafkaRequest env) := by
  apply Frames.bind switchFaceSet_fills
  intro switched
  split
  · apply Frames.get
    intro session
    dsimp only
    split
    · exact ofExcept_frames _
    · apply Frames.bind (ofExcept_frames _)
      intro eventTime
      split
      · exact .pure
      · exact .pure
  · exact .pure

theorem makeKafkaRequest_fills (env : Env) : FlowFills (makeKafkaRequest env) := by
  apply Frames.get
  intro session
  cases session.kafkaData.dataClass with
  | business => exact .pure
  | capture => exact .bind (makeCaptureKafkaRequest_fills env) fun _ => .pure
  | xiashunCapture => exact .bind (ofExcept_frames _) fun _ => .pure
  | screenshot => exact .pure
  | xiashunBusiness => exact .pure

theorem bearing_setUrlIndex (session : Session) (url : String) (index : Nat) :
    ({ session with
      currentDownloadUrl := url, kafkaData := session.kafkaData.setUrlIndex index } : Session).bearing =
      session.bearing := by
  obtain ⟨ref, kafkaData⟩ := session
  obtain ⟨dataClass⟩ := kafkaData
  cases dataClass <;> rfl

theorem bearing_getNextUrl (session : Session) (url : String) :
    ({ session with
      currentDownloadUrl := url, kafkaData := session.kafkaData.getNextUrl.2 } : Session).bearing =
      session.bearing := by
  unfold BaseData.getNextUrl
  split
  · exact bearing_setUrlIndex session url _
  · rfl

theorem itinerary_retreatUrl (session : Session) :
    ({ session with kafkaData := session.kafkaData.retreatUrl } : Session).itinerary =
      { session.itinerary with urlIndex := session.itinerary.urlIndex - 1 } := by
  obtain ⟨ref, kafkaData⟩ := session
  obtain ⟨dataClass⟩ := kafkaData
  cases dataClass <;> rfl

/-- The calls to the Kafka producer. -/
def FlowCall.isProducerCall : FlowCall → Prop
  | topicHandle _ | produce _ _ | poll _ => True
  | _ => False

theorem isQuiet_of_producer (request : FlowCall) (producer : request.isProducerCall) :
    request.isQuiet := by
  cases request <;> first | exact trivial | cases producer

theorem produceTries_makes (topic data : String) (tries : Nat) :
    (produceTries topic data tries).Makes FlowCall.isProducerCall fun _ => True := by
  induction tries with
  | zero => trivial
  | succ tries inductionHypothesis =>
    refine ⟨trivial, fun result => ?_⟩
    cases result with
    | enqueued => trivial
    | failed => trivial
    | queueFull => exact ⟨trivial, fun _ => inductionHypothesis⟩

theorem pushAllToKafka_makes (outputs : List KafkaOutputInfo) :
    (pushAllToKafka outputs).Makes FlowCall.isProducerCall fun _ => True := by
  induction outputs with
  | nil => trivial
  | cons output rest inductionHypothesis =>
    refine ⟨trivial, fun handle => ?_⟩
    cases handle with
    | false => trivial
    | true =>
      apply Prog.Makes.bind
      · apply Prog.Makes.bind (produceTries_makes output.topic output.data 3)
        intro isSuccess _
        exact ⟨trivial, fun _ => trivial⟩
      · intro pushed _
        split
        · exact inductionHypothesis
        · trivial

end XBusiness
