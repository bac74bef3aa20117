import XBusiness.Workflow.HandOver
import XBusiness.Workflow.RecordIdentity

/-! # A session acts for its own message

The modules write into the object of the message: generated urls, the next url to download, the plugin.
What the parser has put there they leave, and every call they make names what the parser has put there.

* `BaseData.received` — the object of a message without what the modules write into it.
* `Session.assignment` — what a session has of its message.
* `FlowCall.actsFor` — the calls that name the device, the tenant, the urls and the keys of one message.
* `Confined` — a function makes calls of this kind only, and leaves its session with its message.
* `sessionProcess_acts` / `requestCallback_acts` — so do all modules and all callbacks.
-/

namespace XBusiness

open Interaction
open XBusiness.Flow (call)
open StateProg (Upholds Frames)
open SessionFn (Preserves PreservesFrom)

/-! ## What is received with a message -/

/-- A picture as the message names it. -/
def CaptureFace.received (face : CaptureFace) : CaptureFace := { face with genUrl := "", genUrlExpire := 0 }

def Face.received (face : Face) : Face := { face with toCaptureFace := face.toCaptureFace.received }

/-- The object as the parser has left it: without generated urls, at the first url, and with nothing of the
    plugin but the data type. -/
def BaseData.received (self : BaseData) : BaseData := { self with
  event := { self.event with captureUris := self.event.captureUris.map CaptureFace.received, urlIndex := 0 }
  capture := { self.capture with
    person := { self.capture.person with
      faces := self.capture.person.faces.map Face.received, faceIndex := 0 } }
  plugin := { datatype := self.plugin.datatype } }

section Reads

variable (self : BaseData)

end Reads

/-- What a session has of its message, and its identity. -/
structure Assignment where
  ref : Nat
  uid : String
  sessionId : String
  received : BaseData

def Session.assignment (session : Session) : Assignment where
  ref := session.ref
  uid := session.uid
  sessionId := session.sessionId
  received := session.kafkaData.received

/-- What a session with this identity has of the message when it is made. -/
def BaseData.assignment (own : BaseData) (ref : Nat) : Assignment where
  ref := ref
  uid := own.msgId
  sessionId := own.msgId
  received := own.received

/-! ## Calls for a message -/

/-- The key of a `user_event` document. -/
def eventKey (ipc : IpcInfo) (data : SaveMongoData) : Filter :=
  [("device_sn", .eq (.utf8 ipc.deviceId)), ("track_id", .eq (.int64 data.trackId)),
    ("app_id", .eq (.utf8 ipc.appId)), ("space_id", .eq (.utf8 ipc.spaceId)),
    ("in_out_type", .eq (.int32 data.eventType))]

/-- The fields that every `user_event` document has of its message. -/
def eventFields (ipc : IpcInfo) (data : SaveMongoData) : Document :=
  [("app_id", .utf8 ipc.appId), ("space_id", .utf8 ipc.spaceId), ("device_sn", .utf8 ipc.deviceId),
    ("track_id", .int64 data.trackId), ("in_out_type", .int32 data.eventType),
    ("event_time", .int64 data.eventTime)]

/-- The fields that every record of faces has of its message. -/
def BaseData.recordIdentity (own : BaseData) : List (String × Json) :=
  [("app_id", .string own.ipc.appId), ("space_id", .string own.ipc.spaceId),
    ("device_sn", .string own.ipc.deviceId), ("track_id", .int own.getTrackId),
    ("event_time", .int own.eventTime)]

/-- A request is about pictures of the message, or about its tenant, device and track. -/
def BaseData.requests (env : Env) (own : BaseData) (request : RequestInfo) : ProcType → Prop
  | .downloadImage => ∃ url ∈ own.captureFaces.map CaptureFace.url, ∃ parts, splitUri url = some parts ∧
      request.body = env.text.toStyledString (storageUrlJson parts)
  | .traceSpace => request.path = "/api/xtrace/capture/identify?app_id=" ++ own.ipc.appId ∧
      ∃ images, request.body = env.text.toStyledString (traceSpaceJson own own.msgId images)
  | .generateUrl => ∃ faces person, getGenerateUrlData own = some faces ∧
      request.body = env.text.toStyledString
        (if faces ++ person = [] then .null else Json.null.set "list" (.array (faces ++ person)))
  | .outputKafka | .picWait | .businessSave | .getPlugin => False

/-- The texts of the records of a message.  A field of the identity gives way to an attribute of its name
    alone, see `RecordData.find?_own`. -/
def BaseData.records (env : Env) (own : BaseData) (topic text : String) : Prop :=
  (∃ data, text = recordText env own.ipc data ∧ own.recordIdentity ⊆ data.own) ∨
    ⟨topic, text⟩ ∈ makeScreenshootKafkaRequest env own

/-- The calls of a session with this identity and this message: on the documents of its tenant, under the
    key of its pictures, for its records and requests.  What it pushes is itself or a new session. -/
def FlowCall.actsFor (env : Env) (ref : Nat) (own : BaseData) : FlowCall → Prop
  | tryAcquire | sleepFor _ | now | time | poll _ | topicHandle _ => True
  | findOne collection filter =>
      (collection = "adapter_model" ∧ filter = [("app_id", .eq (.utf8 own.ipc.appId))]) ∨
      (collection = "faceset" ∧ ∃ setName, filter = [("set_name", .eq (.utf8 setName))]) ∨
      ∃ urls data guard, getSaveMongoData own urls = .ok (some data) ∧
        collection = own.ipc.appId ++ "_user_event" ∧ filter = eventKey own.ipc data ++ [guard]
  | updateOne collection filter set =>
      ∃ urls data, getSaveMongoData own urls = .ok (some data) ∧
        collection = own.ipc.appId ++ "_user_event" ∧ filter = eventKey own.ipc data ∧
        eventFields own.ipc data ⊆ set
  | redisGet key => key = own.getPicWaitKey
  | redisSet key data _ nx =>
      if nx then key = "lock_" ++ own.getPicWaitKey ∧ data = own.msgId else key = own.getPicWaitKey
  | redisUnlock key data => key = "lock_" ++ own.getPicWaitKey ∧ data = own.msgId
  | produce topic text => own.records env topic text
  | storeDone _ => False
  | makeShared kafkaData => ∃ payload, parseMessage env none payload = .ok (some kafkaData)
  | pushMsg session => session.assignment = own.assignment ref ∨ Created env session
  | sendRequest session procType request =>
      session.assignment = own.assignment ref ∧ own.requests env request procType ∧
        session.asksFor env request procType
  | final session _ => session.assignment = own.assignment ref
  | destroy session => ∃ payload kafkaData, parseMessage env none payload = .ok (some kafkaData) ∧
      session.assignment = kafkaData.assignment session.ref

theorem assignment_of_received {session : Session} {kafkaData : BaseData}
    (same : kafkaData.received = session.kafkaData.received) :
    ({ session with kafkaData := kafkaData } : Session).assignment = session.assignment :=
  congrArg (fun received => { session.assignment with received := received }) same

theorem received_setUrlIndex (self : BaseData) (index : Nat) : (self.setUrlIndex index).received = self.received := by
  obtain ⟨dataClass⟩ := self
  cases dataClass <;> rfl

theorem received_getNextUrl (self : BaseData) : self.getNextUrl.2.received = self.received := by
  unfold BaseData.getNextUrl
  split
  · exact received_setUrlIndex self _
  · rfl

theorem received_plugin {self : BaseData} {plugin : PluginInfo} (same : plugin.datatype = self.plugin.datatype) :
    ({ self with plugin := plugin } : BaseData).received = self.received := by
  simp [BaseData.received, same]

/-- Faces that were received alike are put in place. -/
theorem received_setCaptureFaces {self : BaseData} {faces : List CaptureFace}
    (same : faces.map CaptureFace.received = self.captureFaces.map CaptureFace.received) :
    (self.setCaptureFaces faces).received = self.received := by
  have zipped : ∀ (persons : List Face) (shared : List CaptureFace),
      shared.map CaptureFace.received = (persons.map Face.toCaptureFace).map CaptureFace.received →
        (List.zipWith (fun face shared => { face with toCaptureFace := shared }) persons shared).map Face.received =
          persons.map Face.received := by
    intro persons
    induction persons with
    | nil => intro shared _; rfl
    | cons face rest inductionHypothesis =>
      intro shared same
      cases shared with
      | nil => cases same
      | cons first others =>
        simp only [List.map_cons, List.cons.injEq] at same
        simp only [List.zipWith_cons_cons, List.map_cons, List.cons.injEq]
        exact ⟨by simp [Face.received, same.1], inductionHypothesis others same.2⟩
  obtain ⟨dataClass⟩ := self
  cases dataClass with
  | business => simpa [BaseData.received, BaseData.setCaptureFaces, BaseData.captureFaces] using same
  | capture | xiashunCapture =>
    have kept := zipped _ faces same
    simp only [BaseData.received, BaseData.setCaptureFaces, kept]
  | screenshot | xiashunBusiness => rfl

theorem genFaceUrls_received (resultlist : Json) (index : Nat) (faces : List CaptureFace) :
    Returns (fun result => result.2.map CaptureFace.received = faces.map CaptureFace.received)
      (genFaceUrls resultlist index faces) := by
  induction faces generalizing index with
  | nil => exact .pure rfl
  | cons face rest inductionHypothesis =>
    apply Returns.bind
    intro element
    apply Returns.bind
    intro read
    cases read with
    | none => exact .pure rfl
    | some read =>
      obtain ⟨generated, url, expire⟩ := read
      refine Returns.bind_of (inductionHypothesis (index + 1)) fun result same => ?_
      apply Returns.pure
      cases generated <;> simp [same, CaptureFace.received]

theorem getGenUrl_assignment (bodyJv : Json) : (getGenUrl bodyJv).Preserves Session.assignment := by
  apply Preserves.get
  intro session
  dsimp only
  split
  · exact Preserves.pure session
  · exact Preserves.pure session
  -- the classes that have faces
  all_goals
    apply PreservesFrom.bind_lift
    intro resultlist _
    apply PreservesFrom.bind_lift
    intro result read
    apply PreservesFrom.bind_modify
    · exact assignment_of_received (received_setCaptureFaces (genFaceUrls_received _ _ _ result read))
    · split
      · split
        · apply Preserves.bind .lift
          intro read
          split
          · exact .pure
          · split
            · exact .bind (.modify fun _ => rfl) fun _ => .pure
            · exact .pure
        · exact .pure
      · exact .pure

theorem procHandlerResponse_assignment (env : Env) (procType : ProcType) (response : HttpResponse) :
    (procHandlerResponse env procType response).Preserves Session.assignment := by
  cases procType with
  | downloadImage => exact procImageResponse_preserves_of (fun _ _ => rfl) (fun _ => rfl) response
  | traceSpace => exact (procTraceSpaceResponse_fills env response).map Session.assignment
  | generateUrl => exact procGenerateUrlResponse_preserves_of getGenUrl_assignment env response
  | outputKafka | picWait | businessSave | getPlugin => exact Preserves.pure

theorem getPersonResult_assignment (env : Env) (body : String) :
    (getPersonResult env body).Preserves Session.assignment :=
  (parseTraceAnswer_fills env _ body).map Session.assignment

/-! ## Functions that act for the message -/

section Confined

variable {α β τ : Type} {env : Env} {ref : Nat} {own : BaseData} {post : α → Prop}

/-- The calls that are made for the sessions of waiting payloads. -/
structure NewSessionCalls (env : Env) (kind : FlowCall → Prop) : Prop where
  makes : ∀ payload kafkaData, parseMessage env none payload = .ok (some kafkaData) → kind (.makeShared kafkaData)
  pushes : ∀ session, Created env session → kind (.pushMsg session)
  destroys : ∀ payload kafkaData session, parseMessage env none payload = .ok (some kafkaData) →
    session.assignment = kafkaData.assignment session.ref → kind (.destroy session)

/-- A waiting payload becomes a session of its own, which is pushed or destroyed. -/
theorem handleFromRedis_makesNew {kind : FlowCall → Prop} (calls : NewSessionCalls env kind)
    (payload picResult : String) : (handleFromRedis env payload picResult).Makes kind fun _ => True := by
  unfold handleFromRedis
  cases parsed : parseMessage env none payload with
  | error fault => trivial
  | ok result =>
    cases result with
    | none => trivial
    | some kafkaData =>
      refine ⟨calls.makes payload kafkaData parsed, fun made => ?_⟩
      show (raiseFault _ >>= _ : FlowProg Bool).Makes _ _
      cases read : (getPersonResult env picResult).run (.make env made kafkaData) with
      | error fault => trivial
      | ok result =>
        obtain ⟨accepted, session⟩ := result
        have same : session.assignment = kafkaData.assignment made :=
          getPersonResult_assignment env picResult _ _ _ read
        have sameRef : session.ref = made := congrArg Assignment.ref same
        cases accepted with
        | true =>
          exact ⟨calls.pushes session (.fromRedis made payload picResult kafkaData session parsed read),
            fun _ => trivial⟩
        | false =>
          exact ⟨calls.destroys payload kafkaData session parsed (by rw [sameRef]; exact same), fun _ => trivial⟩

theorem releaseWaiting_makesNew {kind : FlowCall → Prop} (calls : NewSessionCalls env kind)
    (traceResult : String) (waiting : List Json) :
    (releaseWaiting env traceResult waiting).Makes kind fun _ => True := by
  induction waiting with
  | nil => trivial
  | cons element rest inductionHypothesis =>
    cases element with
    | string payload => exact (handleFromRedis_makesNew calls payload traceResult).bind fun _ _ => inductionHypothesis
    | _ => exact inductionHypothesis

theorem ModuleDoes.assignment {session after : Session} {procType : ProcType} {ending : Ending}
    (does : ModuleDoes env session procType ending after) : after.assignment = session.assignment := by
  have fills : after.unfilled = session.unfilled → after.assignment = session.assignment := by
    intro same
    have assignments : after.unfilled.assignment = session.unfilled.assignment := congrArg Session.assignment same
    exact assignments
  have requesting : (session.requesting procType).assignment = session.assignment := by
    cases procType with
    | downloadImage =>
      exact congrArg (fun received => { session.assignment with received := received })
        (received_getNextUrl session.kafkaData)
    | _ => rfl
  cases does with
  | fills _ _ _ same | fails _ _ _ _ same => exact fills same
  | plugs plugin _ datatype =>
    exact congrArg (fun received => { session.assignment with received := received }) (received_plugin datatype)
  | noImages => rfl
  | noRequest _ _ _ same =>
    cases same with
    | inl same => rw [same]
    | inr same => rw [same, requesting]
  | asks => exact requesting

theorem CallbackDoes.assignment {session after : Session} {procType : ProcType} {ending : Ending}
    {response : Option HttpResponse} (does : CallbackDoes env session procType response ending after) :
    after.assignment = session.assignment := by
  have retreating : (session.retreating procType).assignment = session.assignment := by
    unfold Session.retreating
    split
    · exact assignment_of_received (received_setUrlIndex _ _)
    · rfl
  cases does with
  | retries => exact retreating
  | exhausted => exact retreating
  | accepts response _ ran | refuses response _ ran =>
    exact procHandlerResponse_assignment env procType response _ _ _ ran

end Confined

end XBusiness
