import XBusiness.Common.RedisClient
import XBusiness.Data.KafkaOutput
import XBusiness.Handler.PreHandler

/-! # The modules of the work flow

`Process` of the seven modules, the callbacks of the HTTP modules, and the two ways a
session comes into being, `handle` and `handleFromRedis`.
-/

namespace XBusiness

open XBusiness.Flow (call)
open Interaction (Prog)
open Interaction.Prog (perform)

/-! ## `GetPluginModule` -/

/-- An optional number of the plugin document; one of another type throws. -/
def pluginInt (view : Document) (name : String) (value : Int) : Option Int :=
  match view.lookup name with
  | none => some value
  | some element => Bson.getInt32 (some element)

/-- The first channel of the data type, with its topics; an element that does not have the
    expected fields throws. -/
def channelTopics (datatype : Int) : List Bson → Option (Option (List String))
  | [] => some none
  | elem :: rest =>
    match Bson.getInt32 (elem.field "event_type_id") with
    | none => none
    | some eventType =>
      if eventType = datatype then
        -- the loop ends here, whatever follows
        ((Bson.getArray (elem.field "topic_channel")).bind fun topics =>
          topics.mapM fun topic => Bson.getUtf8 (some topic)).map some
      else
        channelTopics datatype rest

/-- The part of `getInfoByAppId` that reads the plugin document: the plugin, and whether
    `repairProcChain` is called.  Nothing where a conversion throws; the session is finalised
    then, so what was assigned before is not read again. -/
def readPlugin (plugin : PluginInfo) (view : Document) : Option (PluginInfo × Bool) := do
  let serviceAdapter ← Bson.getUtf8 (view.lookup "service_adapter")
  let appId ← Bson.getUtf8 (view.lookup "app_id")
  let faceRectFrom ← pluginInt view "face_rect_from" plugin.faceRectFrom
  let faceAttrFrom ← pluginInt view "face_attr_from" plugin.faceAttrFrom
  let replayPushFlag ← pluginInt view "replay_push_flag" plugin.replayPushFlag
  let plugin := { plugin with
    enable := true, serviceAdapter := serviceAdapter, appId := appId, faceRectFrom := faceRectFrom,
    faceAttrFrom := faceAttrFrom, replayPushFlag := replayPushFlag }
  match view.lookup "data_channel" with
  | none => return (plugin, false)
  | some channels =>
    match ← channelTopics plugin.datatype (← Bson.getArray (some channels)) with
    | none => return (plugin, false)
    | some topics => return ({ plugin with topiclist := plugin.topiclist ++ topics }, true)

/-- `repairProcChain`. -/
def repairProcChain : Flow Unit := do
  let plugin := (← get).kafkaData.plugin
  if plugin.enable && (plugin.datatype = 2 || plugin.datatype = 3) then
    modify fun session => { session with procChain := session.procChain ++ [.outputKafka] }

def getInfoByAppId : Flow Bool := do
  if ← call .tryAcquire then
    let session ← get
    match ← call (.findOne "adapter_model" [("app_id", .eq (.utf8 session.kafkaData.ipc.appId))]) with
    | .found view =>
      match readPlugin session.kafkaData.plugin view with
      | none => return false
      | some (plugin, repair) =>
        modify fun session => { session with kafkaData := { session.kafkaData with plugin := plugin } }
        if repair then
          repairProcChain
        return true
    -- a tenant without an adapter has no plugin, and its session goes on
    | .notFound => return true
    | .exception => return false
  else
    return false

/-- `GetPluginModule::Process`. -/
def getPluginProcess : Flow Unit := do
  if ← getInfoByAppId then
    pushOrFinal
  else
    final .mongoFailed

/-! ## `BusinessSave` -/

/-- `<app_id>_user_event`. -/
def userEventCollection (session : Session) : String := session.kafkaData.ipc.appId ++ "_user_event"

/-- The key of the document: device, track, tenant, space and direction. -/
def userEventFilter (session : Session) (data : SaveMongoData) : Filter :=
  [("device_sn", .eq (.utf8 session.kafkaData.ipc.deviceId)),
    ("track_id", .eq (.int64 data.trackId)),
    ("app_id", .eq (.utf8 session.kafkaData.ipc.appId)),
    ("space_id", .eq (.utf8 session.kafkaData.ipc.spaceId)),
    ("in_out_type", .eq (.int32 data.eventType))]

/-- The attributes that `SaveBusinessMongo` adds to the fields. -/
def attributeFields : List PersonResultAttribute → Document
  | [] => []
  | elem :: rest =>
    if elem.type ≠ "" then
      let value :=
        if elem.type = "gender" || elem.type = "manual_age" || elem.type = "age" then
          Bson.int32 (atoi elem.value)
        else .utf8 elem.value
      (elem.type, value) :: attributeFields rest
    else
      attributeFields rest

/-- The `$set` document, by message type. -/
def userEventFields (session : Session) (data : SaveMongoData) (currentTime : String) : Document :=
  let ipc := session.kafkaData.ipc
  let event := session.kafkaData.event
  let person := session.personResult
  -- -1 is what the trace space has not told
  let gender :=
    if session.trackResult.gender = -1 then event.gender else session.trackResult.gender
  let age := if session.trackResult.age = -1 then event.age else session.trackResult.age
  let device : Document :=
    [("app_id", .utf8 ipc.appId), ("space_id", .utf8 ipc.spaceId), ("device_sn", .utf8 ipc.deviceId),
      ("track_id", .int64 data.trackId)]
  let times : Document := [("created_time", .utf8 currentTime), ("updated_time", .utf8 currentTime)]
  if data.msgType = 2 then
    device ++
      [("face_id", .utf8 person.id), ("faceset_id", .utf8 person.setName),
        ("faceset_type", .utf8 person.setType), ("event_time", .int64 data.eventTime),
        ("msg_type", .int32 data.msgType), ("capture_url", .array (data.urls.map .utf8)),
        ("match_url", .utf8 person.url), ("score", .double person.similar)] ++
      times ++ [("in_out_type", .int32 data.eventType)] ++ attributeFields person.personAttributes
  else if data.msgType = 1 then
    device ++
      [("age", .int32 age), ("gender", .int32 gender), ("in_out_type", .int32 data.eventType),
        ("event_time", .int64 data.eventTime), ("msg_type", .int32 data.msgType)] ++ times
  else
    device ++
      [("in_out_type", .int32 data.eventType), ("event_time", .int64 data.eventTime)] ++ times

/-- The upsert at the end of `SaveBusinessMongo`. -/
def upsertUserEvent (session : Session) (data : SaveMongoData) (fields : Document) : Flow Bool :=
  call (.updateOne (userEventCollection session) (userEventFilter session data) fields)

/-- The replay guard: replayed data is only stored where no normal data is. -/
def saveReplay (session : Session) (data : SaveMongoData) (fields : Document) : Flow Bool := do
  if session.kafkaData.getReplay = 1 then
    match ← call (.findOne (userEventCollection session)
        (userEventFilter session data ++ [("replay", .ne (.int32 1))])) with
    | .found _ => return true
    | .notFound => upsertUserEvent session data (fields ++ [("replay", .int32 1)])
    | .exception => return false
  else
    upsertUserEvent session data fields

/-- `SaveBusinessMongo`; false stands for -1. -/
def saveBusinessMongo : Flow Bool := do
  if ← switchFaceSetIdBySetName then
    if ← call .tryAcquire then
      let session ← get
      match ← Flow.ofExcept (getSaveMongoData session.kafkaData session.saveMongoData.urls) with
      | none => return false
      | some data =>
        modify fun session => { session with saveMongoData := data }
        let currentTime := utcTime (← call .time)
        let fields := userEventFields session data currentTime
        if data.msgType = 1 then
          -- a document of type 2 is not overwritten by data of type 1
          match ← call (.findOne (userEventCollection session)
              (userEventFilter session data ++ [("msg_type", .eq (.int32 2))])) with
          | .found _ => return true
          | .notFound => saveReplay session data fields
          | .exception => return false
        else
          saveReplay session data fields
    else
      return false
  else
    return false

/-- `BusinessSave::Process`. -/
def businessSaveProcess : Flow Unit := do
  if ← saveBusinessMongo then
    pushOrFinal
  else
    final .mongoFailed

/-! ## `OutPutKafkaModule` -/

/-- The three tries of `push_data_to_kafka`. -/
def produceTries (topic data : String) : Nat → FlowProg Bool
  | 0 => return false
  | tries + 1 => do
    let result : ProduceResult ← perform (FlowCall.produce topic data)
    match result with
    | .enqueued => return true
    | .queueFull =>
      -- only a full queue is tried again, after a second
      perform (FlowCall.poll 1000)
      produceTries topic data tries
    | .failed => return false

/-- `push_data_to_kafka`. -/
def pushDataToKafka (output : KafkaOutputInfo) : FlowProg Bool := do
  let handle : Bool ← perform (FlowCall.topicHandle output.topic)
  if handle then
    let isSuccess ← produceTries output.topic output.data 3
    perform (FlowCall.poll 0)
    return isSuccess
  else
    return false

/-- The loop over the records, which stops at the first one that is not enqueued. -/
def pushAllToKafka : List KafkaOutputInfo → FlowProg Bool
  | [] => return true
  | output :: rest => do
    if ← pushDataToKafka output then
      pushAllToKafka rest
    else
      return false

/-- `OutPutKafkaModule::Process`. -/
def outputKafkaProcess (env : Env) : Flow Unit := do
  match ← makeKafkaRequest env with
  | none => final .kafkaError
  | some sendDatas =>
    let data := (← get).kafkaData
    -- the records of replayed data are made, and left where the plugin does not want them
    if data.getReplay = 1 ∧ data.plugin.replayPushFlag = 0 then
      pushOrFinal
    else if ← Flow.ofProg (pushAllToKafka sendDatas) then
      pushOrFinal
    else
      final .kafkaError

/-! ## `CXBusinessHandler` -/

/-- `ParseDataFactory::ParseData` with the `parse` of the object it makes. -/
def parseMessage (env : Env) (data : Option PmPtr) (payload : String) :
    Except Fault (Option BaseData) := do
  match ← parseData env data payload with
  | none => return none
  | some kafkaData => kafkaData.parse env

def raiseFault {α : Type} : Except Fault α → FlowProg α
  | .ok value => .ret value
  | .error fault => .raise fault

/-- `CXBusinessHandler::handle`. -/
def handle (env : Env) (data : PmPtr) : FlowProg Bool := do
  match ← raiseFault (parseMessage env (some data) data.msg.payload) with
  | none =>
    -- nobody will finalise a message that is rejected, so its node is done at once
    perform (FlowCall.storeDone data)
    return false
  | some kafkaData =>
    let ref : Nat ← perform (FlowCall.makeShared kafkaData)
    perform (FlowCall.pushMsg (.make env ref kafkaData))
    return true

/-- `CXBusinessHandler::handleFromRedis`.  A session that `getPersonResult` rejects is
    destroyed when the function returns. -/
def handleFromRedis (env : Env) (payload picResult : String) : FlowProg Bool := do
  match ← raiseFault (parseMessage env none payload) with
  | none => return false
  | some kafkaData =>
    let ref : Nat ← perform (FlowCall.makeShared kafkaData)
    let (accepted, session) ← raiseFault
      ((getPersonResult env picResult).run (.make env ref kafkaData))
    if accepted then
      perform (FlowCall.pushMsg session)
      return true
    else
      -- only a log line: the session is neither pushed nor finalised
      perform (FlowCall.destroy session)
      return false

/-! ## `PictureWaitModule` -/

inductive PictureWaitResult where
  | pass
  | wait
  deriving DecidableEq, Repr

/-- `picturewait_cache_timeout`. -/
def pictureWaitCacheTimeout : Int := 10 * 60 * 1000

/-- `redlock_acquire_timeout_`. -/
def redlockAcquireTimeout : Int := 5000

/-- `redlock_expire_timeout_`. -/
def redlockExpireTimeout : Int := 5000

/-- The record of waiting payloads. -/
def businessRecord (ptype : Int) (payloads : List String) : Json :=
  (Json.null.set "ptype" (.int ptype)).set "message_list" (.array (payloads.map .string))

/-- The record of a trace answer. -/
def traceRecord (ptype : Int) (traceResult : String) : Json :=
  (Json.null.set "ptype" (.int ptype)).set "trace_result" (.string traceResult)

def storeRecord (env : Env) (key : String) (record : Json) : Flow Unit := do
  let _ ← Flow.ofProg
    (setAdvancedKeyValue key (env.text.toStyledString record) pictureWaitCacheTimeout false)

/-- `handleWithoutKey`. -/
def handleWithoutKey (env : Env) (key payload : String) (ptype : Int) : Flow PictureWaitResult := do
  if ptype = PayloadType.business then
    storeRecord env key (businessRecord ptype [payload])
    return .wait
  else
    storeRecord env key (traceRecord ptype (← get).traceSpaceResult)
    return .pass

/-- The loop over `message_list`, which hands every string to `handleFromRedis`. -/
def releaseWaiting (env : Env) (traceResult : String) : List Json → FlowProg Unit
  | [] => return ()
  | .string payload :: rest => do
    let _ ← handleFromRedis env payload traceResult
    releaseWaiting env traceResult rest
  | _ :: rest => releaseWaiting env traceResult rest

/-- The elements that the loop over `message_list` visits: it asks for `size`, which counts the
    members of an object too, and then for each element, which an object does not have. -/
def messageList (dataJson : Json) : Except Fault (List Json) := do
  let list ← dataJson.member "message_list"
  match list with
  | .array values => return values
  | .object [] => return []
  | .object _ => .error .exception
  | _ => return []

/-- `handleWithKey`. -/
def handleWithKey (env : Env) (key value payload : String) (ptype : Int) : Flow PictureWaitResult := do
  match ← Flow.ofExcept (env.text.reader value) with
  -- a value that is no record is left as it is
  | none => return .pass
  | some dataJson =>
    match ← Flow.ofExcept (dataJson.member? "ptype" Json.int?) with
    | none => return .pass
    | some valueType =>
      if valueType = PayloadType.trace then
        if ptype = PayloadType.business then
          match ← Flow.ofExcept (dataJson.member? "trace_result" Json.string?) with
          | some traceResult =>
            -- the session goes on whether it accepts the answer or not
            let _ ← Flow.ofSessionFn (getPersonResult env traceResult)
            return .pass
          | none => return .pass
        else
          return .pass
      else if valueType = PayloadType.business then
        if ptype = PayloadType.business then
          let list ← Flow.ofExcept (do (← dataJson.member "message_list").append (.string payload))
          storeRecord env key (dataJson.set "message_list" list)
          return .wait
        else if ptype = PayloadType.trace then
          let waiting ← Flow.ofExcept (messageList dataJson)
          let traceResult := (← get).traceSpaceResult
          -- the payloads are gone when the answer takes their place
          Flow.ofProg (releaseWaiting env traceResult waiting)
          storeRecord env key (traceRecord ptype traceResult)
          return .pass
        else
          return .pass
      else
        return .pass

/-- What `getResultOfWait` does while it holds the lock. -/
def waitCriticalSection (env : Env) (key payload : String) (ptype : Int) : Flow PictureWaitResult := do
  let (found, value) ← Flow.ofProg (getValueByKey key)
  -- a `GET` that fails looks like an absent key
  if found = false ∨ value = "" then
    handleWithoutKey env key payload ptype
  else
    handleWithKey env key value payload ptype

def getResultOfWait (env : Env) : Flow PictureWaitResult := do
  let session ← get
  match session.kafkaData.data with
  -- `data_` is read without a check
  | none => Flow.ofExcept (.error .undefined)
  | some data =>
    let ptype := session.kafkaData.payloadType
    let key := session.kafkaData.getPicWaitKey
    if key = "" then
      return .pass
    else
      let lockKey := "lock_" ++ key
      if ← Flow.ofProg (redLock lockKey session.uid redlockAcquireTimeout redlockExpireTimeout) then
        let result ← waitCriticalSection env key data.msg.payload ptype
        let _ ← Flow.ofProg (redUnlock lockKey session.uid)
        return result
      else
        -- without the lock it neither waits nor releases anybody
        return .pass

/-- `PictureWaitModule::Process`. -/
def pictureWaitProcess (env : Env) : Flow Unit := do
  match ← getResultOfWait env with
  | .wait => final .success
  | .pass => pushOrFinal

/-! ## `HTTPModuleWrapper` -/

/-- `HTTPModuleWrapper::Process` with `MakeRequest` and `SendRequest`. -/
def httpProcess (env : Env) (moduleType : ProcType) : Flow Unit := do
  match ← makeRequest env moduleType with
  | none => final .procTerminate
  | some request =>
    modify fun session => { session with currentType := some moduleType }
    call (.sendRequest (← get) moduleType request)

/-- `HttpErrorProcess`. -/
def httpErrorProcess (moduleType : ProcType) : Flow Unit := do
  if moduleType = .downloadImage then
    -- the cursor has moved on with the request
    modify fun session => { session with kafkaData := session.kafkaData.retreatUrl }
  let session ← get
  if 0 < session.httpRetryTime then
    modify fun session => { session with httpRetryTime := session.httpRetryTime - 1 }
    addChain moduleType
    pushMsg
  else
    final .httpConnError

/-- `HTTPModuleWrapper::ProcResponse`. -/
def procResponse (env : Env) (moduleType : ProcType) (response : HttpResponse) : Flow Unit := do
  if ← Flow.ofSessionFn (procHandlerResponse env moduleType response) then
    pushOrFinal
  else
    final .procTerminate

/-- The callback of `SendRequest`, with no response on a transport error. -/
def requestCallback (env : Env) (moduleType : ProcType) : Option HttpResponse → Flow Unit
  | some response => procResponse env moduleType response
  | none => httpErrorProcess moduleType

/-! ## `Session::Process` -/

/-- `Process` of the module of a step. -/
def moduleProcess (env : Env) : ProcType → Flow Unit
  | .downloadImage => httpProcess env .downloadImage
  | .traceSpace => httpProcess env .traceSpace
  | .generateUrl => httpProcess env .generateUrl
  | .getPlugin => getPluginProcess
  | .businessSave => businessSaveProcess
  | .picWait => pictureWaitProcess env
  | .outputKafka => outputKafkaProcess env

/-- `Session::Process`; no module is registered for the empty chain. -/
def sessionProcess (env : Env) : Flow Unit := do
  match (← get).procChain with
  | [] => final .procTerminate
  | proc :: rest =>
    modify fun session => { session with procChain := rest }
    moduleProcess env proc

/-- The step of a session with a chain is that of its first module. -/
theorem sessionProcess_cons {env : Env} {session : Session} {proc : ProcType} {rest : List ProcType}
    (chain : session.procChain = proc :: rest) :
    (sessionProcess env).run session = (moduleProcess env proc).run { session with procChain := rest } := by
  unfold sessionProcess
  rw [StateT.run_bind, StateT.run_get, pure_bind]
  dsimp only
  rw [chain]
  rfl

theorem sessionProcess_nil {env : Env} {session : Session} (chain : session.procChain = []) :
    (sessionProcess env).run session = (final .procTerminate).run session := by
  unfold sessionProcess
  rw [StateT.run_bind, StateT.run_get, pure_bind]
  dsimp only
  rw [chain]

end XBusiness
