import XBusiness.Workflow.Calls

/-! # `makeKafkaRequest`

The records that each data class makes for a session, with the topics they go to.
`CaptureData` looks its face set up in Mongo first.
-/

namespace XBusiness

open XBusiness.Flow (call)

structure KafkaOutputInfo where
  topic : String
  data : String
  deriving DecidableEq, Repr

/-! ## Parts of a record -/

/-- `SwitchFaceSetIdBySetName`, which `CaptureData` and `BusinessSave` both have. -/
def switchFaceSetIdBySetName : Flow Bool := do
  let setName := (← get).personResult.setName
  if setName = "" then
    return true
  else if ← call .tryAcquire then
    match ← call (.findOne "faceset" [("set_name", .eq (.utf8 setName))]) with
    | .found view =>
      match Bson.getOid (view.lookup "_id") with
      | none => return false
      | some facesetId =>
        -- the name gives way to the id before the type is read
        modify fun session => { session with
          personResult := { session.personResult with setName := facesetId } }
        match Bson.getUtf8 (view.lookup "faceset_type") with
        | none => return false
        | some setType =>
          modify fun session => { session with
            personResult := { session.personResult with setType := setType } }
          return true
    | .notFound => return false
    | .exception => return false
  else
    return false

/-- The attributes of the person, those of the listed types as numbers. -/
def setAttributes (numeric : List String) (dataJv : Json) :
    List PersonResultAttribute → Json
  | [] => dataJv
  | elem :: rest =>
    if elem.type ≠ "" then
      let value := if elem.type ∈ numeric then Json.int (atoi elem.value) else .string elem.value
      setAttributes numeric (dataJv.set elem.type value) rest
    else
      setAttributes numeric dataJv rest

def urlJson (url expire : String) : Json :=
  (Json.null.set "expire" (.string expire)).set "url" (.string url)

/-- `capture_url`. -/
def captureUrlJson (face : CaptureFace) : Json := urlJson face.genUrl (utcTime face.genUrlExpire)

/-- `match_url`, which is empty for a person that is not registered. -/
def matchUrlJson (person : PersonResult) : Json :=
  if substr person.id.toList 0 5 = "noreg" then urlJson "" ""
  else urlJson person.genUrl (utcTime person.genUrlExpire)

def recordJson (ipc : IpcInfo) (dataJv : Json) : Json :=
  (Json.null.set "data" dataJv).set "source"
    (.string ("/" ++ ipc.appId ++ "/" ++ ipc.spaceId ++ "/" ++ ipc.deviceId))

/-- The configured topic of a section. -/
def sectionTopic (env : Env) (section_ : String) : String :=
  (env.conf.getValue section_ "topic").getD ""

/-! ## The classes -/

/-- `BusinessData::makeKafkaRequest`. -/
def makeBusinessKafkaRequest (env : Env) (session : Session) : List KafkaOutputInfo :=
  let self := session.kafkaData
  let event := self.event
  let person := session.personResult
  let gender :=
    if session.trackResult.gender = -1 then event.gender else session.trackResult.gender
  let age := if session.trackResult.age = -1 then event.age else session.trackResult.age
  let dataJv := Json.null.set "app_id" (.string self.ipc.appId)
  let dataJv := dataJv.set "space_id" (.string self.ipc.spaceId)
  let dataJv := dataJv.set "device_sn" (.string self.ipc.deviceId)
  let dataJv := dataJv.set "track_id" (.int event.trackId)
  let dataJv := dataJv.set "in_out_type" (.int event.eventType)
  let dataJv := dataJv.set "event_time" (.int event.eventTime)
  let dataJv := dataJv.set "msg_type" (.int event.msgType)
  let dataJv := dataJv.set "data_type" (.int self.plugin.datatype)
  let send (dataJv : Json) : List KafkaOutputInfo :=
    let data := env.text.toStyledString (recordJson self.ipc dataJv)
    let plugin := if self.plugin.enable then self.plugin.topiclist else []
    plugin.map (fun topic => { topic := topic, data := data }) ++
      [{ topic := sectionTopic env "business_capture", data := data }]
  if event.msgType = 1 then
    let dataJv := dataJv.set "age" (.int age)
    let dataJv := dataJv.set "manual_age" (.int (-1))
    send (dataJv.set "gender" (.int gender))
  else if event.msgType = 2 then
    let dataJv := dataJv.set "face_id" (.string person.id)
    let dataJv := dataJv.set "faceset_id" (.string person.setName)
    let dataJv := dataJv.set "faceset_type" (.string person.setType)
    let dataJv := setAttributes ["gender", "manual_age", "age"] dataJv person.personAttributes
    let dataJv := dataJv.set "score" (.real person.similar)
    match event.captureUris with
    -- without a picture there is no record at all
    | [] => []
    | face :: _ =>
      let dataJv := dataJv.set "capture_url" (captureUrlJson face)
      send (dataJv.set "match_url" (matchUrlJson person))
  else
    send dataJv

/-- `CaptureData::makeKafkaRequest`.  Its `return -1` converts to true, so a face set that is
    not found ends in success without records. -/
def makeCaptureKafkaRequest (env : Env) : Flow (List KafkaOutputInfo) := do
  if ← switchFaceSetIdBySetName then
    let session ← get
    let self := session.kafkaData
    let person := session.personResult
    match self.capture.person.faces with
    | [] => Flow.ofExcept (.error .undefined)
    | face :: _ =>
      -- a time in seconds is written in milliseconds
      let eventTime ← Flow.ofExcept
        (if face.systm < 2000000000 then checkInt64 (face.systm * 1000) else .ok face.systm)
      let dataJv := Json.null.set "app_id" (.string self.ipc.appId)
      let dataJv := dataJv.set "space_id" (.string self.ipc.spaceId)
      let dataJv := dataJv.set "device_sn" (.string self.ipc.deviceId)
      let dataJv := dataJv.set "event_time" (.int eventTime)
      let dataJv := dataJv.set "track_id" (.int self.capture.person.trackId)
      let dataJv := dataJv.set "face_id" (.string person.id)
      let dataJv := dataJv.set "faceset_id" (.string person.setName)
      let dataJv := dataJv.set "faceset_type" (.string person.setType)
      let dataJv := dataJv.set "data_type" (.int self.plugin.datatype)
      let dataJv := setAttributes ["gender", "manual_age", "age"] dataJv person.personAttributes
      let dataJv := dataJv.set "score" (.real person.similar)
      let dataJv := dataJv.set "capture_url" (captureUrlJson face.toCaptureFace)
      let dataJv := dataJv.set "capture_time" (.int face.systm)
      let dataJv := dataJv.set "match_url" (matchUrlJson person)
      let data := env.text.toStyledString (recordJson self.ipc dataJv)
      if self.plugin.enable then
        return self.plugin.topiclist.map fun topic => { topic := topic, data := data }
      else
        return [{ topic := sectionTopic env "common_capture", data := data }]
  else
    return []

/-- `xiashunCaptureData::makeKafkaRequest`. -/
def makeXiashunCaptureKafkaRequest (env : Env) (session : Session) :
    Except Fault (List KafkaOutputInfo) :=
  let self := session.kafkaData
  let person := session.personResult
  match self.capture.person.faces with
  | [] => .error .undefined
  | face :: _ =>
    let dataJv := Json.null.set "app_id" (.string self.ipc.appId)
    let dataJv := dataJv.set "space_id" (.string self.ipc.spaceId)
    let dataJv := dataJv.set "device_sn" (.string self.ipc.deviceId)
    let dataJv := dataJv.set "track_id" (.int self.capture.person.trackId)
    let dataJv := dataJv.set "face_id" (.string person.id)
    let dataJv := dataJv.set "faceset_id" (.string person.setName)
    let dataJv := dataJv.set "faceset_type" (.string person.setType)
    let dataJv := dataJv.set "in_out_type" (.int 0)
    let dataJv := dataJv.set "event_time" (.int face.tmst)
    let dataJv := dataJv.set "msg_type" (.int 2)
    let dataJv := setAttributes ["gender", "age_group", "age"] dataJv person.personAttributes
    let dataJv := dataJv.set "score" (.real person.similar)
    let dataJv := dataJv.set "capture_url" (captureUrlJson face.toCaptureFace)
    let dataJv := dataJv.set "match_url" (matchUrlJson person)
    .ok [{
      topic := sectionTopic env "business_capture"
      data := env.text.toStyledString (recordJson self.ipc dataJv) }]

/-- `RequestType::Screenshot`. -/
def screenshotRequest : Int := 6

/-- `ScreenshootData::makeKafkaRequest`. -/
def makeScreenshootKafkaRequest (env : Env) (self : BaseData) : List KafkaOutputInfo :=
  let outJv := Json.null.set "device_id" (.string self.ipc.deviceId)
  let outJv := outJv.set "time" (.int (castInt self.ipc.timestamp))
  let outJv := outJv.set "ptype" (.int self.payloadType)
  let outJv := outJv.set "payload" (.string self.payload)
  let wanted := self.taskArry.filter fun task => task.type = screenshotRequest && task.extra ≠ "city"
  wanted.map fun task => {
    topic := sectionTopic env "screenshot"
    data := env.text.toStyledString (outJv.set "app_id" (.string task.uid)) }

/-- `PreHandler::makeKafkaRequest`: no list where it returns false. -/
def makeKafkaRequest (env : Env) : Flow (Option (List KafkaOutputInfo)) := do
  let session ← get
  match session.kafkaData.dataClass with
  | .business => return some (makeBusinessKafkaRequest env session)
  | .capture => return some (← makeCaptureKafkaRequest env)
  | .xiashunCapture => return some (← Flow.ofExcept (makeXiashunCaptureKafkaRequest env session))
  | .screenshot => return some (makeScreenshootKafkaRequest env session.kafkaData)
  | .xiashunBusiness => return none

end XBusiness
