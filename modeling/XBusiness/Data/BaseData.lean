import XBusiness.Common.ComFunc
import XBusiness.Consumer.DataDefine

/-! # The data of a Kafka message

`BaseData` with its five classes: the fields of the message, the parsers that fill them
from JSON, and the virtual functions that need no session.  A parser gives no object where
the C++ function returns false, and throws where an exception leaves it.
-/

namespace XBusiness

/-! ## What surrounds the code -/

/-- The values found in the members that no constructor initialises: of `IPCInfo`, of `PersonResult`
    and of `SaveMongoData`. -/
structure Uninit where
  timestamp : Int
  similar : Rat
  eventType : Int := 0
  msgType : Int := 0
  eventTime : Int := 0
  trackId : Int := 0

/-- The configuration file: `getValue` and `getIntValue`, by section and key. -/
structure Conf where
  getValue : String → String → Option String
  getIntValue : String → String → Option Int

structure Env where
  text : JsonText
  conf : Conf
  uninit : Uninit

/-! ## Fields -/

/-- `IPCInfo`. -/
structure IpcInfo where
  spaceId : String := ""
  appId : String := ""
  deviceId : String := ""
  uid : String := ""
  version : String := ""
  timestamp : Int
  deriving DecidableEq, Repr

/-- `EventInfo::CaptureFace`. -/
structure CaptureFace where
  picBox : List Int := []
  faceBox : List Int := []
  url : String := ""
  genUrl : String := ""
  genUrlExpire : Int := 0
  deriving DecidableEq, Repr

/-- `CaptureInfo::Person::Face`. -/
structure Face extends CaptureFace where
  tmst : Int := 0
  systm : Int := 0
  age : Int := 0
  gender : Int := 0
  deriving DecidableEq, Repr

structure EventInfo where
  groupId : String := ""
  extra : String := ""
  eventTime : Int := 0
  sendTime : Int := 0
  lineId : Int := 0
  eventType : Int := 0
  msgType : Int := 0
  trackId : Int := 0
  captureUris : List CaptureFace := []
  age : Int := 0
  gender : Int := 0
  replay : Int := 0
  urlIndex : Nat := 0
  deriving DecidableEq, Repr

structure Background where
  tmst : Int := 0
  systm : Int := 0
  trackIds : List Int := []
  url : String := ""
  deriving DecidableEq, Repr

structure Person where
  trackId : Int := 0
  faces : List Face := []
  faceIndex : Nat := 0
  deriving DecidableEq, Repr

structure CaptureInfo where
  type : Int := 0
  replay : Int := 0
  background : Background := {}
  person : Person := {}
  deriving DecidableEq, Repr

structure PluginInfo where
  enable : Bool := false
  appId : String := ""
  datatype : Int := 0
  faceRectFrom : Int := 0
  faceAttrFrom : Int := 0
  replayPushFlag : Int := 0
  serviceAdapter : String := ""
  topiclist : List String := []
  deriving DecidableEq, Repr

structure TaskInfo where
  taskId : String
  uid : String
  deviceId : String
  extra : String
  type : Int
  deriving DecidableEq, Repr

/-- The class of the object that `ParseDataFactory` makes. -/
inductive DataClass where
  | business
  | capture
  | screenshot
  | xiashunBusiness
  | xiashunCapture
  deriving DecidableEq, Repr

/-- `kSrcFromRedis`, `kSrcFromKafka`. -/
inductive Source where
  | redis
  | kafka
  deriving DecidableEq, Repr

/-- A `std::shared_ptr<PM_DATA>`: which node of which partition, and its message. -/
structure PmPtr where
  partition : Int
  node : Nat
  msg : Consumer.Message
  deriving DecidableEq, Repr

structure BaseData where
  dataClass : DataClass
  payloadType : Int
  totalJv : Json
  src : Source
  ipc : IpcInfo
  msgId : String := ""
  data : Option PmPtr
  event : EventInfo := {}
  capture : CaptureInfo := {}
  plugin : PluginInfo := {}
  payload : String := ""
  taskArry : List TaskInfo := []

/-- The constructor of `BaseData`. -/
def BaseData.make (env : Env) (dataClass : DataClass) (payloadType : Int) (totalJv : Json)
    (data : Option PmPtr) : BaseData where
  dataClass := dataClass
  payloadType := payloadType
  totalJv := totalJv
  src := if data = none then .redis else .kafka
  ipc := { timestamp := env.uninit.timestamp }
  data := data

/-! ## `ParseDataFactory` -/

namespace PayloadType

def screenshot : Int := 1
def trace : Int := 8
def business : Int := 32
def xiashunCapture : Int := 64
def xiashunBusiness : Int := 128

end PayloadType

/-- The member `data`, as an object or as the text of one. -/
def readData (env : Env) (totalJv : Json) : Except Fault (Option Json) := do
  if ← totalJv.isMember "data" then
    match ← totalJv.member "data" with
    | .object members => return some (.object members)
    | .string text => return env.text.parseJson text
    | _ => return none
  else
    return none

def parseData (env : Env) (data : Option PmPtr) (payload : String) :
    Except Fault (Option BaseData) := do
  match env.text.parseJson payload with
  | none => return none
  | some totalJv =>
    match ← readData env totalJv with
    | none => return none
    | some dataJv =>
      match ← dataJv.member? "ptype" Json.int? with
      | none => return none
      | some payloadType =>
        if payloadType = PayloadType.business then
          return some (.make env .business payloadType totalJv data)
        else if payloadType = PayloadType.trace then
          return some (.make env .capture payloadType totalJv data)
        else if payloadType = PayloadType.screenshot then
          return some (.make env .screenshot payloadType totalJv data)
        else if payloadType = PayloadType.xiashunBusiness then
          return some (.make env .xiashunBusiness payloadType totalJv data)
        else if payloadType = PayloadType.xiashunCapture then
          return some (.make env .xiashunCapture payloadType totalJv data)
        else
          return none

/-! ## Parsers -/

/-- `BaseData::parseIpcInfo`. -/
def parseIpcInfo (ipc : IpcInfo) (dataJv : Json) : Except Fault (Option IpcInfo) := do
  let uid ← dataJv.memberD "uid" Json.string? ipc.uid
  let version ← dataJv.memberD "ver" Json.string? ipc.version
  match ← dataJv.member? "did" Json.string? with
  | none => return none
  | some deviceId =>
    let timestamp ← dataJv.memberD "tmst" Json.int64? ipc.timestamp
    let appId ← dataJv.memberD "app_id" Json.string? ipc.appId
    let spaceId ← dataJv.memberD "space_id" Json.string? ipc.spaceId
    let leveloneName ← dataJv.memberD "levelone_name" Json.string? ""
    let leveltwoName ← dataJv.memberD "leveltwo_name" Json.string? ""
    let leveloneId ← dataJv.memberD "levelone_id" Json.string? ""
    let leveltwoId ← dataJv.memberD "leveltwo_id" Json.string? ""
    let appId := if leveloneName = "app_id" ∧ leveloneId ≠ "" then leveloneId else appId
    let spaceId := if leveltwoName = "space_id" ∧ leveltwoId ≠ "" then leveltwoId else spaceId
    if appId = "" then
      return none
    else
      let spaceId := if spaceId = "" then appId ++ "defaultspace" else spaceId
      return some {
        spaceId := spaceId, appId := appId, deviceId := deviceId, uid := uid, version := version,
        timestamp := timestamp }

/-- The elements of a box that are ints. -/
def readBox (face : Json) (name : String) : Except Fault (List Int) := do
  let box ← face.memberD name Json.array? []
  return box.filterMap Json.int?

/-- An element of `capture_uris`: a url, or an object with its boxes. -/
def parseCaptureFace (face : Json) : Except Fault CaptureFace := do
  match face with
  | .string url => return { url := url }
  | .object _ =>
    let url ← face.memberD "uri" Json.string? ""
    let picBox ← readBox face "pibx"
    let faceBox ← readBox face "fcbx"
    return { picBox := picBox, faceBox := faceBox, url := url }
  | _ => return {}

/-- The data type of an event, which goes by its message type. -/
def readDatatype (plugin : PluginInfo) : Option Int → Except Fault Int
  | some msgType => checkInt (msgType + 2)
  | none => return plugin.datatype

def readCaptureUris (event : EventInfo) (eventJv : Json) : Except Fault (List CaptureFace) := do
  match ← eventJv.member? "capture_uris" Json.array? with
  | some faces => faces.mapM parseCaptureFace
  | none => return event.captureUris

/-- `BusinessData::ParseEvent`. -/
def parseBusinessEvent (self : BaseData) (payloadJv : Json) : Except Fault (Option BaseData) := do
  match ← payloadJv.member? "event" Json.object? with
  | none => return none
  | some eventJv =>
    let event := self.event
    let replay ← eventJv.memberD "replay" Json.int? event.replay
    let groupId ← eventJv.memberD "group_id" Json.string? event.groupId
    let extra ← eventJv.memberD "extra" Json.string? event.extra
    let eventTime ← eventJv.memberD "event_time" Json.int64? event.eventTime
    let sendTime ← eventJv.memberD "send_time" Json.int64? event.sendTime
    let lineId ← eventJv.memberD "line_id" Json.int? event.lineId
    let eventType ← eventJv.memberD "event_type" Json.int? event.eventType
    let msgType? ← eventJv.member? "msg_type" Json.int?
    let datatype ← readDatatype self.plugin msgType?
    let trackId ← eventJv.memberD "track_id" Json.int64? event.trackId
    let captureUris ← readCaptureUris event eventJv
    let age ← eventJv.memberD "age" Json.int? event.age
    let gender ← eventJv.memberD "gender" Json.int? event.gender
    return some { self with
      event := { event with
        replay := replay, groupId := groupId, extra := extra, eventTime := eventTime,
        sendTime := sendTime, lineId := lineId, eventType := eventType,
        msgType := msgType?.getD event.msgType, trackId := trackId, captureUris := captureUris,
        age := age, gender := gender }
      plugin := { self.plugin with datatype := datatype } }

/-- An element of `face`. -/
def parseFace (face : Json) : Except Fault Face := do
  let tmst ← face.memberD "tmst" Json.int64? 0
  let systm ← face.memberD "systm" Json.int64? 0
  let url ← face.memberD "uri" Json.string? ""
  let picBox ← readBox face "pibx"
  let faceBox ← readBox face "fcbx"
  let age ← face.member? "age" Json.int?
  let gender ← face.memberD "sex" Json.int? 0
  return {
    picBox := picBox, faceBox := faceBox, url := url, tmst := tmst, systm := systm,
    age := (age.map ageGroup).getD 0, gender := gender }

def parsePerson (person : Person) (pesnJv : Json) : Except Fault Person := do
  let trackId ← pesnJv.memberD "tkid" Json.int64? person.trackId
  let faceJvs ← pesnJv.memberD "face" Json.array? []
  let faces ← faceJvs.mapM parseFace
  return { person with trackId := trackId, faces := person.faces ++ faces }

def parseBackground (background : Background) (bkgdJv : Json) : Except Fault Background := do
  let trackIdJvs ← bkgdJv.memberD "tkid" Json.array? []
  -- `track_ids_` is a `std::list<int>`
  let trackIds ← trackIdJvs.mapM fun trackId => castInt <$> trackId.asUInt
  let tmst ← bkgdJv.memberD "tmst" Json.int64? background.tmst
  let systm ← bkgdJv.memberD "systm" Json.int64? background.systm
  let url ← bkgdJv.memberD "uri" Json.string? background.url
  return {
    tmst := tmst, systm := systm, trackIds := background.trackIds ++ trackIds, url := url }

/-- `CaptureData::ParseCapture` and `xiashunCaptureData::ParseCapture`, which agree. -/
def parseCapture (self : BaseData) (payloadJv : Json) : Except Fault (Option BaseData) := do
  match ← payloadJv.member? "capture" Json.object? with
  | none => return none
  | some captureJv =>
    let capture := self.capture
    let replay ← captureJv.memberD "replay" Json.int? capture.replay
    match ← captureJv.member? "pesn" Json.object? with
    | some pesnJv =>
      let person ← parsePerson capture.person pesnJv
      return some { self with
        capture := { capture with type := capture.type + 1, replay := replay, person := person } }
    | none =>
      match ← captureJv.member? "bkgd" Json.object? with
      | some bkgdJv =>
        let background ← parseBackground capture.background bkgdJv
        return some { self with
          capture := { capture with
            type := capture.type + 2, replay := replay, background := background } }
      | none => return some { self with capture := { capture with replay := replay } }

/-- `ScreenshootData::ParseScrennshot`. -/
def parseScrennshot (self : BaseData) (payloadJv : Json) : Except Fault (Option BaseData) := do
  match ← payloadJv.member? "capture" Json.object? with
  | none => return none
  | some captureJv =>
    let capture := self.capture
    let replay ← captureJv.memberD "replay" Json.int? capture.replay
    match ← captureJv.member? "bkgd" Json.object? with
    | some bkgdJv =>
      let background ← parseBackground capture.background bkgdJv
      return some { self with
        capture := { capture with
          type := capture.type + 2, replay := replay, background := background } }
    | none => return some { self with capture := { capture with replay := replay } }

/-- `xiashunBusinessData::ParseEvent`. -/
def parseFlowEvent (self : BaseData) (payloadJv : Json) : Except Fault (Option BaseData) := do
  match ← payloadJv.member? "event" Json.object? with
  | none => return none
  | some eventJv =>
    let event := { self.event with msgType := 0 }
    let replay ← eventJv.memberD "replay" Json.int? event.replay
    let eventTime ← eventJv.memberD "timestamp" Json.int64? event.eventTime
    let lineId ← eventJv.memberD "line_id" Json.int? event.lineId
    let eventType ← eventJv.memberD "flow_type" Json.int? event.eventType
    let trackId ← eventJv.memberD "person_id" Json.int64? event.trackId
    return some { self with
      event := { event with
        replay := replay, eventTime := eventTime, lineId := lineId, eventType := eventType,
        trackId := trackId } }

/-- A task of a screenshot message; elements that are no objects are skipped. -/
def parseTask (task : Json) : Except Fault (Option TaskInfo) := do
  match task with
  | .object _ =>
    let requestType := (← task.member "busi_type").int?.getD 0
    let taskId := (← task.member "task_id").string?.getD ""
    let uid := (← task.member "uid").string?.getD ""
    let deviceId := (← task.member "device_id").string?.getD ""
    let extra := (← task.member "extra").string?.getD ""
    return some { taskId := taskId, uid := uid, deviceId := deviceId, extra := extra, type := requestType }
  | _ => return none

/-- `ScreenshootData::parseTasks`. -/
def parseTasks (self : BaseData) (tasksJv : Json) : Except Fault (Option BaseData) := do
  match ← tasksJv.member? "tasks" Json.array? with
  | some tasks =>
    let parsed ← tasks.mapM parseTask
    return some { self with taskArry := self.taskArry ++ parsed.filterMap id }
  | none => return some self

/-- What the `parse` of four of the classes share: the data object, the message id, the
    payload and the device, then the part of the class itself. -/
def parseWith (env : Env) (parsePayload : BaseData → Json → Except Fault (Option BaseData))
    (self : BaseData) : Except Fault (Option BaseData) := do
  match ← readData env self.totalJv with
  | none => return none
  | some dataJv =>
    let msgId ← self.totalJv.memberD "msg_id" Json.string? self.msgId
    match ← dataJv.member? "payload" Json.string? with
    | none => return none
    | some payload =>
      match env.text.parseJson payload with
      | none => return none
      | some payloadJv =>
        match ← parseIpcInfo self.ipc dataJv with
        | none => return none
        | some ipc => parsePayload { self with msgId := msgId, ipc := ipc } payloadJv

/-- `BusinessData::parse`. -/
def parseBusiness (env : Env) (self : BaseData) : Except Fault (Option BaseData) :=
  parseWith env parseBusinessEvent self

/-- `CaptureData::parse`. -/
def parseCaptureData (env : Env) (self : BaseData) : Except Fault (Option BaseData) := do
  match ← parseWith env parseCapture self with
  | none => return none
  | some self => return some { self with plugin := { self.plugin with datatype := 1 } }

/-- `xiashunBusinessData::parse`. -/
def parseXiashunBusiness (env : Env) (self : BaseData) : Except Fault (Option BaseData) :=
  parseWith env parseFlowEvent self

/-- `xiashunCaptureData::parse`. -/
def parseXiashunCapture (env : Env) (self : BaseData) : Except Fault (Option BaseData) :=
  parseWith env parseCapture self

/-- `ScreenshootData::parse`, which reads the tasks of `bid` before the payload. -/
def parseScreenshoot (env : Env) (self : BaseData) : Except Fault (Option BaseData) := do
  match ← readData env self.totalJv with
  | none => return none
  | some dataJv =>
    let msgId ← self.totalJv.memberD "msg_id" Json.string? self.msgId
    match ← dataJv.member? "bid" Json.string? with
    | none => return none
    | some bid =>
      match env.text.parseJson bid with
      | none => return none
      | some tasksJv =>
        match ← dataJv.member? "payload" Json.string? with
        | none => return none
        | some payload =>
          match env.text.parseJson payload with
          | none => return none
          | some payloadJv =>
            match ← parseIpcInfo self.ipc dataJv with
            | none => return none
            | some ipc =>
              let self := { self with msgId := msgId, payload := payload, ipc := ipc }
              match ← parseScrennshot self payloadJv with
              | none => return none
              | some self => parseTasks self tasksJv

/-- The virtual `parse`. -/
def BaseData.parse (env : Env) (self : BaseData) : Except Fault (Option BaseData) :=
  match self.dataClass with
  | .business => parseBusiness env self
  | .capture => parseCaptureData env self
  | .screenshot => parseScreenshoot env self
  | .xiashunBusiness => parseXiashunBusiness env self
  | .xiashunCapture => parseXiashunCapture env self

end XBusiness
