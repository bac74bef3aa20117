import XBusiness.Data.BaseData

/-! # Sessions

The fields of `Session` and of the results it carries, the virtual functions of the data
classes that need no session, and the process chains.
-/

namespace XBusiness

/-- `ProcType`, without the two markers that are no step of any chain. -/
inductive ProcType where
  | downloadImage
  | outputKafka
  | picWait
  | businessSave
  | generateUrl
  | traceSpace
  | getPlugin
  deriving DecidableEq, Repr

/-- `ErrCode`, the codes that a session is finalised with. -/
inductive ErrCode where
  | success
  | procTerminate
  | kafkaError
  | downloadError
  | httpConnError
  | mongoFailed
  deriving DecidableEq, Repr

structure PersonResultAttribute where
  type : String := ""
  value : String := ""
  confidence : Int := 0
  mtime : Int := 0
  isManual : Bool := false
  deriving DecidableEq, Repr

structure PersonResult where
  id : String := ""
  type : Int := 0
  similar : Rat
  setName : String := ""
  setType : String := ""
  url : String := ""
  isAutoReg : Int := 0
  genUrl : String := ""
  genUrlExpire : Int := 0
  atime : Int := 0
  personAttributes : List PersonResultAttribute := []
  deriving DecidableEq, Repr

structure TrackResult where
  age : Int := -1
  gender : Int := -1
  score : Rat := 0
  deriving DecidableEq, Repr

structure ImageInfo where
  url : String
  img : String
  deriving DecidableEq, Repr

structure SaveMongoData where
  eventType : Int := 0
  msgType : Int := 0
  eventTime : Int := 0
  trackId : Int := 0
  urls : List String := []
  deriving DecidableEq, Repr

/-- `Session`, with `KafkaData_` of its handler. `ref` is the identity of the object. -/
structure Session where
  ref : Nat
  kafkaData : BaseData
  httpRetryTime : Nat
  currentType : Option ProcType := none
  currentDownloadUrl : String := ""
  uid : String
  sessionId : String
  images : List ImageInfo := []
  trackResult : TrackResult := {}
  personResult : PersonResult
  traceSpaceResult : String := ""
  procChain : List ProcType
  saveMongoData : SaveMongoData := {}
  isFinished : Bool := false

/-! ## Process chains -/

namespace MsgType

def businessCapture : Int := 2

end MsgType

/-- `BusinessData::makeProcessChain`. -/
def businessChain (self : BaseData) : List ProcType :=
  if self.event.msgType = MsgType.businessCapture then
    -- what Redis has released does not wait again
    if self.src = .redis then
      [.getPlugin, .businessSave, .generateUrl, .outputKafka]
    else
      [.picWait, .getPlugin, .businessSave, .generateUrl, .outputKafka]
  else
    [.getPlugin, .businessSave]

/-- `PreHandler::makeProcessChain`: the chain of the class, or the default one. -/
def makeProcessChain (self : BaseData) : List ProcType :=
  match self.dataClass with
  | .business => businessChain self
  | .screenshot => [.outputKafka]
  | .xiashunBusiness => [.businessSave]
  | .xiashunCapture => [.downloadImage, .traceSpace, .businessSave, .generateUrl, .outputKafka]
  | .capture => [.getPlugin, .downloadImage, .traceSpace, .picWait, .generateUrl, .outputKafka]

/-- The constructor of `Session` with `init`.  A negative configured retry count wraps around
    in the unsigned member. -/
def Session.make (env : Env) (ref : Nat) (kafkaData : BaseData) : Session where
  ref := ref
  kafkaData := kafkaData
  httpRetryTime :=
    match env.conf.getIntValue "common" "httpretrytime" with
    | some times => (times % 2 ^ 64).toNat
    | none => 3
  uid := kafkaData.msgId
  sessionId := kafkaData.msgId
  personResult := { similar := env.uninit.similar }
  saveMongoData := {
    eventType := env.uninit.eventType, msgType := env.uninit.msgType, eventTime := env.uninit.eventTime,
    trackId := env.uninit.trackId }
  procChain := makeProcessChain kafkaData

/-! ## Virtual functions of the data classes -/

namespace BaseData

/-- Whether the faces are those of the event or those of the captured person. -/
def captureFaces (self : BaseData) : List CaptureFace :=
  match self.dataClass with
  | .business => self.event.captureUris
  | .capture | .xiashunCapture => self.capture.person.faces.map Face.toCaptureFace
  | .screenshot | .xiashunBusiness => []

/-- `getUrlCount` and `getFaceCount`, which agree in every class. -/
def getUrlCount (self : BaseData) : Nat := self.captureFaces.length

/-- `url_index_` of the event and `face_index_` of the person. -/
def urlIndex (self : BaseData) : Nat :=
  match self.dataClass with
  | .business => self.event.urlIndex
  | .capture | .xiashunCapture => self.capture.person.faceIndex
  | .screenshot | .xiashunBusiness => 0

def setUrlIndex (self : BaseData) (index : Nat) : BaseData :=
  match self.dataClass with
  | .business => { self with event := { self.event with urlIndex := index } }
  | .capture | .xiashunCapture =>
    { self with capture :=
      { self.capture with person := { self.capture.person with faceIndex := index } } }
  | .screenshot | .xiashunBusiness => self

/-- `HasNextUrl`. -/
def hasNextUrl (self : BaseData) : Bool := self.urlIndex < self.getUrlCount

/-- `GetNextUrl`. -/
def getNextUrl (self : BaseData) : String × BaseData :=
  match self.captureFaces[self.urlIndex]? with
  | some face => (face.url, self.setUrlIndex (self.urlIndex + 1))
  | none => ("", self)

/-- `RetreatUrl`. -/
def retreatUrl (self : BaseData) : BaseData := self.setUrlIndex (self.urlIndex - 1)

/-- One corner of `getFaceRectByOrder`: the element of the face box less that of the picture
    box.  An element that is not there, or an overflow, is undefined. -/
def rectCorner (face : CaptureFace) (corner origin : Nat) : Except Fault String :=
  match face.faceBox[corner]?, face.picBox[origin]? with
  | some left, some right => (checkInt (left - right)).map toString
  | _, _ => .error .undefined

/-- `getFaceRectByOrder`. -/
def getFaceRectByOrder (self : BaseData) (faceNum : Nat) : Except Fault String :=
  match self.captureFaces[faceNum]? with
  | none => .ok ""
  | some face =>
    if face.faceBox ≠ [] ∧ face.picBox ≠ [] then do
      let left ← rectCorner face 0 0
      let top ← rectCorner face 1 1
      let right ← rectCorner face 2 0
      let bottom ← rectCorner face 3 1
      return left ++ "," ++ top ++ "," ++ right ++ "," ++ bottom
    else .ok ""

/-- `getFaceAgeByOrder` and `getFaceGenderByOrder`: a field of a captured face. -/
def faceFieldByOrder (field : Face → Int) (self : BaseData) (faceNum : Nat) : Int :=
  match self.dataClass with
  | .capture | .xiashunCapture => (self.capture.person.faces[faceNum]?.map field).getD (-1)
  | .business | .screenshot | .xiashunBusiness => -1

def getFaceAgeByOrder : BaseData → Nat → Int := faceFieldByOrder Face.age

def getFaceGenderByOrder : BaseData → Nat → Int := faceFieldByOrder Face.gender

/-- The loop of `getPicWaitKey`: the greatest last path segment. -/
def greatestSegment (maxurl : String) : List CaptureFace → String
  | [] => maxurl
  | face :: rest =>
    let temp := getsplitstr face.url
    if maxurl = "" then greatestSegment temp rest
    else greatestSegment (if maxurl < temp then temp else maxurl) rest

def getPicWaitKey (self : BaseData) : String :=
  match self.dataClass with
  | .business | .capture => greatestSegment "" self.captureFaces
  | .screenshot | .xiashunBusiness | .xiashunCapture => ""

/-- `getTrackID`. -/
def getTrackId (self : BaseData) : Int :=
  match self.dataClass with
  | .business => self.event.trackId
  | .capture | .xiashunCapture => self.capture.person.trackId
  | .screenshot | .xiashunBusiness => 0

def getReplay (self : BaseData) : Int :=
  match self.dataClass with
  | .business => self.event.replay
  | .capture => self.capture.replay
  | .screenshot | .xiashunBusiness | .xiashunCapture => 0

end BaseData

/-! ## `GetSaveMongoData` -/

/-- The data that `SaveBusinessMongo` stores; no data for a class without it. `urls` are those
    the session holds already, as the source appends to them. -/
def getSaveMongoData (self : BaseData) (urls : List String) : Except Fault (Option SaveMongoData) :=
  match self.dataClass with
  | .business => .ok (some {
      eventType := self.event.eventType
      msgType := self.event.msgType
      eventTime := self.event.eventTime
      trackId := self.event.trackId
      urls := urls ++ self.event.captureUris.map CaptureFace.url })
  | .xiashunBusiness => .ok (some {
      eventType := self.event.eventType
      msgType := self.event.msgType
      eventTime := self.event.eventTime
      trackId := self.event.trackId
      urls := urls })
  | .xiashunCapture =>
    match self.capture.person.faces with
    -- `faces_[0]` is read without a check
    | [] => .error .undefined
    | first :: rest => .ok (some {
        eventType := 0
        msgType := 2
        eventTime := first.tmst
        trackId := self.capture.person.trackId
        urls := urls ++ (first :: rest).map fun face => face.url })
  | .capture | .screenshot => .ok none

end XBusiness
