import XBusiness.Workflow.Calls

/-! # `PreHandler`

The HTTP requests it makes for a session and the responses it reads: image download, trace
space and url generation.  `getPersonResult` and `ProcTraceSpaceResponse` read the same
answer of the trace-space service and differ in the error codes they accept.
-/

namespace XBusiness

open XBusiness.Flow (call)

/-! ## Urls -/

/-- The object that names a stored picture. -/
def storageUrlJson (url : StorageUrl) : Json :=
  ((Json.null.set "endpoint" (.string url.endpoint)).set "bucket" (.string url.bucket)).set
    "key" (.string url.key)

/-- `GetGenerateUrlData`: one entry for each face, and none at all when a url does not split. -/
def getGenerateUrlData (self : BaseData) : Option (List Json) :=
  match self.dataClass with
  | .business | .capture | .xiashunCapture =>
    self.captureFaces.mapM fun face => (splitUri face.url).map storageUrlJson
  | .screenshot | .xiashunBusiness => none

/-! ## Requests -/

def jsonHeader : List (String × String) := [("Content-Type", "application/json")]

/-- `makeDownloadRequest`. -/
def makeDownloadRequest (env : Env) : Flow (Option RequestInfo) := do
  let session ← get
  if session.kafkaData.getUrlCount ≤ 0 then
    return none
  else
    -- the cursor moves on before the url is looked at
    let (url, kafkaData) := session.kafkaData.getNextUrl
    modify fun session => { session with currentDownloadUrl := url, kafkaData := kafkaData }
    if url = "" then
      return none
    else
      match splitUri url with
      | none => return none
      | some parts =>
        match env.conf.getValue "s3proxy" "path" with
        | none => return none
        | some path =>
          return some {
            method := "POST", path := path, extra := jsonHeader,
            body := env.text.toStyledString (storageUrlJson parts) }

/-- The rectangle, age and gender of a face, where the plugin leaves them to the device. -/
def imageAttributes (self : BaseData) (index : Nat) (image : Json) : Except Fault Json := do
  let rect :=
    if self.plugin.enable = false ∨ self.plugin.faceRectFrom = 0 then
      self.getFaceRectByOrder index
    else .ok ""
  let rect ← rect
  let image := if rect ≠ "" then image.set "face_rect" (.string rect) else image
  if self.plugin.enable = false ∨ self.plugin.faceAttrFrom = 0 then
    return (image.set "age" (.int (self.getFaceAgeByOrder index))).set "gender"
      (.int (self.getFaceGenderByOrder index))
  else
    return (image.set "age" (.int (-2))).set "gender" (.int (-2))

/-- The entries of `images`, from the given index on. -/
def imageEntries (self : BaseData) : Nat → List ImageInfo → Except Fault (List Json)
  | _, [] => return []
  | index, image :: rest => do
    let entry ← imageAttributes self index (Json.null.set "url" (.string image.url))
    let encoded := String.ofList (base64Encode (image.img.toList.map Char.toNat))
    let entries ← imageEntries self (index + 1) rest
    return entry.set "image_base64" (.string encoded) :: entries

/-- `makeTraceSpaceRequest`, which finalises a session without images. -/
def makeTraceSpaceRequest (env : Env) : Flow (Option RequestInfo) := do
  let session ← get
  if session.images = [] then
    -- the caller finalises it once more
    final .downloadError
    return none
  else
    let data := session.kafkaData
    let images ← Flow.ofExcept (imageEntries data 0 session.images)
    let outJv := Json.null.set "dossier_name" (.string data.ipc.spaceId)
    let outJv := outJv.set "model_version" (.string "")
    let outJv := outJv.set "device_id" (.string data.ipc.deviceId)
    let outJv := outJv.set "uid" (.string session.sessionId)
    let outJv := outJv.set "ipc_tmst" (.int data.ipc.timestamp)
    let outJv := outJv.set "track_id" (.int data.getTrackId)
    let outJv := outJv.set "replay" (.int data.getReplay)
    let outJv := outJv.set "images" (.array images)
    return some {
      method := "POST", path := "/api/xtrace/capture/identify?app_id=" ++ data.ipc.appId,
      body := env.text.toStyledString outJv }

/-- `makeGenerateUrlRequest`. -/
def makeGenerateUrlRequest (env : Env) : Flow (Option RequestInfo) := do
  let session ← get
  let person : Option (List Json) :=
    if session.personResult.url ≠ "" then
      (splitUri session.personResult.url).map fun parts => [storageUrlJson parts]
    else some []
  match getGenerateUrlData session.kafkaData, person with
  | some faces, some person =>
    let list := faces ++ person
    let outJv := if list = [] then Json.null else Json.null.set "list" (.array list)
    match env.conf.getValue "s3proxy" "gen_url_path" with
    | none => return none
    | some path =>
      return some {
        method := "POST", path := path, extra := jsonHeader, body := env.text.toStyledString outJv }
  | _, _ => return none

/-- `PreHandler::makeRequest`. -/
def makeRequest (env : Env) (procType : ProcType) : Flow (Option RequestInfo) :=
  match procType with
  | .downloadImage => makeDownloadRequest env
  | .traceSpace => makeTraceSpaceRequest env
  | .generateUrl => makeGenerateUrlRequest env
  | .outputKafka | .picWait | .businessSave | .getPlugin => return none

/-! ## The answer of the trace-space service -/

/-- An element of `attribute`; one with an empty type is skipped. -/
def parseAttribute (attributeJv : Json) : Except Fault (Option PersonResultAttribute) := do
  match ← attributeJv.member? "type" Json.string? with
  | some "" => return none
  | type =>
    let value ← attributeJv.memberD "value" Json.string? ""
    let confidence ← attributeJv.memberD "confidence" Json.int? 0
    let mtime ← attributeJv.memberD "mtime" Json.int? 0
    let isManual ← attributeJv.memberD "is_manual" Json.bool? false
    return some {
      type := type.getD "", value := value, confidence := confidence, mtime := mtime,
      isManual := isManual }

def parseTrack (track : Json) (result : TrackResult) : Except Fault TrackResult := do
  let age ← track.memberD "age" Json.int? result.age
  let gender ← track.memberD "gender" Json.int? result.gender
  let score ← track.memberD "score" Json.double? result.score
  return { age := age, gender := gender, score := score }

/-- The person of the answer.  Without a `manual_age` attribute one with value -1 is added. -/
def parsePersonResult (person : Json) (result : PersonResult) : Except Fault PersonResult := do
  let id ← person.memberD "id" Json.string? result.id
  let url ← person.memberD "url" Json.string? result.url
  let setName ← person.memberD "set_name" Json.string? result.setName
  let type ← person.memberD "type" Json.int? result.type
  let isAutoReg ← person.memberD "is_auto_reg" Json.int? result.isAutoReg
  let similar ← person.memberD "slimilar" Json.double? result.similar
  let atime ← person.memberD "atime" Json.int? result.atime
  let attributeJvs ← person.memberD "attribute" Json.array? []
  let attributes := (← attributeJvs.mapM parseAttribute).filterMap fun elem => elem
  let manualAge : List PersonResultAttribute :=
    if attributes.any fun elem => elem.type = "manual_age" then []
    else [{ type := "manual_age", value := "-1" }]
  return { result with
    id := id, url := url, setName := setName, type := type, isAutoReg := isAutoReg,
    similar := similar, atime := atime,
    personAttributes := result.personAttributes ++ attributes ++ manualAge }

/-- The reading of an answer, with the error codes that are let through. -/
def parseTraceAnswer (env : Env) (accepts : Int → Bool) (body : String) : SessionFn Bool := do
  match env.text.parseJson body with
  | none => return false
  | some bodyJv =>
    match ← bodyJv.member? "error_code" Json.int? with
    | none => return false
    | some errorCode =>
      if accepts errorCode then
        match ← bodyJv.member? "result" Json.object? with
        | none => return false
        | some result =>
          match ← result.member? "track_result" Json.object? with
          | none => return false
          | some track =>
            -- the track is stored although the person may still be refused
            let trackResult ← parseTrack track (← get).trackResult
            modify fun session => { session with trackResult := trackResult }
            match ← result.member? "person_result" Json.object? with
            | none => return false
            | some person =>
              let personResult ← parsePersonResult person (← get).personResult
              modify fun session => { session with personResult := personResult }
              return true
      else
        return false

/-- `PreHandler::getPersonResult`. -/
def getPersonResult (env : Env) (picResult : String) : SessionFn Bool :=
  parseTraceAnswer env (· = 0) picResult

/-! ## Responses -/

/-- `HttpClient::Response`. -/
structure HttpResponse where
  statusCode : String
  content : String
  deriving DecidableEq, Repr

/-- `ProcTraceSpaceResponse`. -/
def procTraceSpaceResponse (env : Env) (response : HttpResponse) : SessionFn Bool := do
  if containsText "200" response.statusCode then
    if ← parseTraceAnswer env (fun code => code = 0 || code = -10041) response.content then
      modify fun session => { session with traceSpaceResult := response.content }
      return true
    else
      return false
  else
    return false

/-- `ProcImageResponse`. -/
def procImageResponse (response : HttpResponse) : SessionFn Bool := do
  if containsText "200" response.statusCode then
    if response.content ≠ "" then
      modify fun session => { session with
        images := session.images ++ [{ url := session.currentDownloadUrl, img := response.content }] }
    -- the next picture is asked for, with an image of this one or without
    if (← get).kafkaData.hasNextUrl then
      modify fun session => { session with procChain := .downloadImage :: session.procChain }
    return true
  else
    return false

/-- The checks of one result of the url generation: whether its code is 1, the url and the
    expiry. -/
def readGenUrl (result : Json) : Except Fault (Option (Bool × String × Int)) := do
  match ← result.member? "errorcode" Json.int? with
  | none => return none
  | some _ =>
    match ← result.member? "url" Json.string? with
    | none => return none
    | some url =>
      match ← result.member? "expiretime" Json.int? with
      | none => return none
      | some expire => return some ((← result.member "errorcode").isIntConst 1, url, expire)

/-- The loop of `GetGenUrl` over the faces, with the faces as far as they were updated. -/
def genFaceUrls (resultlist : Json) : Nat → List CaptureFace → Except Fault (Bool × List CaptureFace)
  | _, [] => return (true, [])
  | index, face :: rest => do
    match ← readGenUrl (← resultlist.element index) with
    -- the faces before it keep what they were given
    | none => return (false, face :: rest)
    | some (generated, url, expire) =>
      let face := if generated then { face with genUrl := url, genUrlExpire := expire } else face
      let (complete, rest) ← genFaceUrls resultlist (index + 1) rest
      return (complete, face :: rest)

def BaseData.setCaptureFaces (self : BaseData) (faces : List CaptureFace) : BaseData :=
  match self.dataClass with
  | .business => { self with event := { self.event with captureUris := faces } }
  | .capture | .xiashunCapture =>
    { self with capture := { self.capture with
        person := { self.capture.person with
          faces := List.zipWith (fun face shared => { face with toCaptureFace := shared })
            self.capture.person.faces faces } } }
  | .screenshot | .xiashunBusiness => self

theorem map_zipWith_toCaptureFace (faces : List Face) (shared : List CaptureFace)
    (same : shared.length = faces.length) :
    (List.zipWith (fun face shared => { face with toCaptureFace := shared }) faces shared).map
      Face.toCaptureFace = shared := by
  induction shared generalizing faces with
  | nil => simp
  | cons first rest inductionHypothesis =>
    cases faces with
    | nil => cases same
    | cons face faces => simp [inductionHypothesis faces (Nat.succ.inj same)]

/-- The faces that are put in place are the faces then. -/
theorem captureFaces_setCaptureFaces (self : BaseData) {faces : List CaptureFace}
    (same : faces.length = self.captureFaces.length) : (self.setCaptureFaces faces).captureFaces = faces := by
  obtain ⟨dataClass⟩ := self
  cases dataClass with
  | business => rfl
  | capture | xiashunCapture =>
    simp only [BaseData.captureFaces, List.length_map] at same
    exact map_zipWith_toCaptureFace _ faces same
  | screenshot | xiashunBusiness =>
    exact (List.eq_nil_of_length_eq_zero same).symm

/-- `GetGenUrl`. -/
def getGenUrl (bodyJv : Json) : SessionFn Bool := do
  let session ← get
  match session.kafkaData.dataClass with
  | .screenshot | .xiashunBusiness => return false
  | .business | .capture | .xiashunCapture =>
    let faces := session.kafkaData.captureFaces
    let resultlist ← (bodyJv.member "resultlist" : Except Fault Json)
    let (complete, updated) ← (genFaceUrls resultlist 0 faces : Except Fault _)
    modify fun session => { session with kafkaData := session.kafkaData.setCaptureFaces updated }
    if complete then
      if session.personResult.url ≠ "" then
        -- the person is the last of the list
        match ← (do readGenUrl (← resultlist.element faces.length) : Except Fault _) with
        | none => return false
        | some (generated, url, expire) =>
          if generated then
            modify fun session => { session with
              personResult := { session.personResult with genUrl := url, genUrlExpire := expire } }
          return true
      else
        return true
    else
      return false

/-- `ProcGenerateUrlResponse`. -/
def procGenerateUrlResponse (env : Env) (response : HttpResponse) : SessionFn Bool := do
  if containsText "200" response.statusCode then
    if response.content ≠ "" then
      match env.text.parseJson response.content with
      | none => return false
      | some bodyJv =>
        match ← (bodyJv.member? "resultlist" Json.array? : Except Fault _) with
        | none => return false
        | some results =>
          let session ← get
          let urlCount := session.kafkaData.getUrlCount +
            (if session.personResult.url ≠ "" then 1 else 0)
          if results.length ≠ urlCount then
            return false
          else
            getGenUrl bodyJv
    else
      -- an empty body is accepted, and nothing is generated
      return true
  else
    return false

/-- `PreHandler::ProcResponse`. -/
def procHandlerResponse (env : Env) (procType : ProcType) (response : HttpResponse) : SessionFn Bool :=
  match procType with
  | .downloadImage => procImageResponse response
  | .traceSpace => procTraceSpaceResponse env response
  | .generateUrl => procGenerateUrlResponse env response
  | .outputKafka | .picWait | .businessSave | .getPlugin => return false

end XBusiness
