import XBusiness.Lib.Outcome
import XBusiness.Data.BaseData

/-! # The messages that the parsers throw on

`ParseData` and the five `parse` functions guard what they read of a message field by field, and
two of them forget it for the elements of an array: a face is asked for members whatever it is, and
a track id of the background is converted whatever it is.  `messageFault` finds these in the
documents of a message.

* `parseData_eq` — the factory itself never throws.
* `fault?_parse` — what each `parse` throws on.
-/

namespace XBusiness

open Interaction

/-! ## The documents of a message -/

/-- A member that is a text, or the empty text. -/
def textOf (json : Json) (name : String) : String := ((json.find? name).bind Json.string?).getD ""

/-- The elements of a member that is an array. -/
def elementsOf (json : Json) (name : String) : List Json := ((json.find? name).bind Json.array?).getD []

/-- The document that is the text of a member. -/
def documentOf (env : Env) (json : Json) (name : String) : Option Json :=
  ((json.find? name).bind Json.string?).bind env.text.parseJson

/-- The member `data`, as an object or as the text of one. -/
def dataOf (env : Env) (totalJv : Json) : Option Json :=
  match totalJv.find? "data" with
  | some (.object members) => some (.object members)
  | some (.string text) => env.text.parseJson text
  | _ => none

/-- The class that goes with a payload type. -/
def classOf (payloadType : Int) : Option DataClass :=
  if payloadType = PayloadType.business then some .business
  else if payloadType = PayloadType.trace then some .capture
  else if payloadType = PayloadType.screenshot then some .screenshot
  else if payloadType = PayloadType.xiashunBusiness then some .xiashunBusiness
  else if payloadType = PayloadType.xiashunCapture then some .xiashunCapture
  else none

/-- The tenant that a message names, in one of two ways. -/
def appIdOf (dataJv : Json) : String :=
  if textOf dataJv "levelone_name" = "app_id" ∧ textOf dataJv "levelone_id" ≠ "" then
    textOf dataJv "levelone_id"
  else textOf dataJv "app_id"

/-- The message names its device and its tenant. -/
def namesDevice (dataJv : Json) : Bool :=
  ((dataJv.find? "did").bind Json.string?).isSome && decide (appIdOf dataJv ≠ "")

/-- The payload, where a class gets as far as reading it. -/
def payloadRead (env : Env) (dataClass : DataClass) (dataJv : Json) : Option Json :=
  if dataClass = .screenshot ∧ (documentOf env dataJv "bid").isNone then none
  else if namesDevice dataJv then documentOf env dataJv "payload"
  else none

/-! ## What throws in them -/

/-- A face that is neither an object nor null. -/
def personFault (pesnJv : Json) : Option Fault :=
  if (elementsOf pesnJv "face").all Json.hasMembers then none else some .exception

/-- A track id that is no unsigned number. -/
def backgroundFault (bkgdJv : Json) : Option Fault :=
  if (elementsOf bkgdJv "tkid").all Json.convertsToUInt then none else some .exception

def scrennshotFault (payloadJv : Json) : Option Fault := do
  let captureJv ← (payloadJv.find? "capture").bind Json.object?
  let bkgdJv ← (captureJv.find? "bkgd").bind Json.object?
  backgroundFault bkgdJv

def captureFault (payloadJv : Json) : Option Fault := do
  let captureJv ← (payloadJv.find? "capture").bind Json.object?
  match (captureJv.find? "pesn").bind Json.object? with
  | some pesnJv => personFault pesnJv
  | none => scrennshotFault payloadJv

/-- A message type whose data type is no `int`. -/
def eventFault (payloadJv : Json) : Option Fault := do
  let eventJv ← (payloadJv.find? "event").bind Json.object?
  let msgType ← (eventJv.find? "msg_type").bind Json.int?
  if InInt32 (msgType + 2) then none else some .undefined

def payloadFault (dataClass : DataClass) (payloadJv : Json) : Option Fault :=
  match dataClass with
  | .business => eventFault payloadJv
  | .capture | .xiashunCapture => captureFault payloadJv
  | .screenshot => scrennshotFault payloadJv
  | .xiashunBusiness => none

/-- What the parsers throw on a message. -/
def messageFault (env : Env) (payload : String) : Option Fault := do
  let totalJv ← env.text.parseJson payload
  let dataJv ← dataOf env totalJv
  let payloadType ← (dataJv.find? "ptype").bind Json.int?
  let dataClass ← classOf payloadType
  let payloadJv ← payloadRead env dataClass dataJv
  payloadFault dataClass payloadJv

/-! ## The factory -/

theorem readData_eq {env : Env} {totalJv : Json} (has : totalJv.hasMembers = true) :
    readData env totalJv = .ok (dataOf env totalJv) := by
  cases totalJv with
  | null => rfl
  | object members =>
    simp only [readData, dataOf, Json.isMember, Json.member, Json.find?]
    cases members.lookup "data" with
    | none => rfl
    | some dataJv => cases dataJv <;> rfl
  | _ => cases has

theorem hasMembers_of_dataOf {env : Env} {totalJv dataJv : Json}
    (found : dataOf env totalJv = some dataJv) : dataJv.hasMembers = true := by
  unfold dataOf at found
  split at found
  · cases found
    rfl
  · exact JsonText.hasMembers_of_parseJson found
  · cases found

/-- The factory returns for every text. -/
theorem parseData_eq (env : Env) (data : Option PmPtr) (payload : String) :
    parseData env data payload = .ok (do
      let totalJv ← env.text.parseJson payload
      let dataJv ← dataOf env totalJv
      let payloadType ← (dataJv.find? "ptype").bind Json.int?
      let dataClass ← classOf payloadType
      return .make env dataClass payloadType totalJv data) := by
  unfold parseData
  cases parsed : env.text.parseJson payload with
  | none => rfl
  | some totalJv =>
    simp only [readData_eq (JsonText.hasMembers_of_parseJson parsed), ok_bind, Option.bind_eq_bind,
      Option.bind_some]
    cases found : dataOf env totalJv with
    | none => rfl
    | some dataJv =>
      simp only [Json.member?_eq (hasMembers_of_dataOf found), ok_bind, Option.bind_some]
      cases (dataJv.find? "ptype").bind Json.int? with
      | none => rfl
      | some payloadType =>
        simp only [Option.bind_some, classOf]
        -- one case for each class
        repeat' split
        all_goals rfl

/-- What the factory makes, it makes of the documents of the text. -/
theorem parseData_reads {env : Env} {data : Option PmPtr} {payload : String} {made : BaseData}
    (ran : parseData env data payload = .ok (some made)) :
    ∃ totalJv dataJv payloadType dataClass, env.text.parseJson payload = some totalJv ∧
      dataOf env totalJv = some dataJv ∧ (dataJv.find? "ptype").bind Json.int? = some payloadType ∧
      classOf payloadType = some dataClass ∧ made = .make env dataClass payloadType totalJv data := by
  rw [parseData_eq, Except.ok.injEq] at ran
  obtain ⟨totalJv, read, ran⟩ := Option.bind_eq_some_iff.mp ran
  obtain ⟨dataJv, found, ran⟩ := Option.bind_eq_some_iff.mp ran
  obtain ⟨payloadType, type, ran⟩ := Option.bind_eq_some_iff.mp ran
  obtain ⟨dataClass, isClass, same⟩ := Option.bind_eq_some_iff.mp ran
  cases same
  exact ⟨totalJv, dataJv, payloadType, dataClass, read, found, type, isClass, rfl⟩

/-! ## The parsers -/

/-- The first thing that is read of a face decides: it has members or it has none. -/
theorem fault?_parseFace (face : Json) :
    fault? (parseFace face) = if face.hasMembers then none else some .exception := by
  unfold parseFace readBox
  cases has : face.hasMembers with
  | true => simp [Json.memberD_eq has, Json.member?_eq has]
  | false => simp [Json.memberD_error has]

theorem fault?_trackId (json : Json) :
    fault? (castInt <$> json.asUInt) = if json.convertsToUInt then none else some .exception := by
  rw [fault?_map]
  cases converts : json.convertsToUInt with
  | true =>
    obtain ⟨value, read⟩ := Json.asUInt_eq converts
    simp [read]
  | false => simp [Json.asUInt_error converts]

/-- Elements that are read one by one, where one of the wrong kind throws. -/
theorem fault?_elements {α : Type} {read : Json → Except Fault α} {kind : Json → Bool}
    (reads : ∀ json, fault? (read json) = if kind json then none else some .exception) (values : List Json) :
    fault? (values.mapM read) = if values.all kind then none else some .exception := by
  rw [fault?_mapM]
  induction values with
  | nil => rfl
  | cons head rest inductionHypothesis =>
    rw [List.findSome?_cons, reads, inductionHypothesis, List.all_cons]
    cases kind head <;> rfl

theorem fault?_parsePerson (person : Person) {pesnJv : Json} (has : pesnJv.hasMembers = true) :
    fault? (parsePerson person pesnJv) = personFault pesnJv := by
  unfold parsePerson
  simp only [Json.memberD_eq has, ok_bind]
  rw [fault?_bind fun _ => fault?_pure _, fault?_elements fault?_parseFace, Option.or_none]
  rfl

theorem fault?_parseBackground (background : Background) {bkgdJv : Json}
    (has : bkgdJv.hasMembers = true) :
    fault? (parseBackground background bkgdJv) = backgroundFault bkgdJv := by
  unfold parseBackground
  simp only [Json.memberD_eq has, ok_bind]
  rw [fault?_bind fun _ => fault?_pure _, fault?_elements fault?_trackId, Option.or_none]
  rfl

theorem fault?_parseScrennshot (self : BaseData) {payloadJv : Json} (has : payloadJv.hasMembers = true) :
    fault? (parseScrennshot self payloadJv) = scrennshotFault payloadJv := by
  unfold parseScrennshot scrennshotFault
  simp only [Json.member?_eq has, ok_bind]
  cases capture : (payloadJv.find? "capture").bind Json.object? with
  | none => rfl
  | some captureJv =>
    have has := Json.hasMembers_of_object capture
    simp only [Json.memberD_eq has, Json.member?_eq has, ok_bind, Option.bind_eq_bind, Option.bind_some]
    cases bkgd : (captureJv.find? "bkgd").bind Json.object? with
    | none => rfl
    | some bkgdJv =>
      dsimp only
      rw [fault?_bind fun _ => fault?_pure _, fault?_parseBackground _ (Json.hasMembers_of_object bkgd),
        Option.or_none]
      rfl

theorem fault?_parseCapture (self : BaseData) {payloadJv : Json} (has : payloadJv.hasMembers = true) :
    fault? (parseCapture self payloadJv) = captureFault payloadJv := by
  unfold parseCapture captureFault scrennshotFault
  simp only [Json.member?_eq has, ok_bind]
  cases capture : (payloadJv.find? "capture").bind Json.object? with
  | none => rfl
  | some captureJv =>
    have has := Json.hasMembers_of_object capture
    simp only [Json.memberD_eq has, Json.member?_eq has, ok_bind, Option.bind_eq_bind, Option.bind_some]
    cases pesn : (captureJv.find? "pesn").bind Json.object? with
    | some pesnJv =>
      dsimp only
      rw [fault?_bind fun _ => fault?_pure _, fault?_parsePerson _ (Json.hasMembers_of_object pesn),
        Option.or_none]
    | none =>
      dsimp only
      cases bkgd : (captureJv.find? "bkgd").bind Json.object? with
      | none => rfl
      | some bkgdJv =>
        dsimp only
        rw [fault?_bind fun _ => fault?_pure _, fault?_parseBackground _ (Json.hasMembers_of_object bkgd),
          Option.or_none]
        rfl

/-- An element of `capture_uris` is only asked for members where it is an object. -/
theorem fault?_parseCaptureFace (face : Json) : fault? (parseCaptureFace face) = none := by
  cases face with
  | object members =>
    have has : (Json.object members).hasMembers = true := rfl
    simp [parseCaptureFace, readBox, Json.memberD_eq has]
  | _ => rfl

theorem fault?_readCaptureUris (event : EventInfo) {eventJv : Json} (has : eventJv.hasMembers = true) :
    fault? (readCaptureUris event eventJv) = none := by
  unfold readCaptureUris
  simp only [Json.member?_eq has, ok_bind]
  cases (eventJv.find? "capture_uris").bind Json.array? with
  | none => rfl
  | some faces =>
    dsimp only
    rw [fault?_mapM]
    simp [fault?_parseCaptureFace]

theorem fault?_parseBusinessEvent (self : BaseData) {payloadJv : Json}
    (has : payloadJv.hasMembers = true) :
    fault? (parseBusinessEvent self payloadJv) = eventFault payloadJv := by
  unfold parseBusinessEvent eventFault
  simp only [Json.member?_eq has, ok_bind]
  cases event : (payloadJv.find? "event").bind Json.object? with
  | none => rfl
  | some eventJv =>
    have has := Json.hasMembers_of_object event
    simp only [Json.memberD_eq has, Json.member?_eq has, ok_bind, Option.bind_eq_bind, Option.bind_some]
    obtain ⟨captureUris, read⟩ := fault?_eq_none.mp (fault?_readCaptureUris self.event has)
    -- what is read after the data type never throws
    refine (fault?_bind fun datatype => (?_ : fault? _ = none)).trans ?_
    · simp [read]
    · rw [Option.or_none]
      cases (eventJv.find? "msg_type").bind Json.int? with
      | none => rfl
      | some msgType =>
        simp only [readDatatype, checkInt, Option.bind_some]
        split <;> rfl

theorem fault?_parseFlowEvent (self : BaseData) {payloadJv : Json} (has : payloadJv.hasMembers = true) :
    fault? (parseFlowEvent self payloadJv) = none := by
  unfold parseFlowEvent
  simp only [Json.member?_eq has, ok_bind]
  cases event : (payloadJv.find? "event").bind Json.object? with
  | none => rfl
  | some eventJv =>
    have has := Json.hasMembers_of_object event
    simp [Json.memberD_eq has]

/-- A task is only asked for members where it is an object. -/
theorem fault?_parseTask (task : Json) : fault? (parseTask task) = none := by
  cases task with
  | object members =>
    have has : (Json.object members).hasMembers = true := rfl
    simp [parseTask, Json.member_eq has]
  | _ => rfl

theorem fault?_parseTasks (self : BaseData) {tasksJv : Json} (has : tasksJv.hasMembers = true) :
    fault? (parseTasks self tasksJv) = none := by
  unfold parseTasks
  simp only [Json.member?_eq has, ok_bind]
  cases (tasksJv.find? "tasks").bind Json.array? with
  | none => rfl
  | some tasks =>
    dsimp only
    rw [fault?_bind fun _ => fault?_pure _, fault?_mapM]
    simp [fault?_parseTask]

/-! ## The five classes -/

/-- The device is read without a throw, and is missing where the message does not name it. -/
theorem parseIpcInfo_eq {ipc : IpcInfo} (fresh : ipc.appId = "") {dataJv : Json}
    (has : dataJv.hasMembers = true) :
    ∃ parsed, parseIpcInfo ipc dataJv = .ok parsed ∧ parsed.isSome = namesDevice dataJv := by
  unfold parseIpcInfo
  simp only [Json.memberD_eq has, Json.member?_eq has, ok_bind, fresh]
  cases device : (dataJv.find? "did").bind Json.string? with
  | none => exact ⟨none, rfl, by simp [namesDevice, device]⟩
  | some deviceId =>
    by_cases tenant : appIdOf dataJv = ""
    · exact ⟨none, if_pos tenant, by simp [namesDevice, device, tenant]⟩
    · exact ⟨some _, if_neg tenant, by simp [namesDevice, device, tenant]⟩

section Classes

variable {env : Env} {self : BaseData} {dataJv : Json}

/-- What the four classes share: the payload is read where the message names its device. -/
theorem fault?_parseWith {parsePayload : BaseData → Json → Except Fault (Option BaseData)}
    {payloadFault : Json → Option Fault} (has : self.totalJv.hasMembers = true)
    (fresh : self.ipc.appId = "") (found : dataOf env self.totalJv = some dataJv)
    (reads : ∀ self payloadJv, payloadJv.hasMembers = true →
      fault? (parsePayload self payloadJv) = payloadFault payloadJv) :
    fault? (parseWith env parsePayload self) =
      (if namesDevice dataJv then documentOf env dataJv "payload" else none).bind payloadFault := by
  have hasData := hasMembers_of_dataOf found
  obtain ⟨ipc, device, named⟩ := parseIpcInfo_eq fresh hasData
  rw [← named]
  unfold parseWith documentOf
  simp only [readData_eq has, found, Json.memberD_eq has, Json.member?_eq hasData, ok_bind, device]
  cases (dataJv.find? "payload").bind Json.string? with
  | none => simp
  | some payload =>
    simp only [Option.bind_some]
    cases parsed : env.text.parseJson payload with
    | none => simp
    | some payloadJv =>
      cases ipc with
      | none => rfl
      | some ipc => exact reads _ _ (JsonText.hasMembers_of_parseJson parsed)

/-- Every other class reads the payload where the message names its device. -/
theorem payloadRead_other {dataClass : DataClass} (other : dataClass ≠ .screenshot) (env : Env)
    (dataJv : Json) : payloadRead env dataClass dataJv =
      if namesDevice dataJv then documentOf env dataJv "payload" else none := by
  simp [payloadRead, other]

theorem fault?_parseCaptureData (has : self.totalJv.hasMembers = true) (fresh : self.ipc.appId = "")
    (found : dataOf env self.totalJv = some dataJv) :
    fault? (parseCaptureData env self) =
      (if namesDevice dataJv then documentOf env dataJv "payload" else none).bind captureFault := by
  unfold parseCaptureData
  refine (fault?_bind fun parsed => (?_ : fault? _ = none)).trans ?_
  · cases parsed <;> rfl
  · rw [Option.or_none]
    exact fault?_parseWith has fresh found fun _ _ => fault?_parseCapture _

/-- A screenshot wants its tasks first. -/
theorem payloadRead_screenshot (env : Env) (dataJv : Json) :
    payloadRead env .screenshot dataJv = (documentOf env dataJv "bid").bind fun _ =>
      if namesDevice dataJv then documentOf env dataJv "payload" else none := by
  unfold payloadRead
  cases documentOf env dataJv "bid" <;> simp

theorem fault?_parseScreenshoot (has : self.totalJv.hasMembers = true) (fresh : self.ipc.appId = "")
    (found : dataOf env self.totalJv = some dataJv) :
    fault? (parseScreenshoot env self) =
      (payloadRead env .screenshot dataJv).bind scrennshotFault := by
  have hasData := hasMembers_of_dataOf found
  obtain ⟨ipc, device, named⟩ := parseIpcInfo_eq fresh hasData
  rw [payloadRead_screenshot, ← named]
  unfold parseScreenshoot documentOf
  simp only [readData_eq has, found, Json.memberD_eq has, Json.member?_eq hasData, ok_bind, device]
  cases (dataJv.find? "bid").bind Json.string? with
  | none => simp
  | some bid =>
    simp only [Option.bind_some]
    cases bidParsed : env.text.parseJson bid with
    | none => simp
    | some tasksJv =>
      cases (dataJv.find? "payload").bind Json.string? with
      | none => simp
      | some payload =>
        simp only [Option.bind_some]
        cases parsed : env.text.parseJson payload with
        | none => simp
        | some payloadJv =>
          cases ipc with
          | none => rfl
          | some ipc =>
            have hasPayload := JsonText.hasMembers_of_parseJson parsed
            have hasTasks := JsonText.hasMembers_of_parseJson bidParsed
            simp only [Option.isSome_some, if_true, Option.bind_some]
            refine (fault?_bind fun read => (?_ : fault? _ = none)).trans ?_
            · cases read with
              | none => rfl
              | some read => exact fault?_parseTasks read hasTasks
            · rw [Option.or_none]
              exact fault?_parseScrennshot _ hasPayload

/-- What `parse` throws on, for an object as the factory makes it. -/
theorem fault?_parse (has : self.totalJv.hasMembers = true) (fresh : self.ipc.appId = "")
    (found : dataOf env self.totalJv = some dataJv) :
    fault? (self.parse env) =
      (payloadRead env self.dataClass dataJv).bind (payloadFault self.dataClass) := by
  unfold BaseData.parse
  cases self.dataClass with
  | business =>
    rw [payloadRead_other (by decide)]
    exact fault?_parseWith has fresh found fun self _ => fault?_parseBusinessEvent self
  | capture =>
    rw [payloadRead_other (by decide)]
    exact fault?_parseCaptureData has fresh found
  | screenshot => exact fault?_parseScreenshoot has fresh found
  | xiashunBusiness =>
    rw [payloadRead_other (by decide)]
    exact fault?_parseWith has fresh found fun self _ => fault?_parseFlowEvent self
  | xiashunCapture =>
    rw [payloadRead_other (by decide)]
    exact fault?_parseWith has fresh found fun self _ => fault?_parseCapture self

end Classes

end XBusiness
