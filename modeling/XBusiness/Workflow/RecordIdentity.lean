import XBusiness.Workflow.Responses

/-! # The identity of a record

The three classes with a person write `data` of a record in the same order: fields of the message and of the
person, the attributes under the names that the trace-space service gave them, and the fields of the pictures.
An attribute that is called like a field before it takes the place of the field.

* `RecordData` — the parts of `data`, which write every field once.
* `find?_setAttributes` — what the attributes leave under a name.
* `makeKafkaRequest_records` — the records of the three classes are made of such parts.
* `record_identity_iff` — when the fields that identify a record are those of the message and of the person.
-/

namespace XBusiness

open Interaction

/-! ## Writing several fields -/

/-- The fields are written one after the other. -/
def Json.setAll (json : Json) (fields : List (String × Json)) : Json :=
  fields.foldl (fun json field => json.set field.1 field.2) json

theorem find?_setAll_of_notMem {key : String} {fields : List (String × Json)}
    (absent : key ∉ fields.map Prod.fst) (json : Json) : (json.setAll fields).find? key = json.find? key := by
  induction fields generalizing json with
  | nil => rfl
  | cons field rest inductionHypothesis =>
    simp only [List.map_cons, List.mem_cons, not_or] at absent
    have kept : (json.set field.1 field.2).find? key = json.find? key := by
      rw [Json.find?_set, if_neg absent.1]
    exact (inductionHypothesis absent.2 _).trans kept

theorem find?_setAll_of_mem {fields : List (String × Json)} (distinct : (fields.map Prod.fst).Nodup)
    {field : String × Json} (written : field ∈ fields) (json : Json) :
    (json.setAll fields).find? field.1 = some field.2 := by
  induction fields generalizing json with
  | nil => cases written
  | cons first rest inductionHypothesis =>
    rw [List.map_cons, List.nodup_cons] at distinct
    rcases List.mem_cons.mp written with rfl | written
    · have first : (json.set field.1 field.2).find? field.1 = some field.2 := by
        rw [Json.find?_set, if_pos rfl]
      exact (find?_setAll_of_notMem distinct.1 _).trans first
    · exact inductionHypothesis distinct.2 written _

/-- A member is what the fields make of it, and of the member before them. -/
theorem find?_setAll_congr {key : String} {json other : Json} (same : json.find? key = other.find? key)
    (fields : List (String × Json)) : (json.setAll fields).find? key = (other.setAll fields).find? key := by
  induction fields generalizing json other with
  | nil => exact same
  | cons field rest inductionHypothesis =>
    apply inductionHypothesis
    rw [Json.find?_set, Json.find?_set, same]

/-! ## The attributes -/

/-- The last attribute of a type.  One without a type is skipped. -/
def lastOfType (type : String) (attributes : List PersonResultAttribute) : Option PersonResultAttribute :=
  attributes.reverse.find? fun elem => elem.type ≠ "" ∧ elem.type = type

/-- What an attribute writes. -/
def attributeJson (numeric : List String) (elem : PersonResultAttribute) : Json :=
  if elem.type ∈ numeric then .int (atoi elem.value) else .string elem.value

theorem lastOfType_cons (type : String) (elem : PersonResultAttribute) (rest : List PersonResultAttribute) :
    lastOfType type (elem :: rest) =
      (lastOfType type rest).or (if elem.type ≠ "" ∧ elem.type = type then some elem else none) := by
  rw [lastOfType, List.reverse_cons, List.find?_append, List.find?_singleton, lastOfType]
  simp only [decide_eq_true_eq]

theorem type_of_lastOfType {type : String} {attributes : List PersonResultAttribute}
    {elem : PersonResultAttribute} (last : lastOfType type attributes = some elem) : elem.type = type := by
  rw [lastOfType] at last
  have kept := List.find?_some last
  exact (of_decide_eq_true kept).2

theorem lastOfType_eq_none {type : String} {attributes : List PersonResultAttribute}
    (absent : ∀ elem ∈ attributes, elem.type ≠ type) : lastOfType type attributes = none := by
  rw [lastOfType, List.find?_eq_none]
  intro elem found
  simpa using fun _ => absent elem (List.mem_reverse.mp found)

/-- Under a name stands what the last attribute of that type writes, or what was there before. -/
theorem find?_setAttributes (numeric : List String) (key : String) (dataJv : Json)
    (attributes : List PersonResultAttribute) :
    (setAttributes numeric dataJv attributes).find? key =
      ((lastOfType key attributes).map (attributeJson numeric)).or (dataJv.find? key) := by
  induction attributes generalizing dataJv with
  | nil => rfl
  | cons elem rest inductionHypothesis =>
    rw [setAttributes, lastOfType_cons]
    by_cases written : elem.type ≠ ""
    · rw [if_pos written, inductionHypothesis, Json.find?_set]
      by_cases same : key = elem.type
      · have both : elem.type ≠ "" ∧ elem.type = key := ⟨written, same.symm⟩
        rw [if_pos same, if_pos both]
        cases lastOfType key rest <;> rfl
      · rw [if_neg same, if_neg fun both => same both.2.symm, Option.or_none]
    · rw [if_neg written, inductionHypothesis, if_neg fun both => written both.1, Option.or_none]

/-! ## The parts of `data` -/

/-- The parts of `data` in the order in which they are written.  No field is written twice, and an attribute
    that is called like a field before the attributes is written as a text. -/
structure RecordData where
  own : List (String × Json)
  numeric : List String
  attributes : List PersonResultAttribute
  later : List (String × Json)
  distinct : ((own ++ later).map Prod.fst).Nodup
  textual : ∀ field ∈ own, field.1 ∉ numeric

namespace RecordData

def json (data : RecordData) : Json :=
  (setAttributes data.numeric (Json.null.setAll data.own) data.attributes).setAll data.later

/-- The same without attributes. -/
def plain (data : RecordData) : RecordData := { data with attributes := [] }

variable (data : RecordData)

/-- A field in front of the attributes gives way to an attribute of its name. -/
theorem find?_own {field : String × Json} (written : field ∈ data.own) :
    data.json.find? field.1 =
      some (((lastOfType field.1 data.attributes).map fun elem => .string elem.value).getD field.2) := by
  have distinct := data.distinct
  rw [List.map_append, List.nodup_append] at distinct
  have notLater : field.1 ∉ data.later.map Prod.fst := fun found =>
    distinct.2.2 field.1 (List.mem_map_of_mem written) field.1 found rfl
  rw [json, find?_setAll_of_notMem notLater, find?_setAttributes, find?_setAll_of_mem distinct.1 written]
  cases last : lastOfType field.1 data.attributes with
  | none => rfl
  | some elem =>
    have isText : attributeJson data.numeric elem = .string elem.value := by
      rw [attributeJson, type_of_lastOfType last, if_neg (data.textual field written)]
    simp [isText]

/-- A field behind the attributes stays. -/
theorem find?_later {field : String × Json} (written : field ∈ data.later) :
    data.json.find? field.1 = some field.2 := by
  have distinct := data.distinct
  rw [List.map_append, List.nodup_append] at distinct
  exact find?_setAll_of_mem distinct.2.1 written _

/-- The attributes change nothing but what is called like one of them. -/
theorem find?_other {key : String} (absent : ∀ elem ∈ data.attributes, elem.type ≠ key) :
    data.json.find? key = data.plain.json.find? key := by
  apply find?_setAll_congr
  rw [find?_setAttributes, lastOfType_eq_none absent]
  rfl

/-- Every field of a list has its value. -/
def Holds (fields : List (String × Json)) : Prop := ∀ field ∈ fields, data.json.find? field.1 = some field.2

/-- Each attribute that comes last under the name of a field has the value of the field as its text. -/
def Spares (fields : List (String × Json)) : Prop :=
  ∀ field ∈ fields, ∀ elem, lastOfType field.1 data.attributes = some elem → field.2 = .string elem.value

theorem holds_iff_spares {fields : List (String × Json)} (own : fields ⊆ data.own) :
    data.Holds fields ↔ data.Spares fields := by
  apply forall_congr'
  intro field
  apply forall_congr'
  intro listed
  rw [find?_own data (own listed)]
  cases lastOfType field.1 data.attributes with
  | none => simp
  | some elem => simp [eq_comm]

end RecordData

/-! ## The parts of the three classes -/

/-- `data` of `BusinessData::makeKafkaRequest`.  The attributes are written for a capture alone, and a capture
    without a url makes no record. -/
def businessRecordData (session : Session) : Option RecordData :=
  let self := session.kafkaData
  let event := self.event
  let person := session.personResult
  let gender :=
    if session.trackResult.gender = -1 then event.gender else session.trackResult.gender
  let age := if session.trackResult.age = -1 then event.age else session.trackResult.age
  let fields : List (String × Json) := [
    ("app_id", .string self.ipc.appId), ("space_id", .string self.ipc.spaceId),
    ("device_sn", .string self.ipc.deviceId), ("track_id", .int event.trackId),
    ("in_out_type", .int event.eventType), ("event_time", .int event.eventTime), ("msg_type", .int event.msgType),
    ("data_type", .int self.plugin.datatype)]
  if event.msgType = 1 then
    some {
      own := fields ++ [("age", .int age), ("manual_age", .int (-1)), ("gender", .int gender)]
      numeric := [], attributes := [], later := [], distinct := by simp [fields], textual := by simp }
  else if event.msgType = 2 then
    event.captureUris.head?.map fun face => {
      own := fields ++ [
        ("face_id", .string person.id), ("faceset_id", .string person.setName),
        ("faceset_type", .string person.setType)]
      numeric := ["gender", "manual_age", "age"], attributes := person.personAttributes
      later := [
        ("score", .real person.similar), ("capture_url", captureUrlJson face),
        ("match_url", matchUrlJson person)]
      distinct := by simp [fields], textual := by simp [fields] }
  else
    some {
      own := fields, numeric := [], attributes := [], later := [], distinct := by simp [fields]
      textual := by simp }

/-- The time of a captured face: seconds are made milliseconds. -/
def captureTime (face : Face) : Int := if face.systm < 2000000000 then face.systm * 1000 else face.systm

/-- `data` of `CaptureData::makeKafkaRequest`, once the face set has been looked up. -/
def captureRecordData (session : Session) : Option RecordData :=
  let self := session.kafkaData
  let person := session.personResult
  self.capture.person.faces.head?.map fun face => {
    own := [
      ("app_id", .string self.ipc.appId), ("space_id", .string self.ipc.spaceId),
      ("device_sn", .string self.ipc.deviceId), ("event_time", .int (captureTime face)),
      ("track_id", .int self.capture.person.trackId), ("face_id", .string person.id),
      ("faceset_id", .string person.setName), ("faceset_type", .string person.setType),
      ("data_type", .int self.plugin.datatype)]
    numeric := ["gender", "manual_age", "age"], attributes := person.personAttributes
    later := [
      ("score", .real person.similar), ("capture_url", captureUrlJson face.toCaptureFace),
      ("capture_time", .int face.systm), ("match_url", matchUrlJson person)]
    distinct := by simp, textual := by simp }

/-- `data` of `xiashunCaptureData::makeKafkaRequest`. -/
def xiashunCaptureRecordData (session : Session) : Option RecordData :=
  let self := session.kafkaData
  let person := session.personResult
  self.capture.person.faces.head?.map fun face => {
    own := [
      ("app_id", .string self.ipc.appId), ("space_id", .string self.ipc.spaceId),
      ("device_sn", .string self.ipc.deviceId), ("track_id", .int self.capture.person.trackId),
      ("face_id", .string person.id), ("faceset_id", .string person.setName),
      ("faceset_type", .string person.setType), ("in_out_type", .int 0), ("event_time", .int face.tmst),
      ("msg_type", .int 2)]
    numeric := ["gender", "age_group", "age"], attributes := person.personAttributes
    later := [
      ("score", .real person.similar), ("capture_url", captureUrlJson face.toCaptureFace),
      ("match_url", matchUrlJson person)]
    distinct := by simp, textual := by simp }

/-- `data` of the records that a session makes. -/
def recordData (session : Session) : Option RecordData :=
  match session.kafkaData.dataClass with
  | .business => businessRecordData session
  | .capture => captureRecordData session
  | .xiashunCapture => xiashunCaptureRecordData session
  | .screenshot | .xiashunBusiness => none

/-! ## The records -/

/-- The text of a record with these parts. -/
def recordText (env : Env) (ipc : IpcInfo) (data : RecordData) : String :=
  env.text.toStyledString (recordJson ipc data.json)

section Classes

variable {env : Env} {session : Session} {record : KafkaOutputInfo}

theorem makeBusinessKafkaRequest_record (made : record ∈ makeBusinessKafkaRequest env session) :
    ∃ data, businessRecordData session = some data ∧
      record.data = recordText env session.kafkaData.ipc data := by
  -- every topic is sent the same text
  have sent : ∀ (topics : List String) (topic data : String),
      record ∈ topics.map (fun topic => KafkaOutputInfo.mk topic data) ++ [KafkaOutputInfo.mk topic data] →
        record.data = data := by
    intro topics topic data listed
    rcases List.mem_append.mp listed with listed | listed
    · obtain ⟨_, -, rfl⟩ := List.mem_map.mp listed
      rfl
    · rw [List.mem_singleton.mp listed]
  rw [makeBusinessKafkaRequest] at made
  rw [businessRecordData]
  by_cases one : session.kafkaData.event.msgType = 1
  · simp only [if_pos one] at made ⊢
    exact ⟨_, rfl, sent _ _ _ made⟩
  · by_cases two : session.kafkaData.event.msgType = 2
    · simp only [if_neg one, if_pos two] at made ⊢
      cases uris : session.kafkaData.event.captureUris with
      | nil =>
        rw [uris] at made
        cases made
      | cons face rest =>
        simp only [uris] at made
        exact ⟨_, rfl, sent _ _ _ made⟩
    · simp only [if_neg one, if_neg two] at made ⊢
      exact ⟨_, rfl, sent _ _ _ made⟩

theorem makeXiashunCaptureKafkaRequest_record {records : List KafkaOutputInfo}
    (ran : makeXiashunCaptureKafkaRequest env session = .ok records) (made : record ∈ records) :
    ∃ data, xiashunCaptureRecordData session = some data ∧
      record.data = recordText env session.kafkaData.ipc data := by
  rw [makeXiashunCaptureKafkaRequest] at ran
  rw [xiashunCaptureRecordData]
  cases faces : session.kafkaData.capture.person.faces with
  | nil =>
    rw [faces] at ran
    cases ran
  | cons face rest =>
    simp only [faces] at ran
    cases ran
    rw [List.mem_singleton.mp made]
    exact ⟨_, rfl, rfl⟩

end Classes

/-! ## What is left of the session -/

/-- The session with the id and the type of a face set. -/
def Session.withFaceSet (session : Session) (setName setType : String) : Session :=
  { session with personResult := { session.personResult with setName := setName, setType := setType } }

/-- Whatever its calls are answered, the program returns the session with some face set, and a value with the
    property. -/
abbrev LeavesFaceSet {α : Type} (session : Session) (post : α → Session → Prop) (program : Flow α) : Prop :=
  (program.run session).Makes (fun _ => True) fun result =>
    (∃ setName setType, result.2 = session.withFaceSet setName setType) ∧ post result.1 result.2

theorem leavesFaceSet_call {α : Type} {session : Session} {post : α → Session → Prop} (request : FlowCall)
    {continuation : request.Answer → Flow α}
    (leaves : ∀ answer, LeavesFaceSet session post (continuation answer)) :
    LeavesFaceSet session post (Flow.call request >>= continuation) :=
  ⟨trivial, leaves⟩

theorem leavesFaceSet_return {α : Type} {session : Session} {post : α → Session → Prop} {value : α}
    (holds : post value session) : LeavesFaceSet session post (pure value) :=
  ⟨⟨_, _, rfl⟩, holds⟩

theorem leavesFaceSet_get {α : Type} {session : Session} {post : α → Session → Prop}
    {continuation : Session → Flow α} (leaves : LeavesFaceSet session post (continuation session)) :
    LeavesFaceSet session post (get >>= continuation) :=
  leaves

theorem switchFaceSet_leaves (session : Session) :
    LeavesFaceSet session (fun _ _ => True) switchFaceSetIdBySetName := by
  rw [switchFaceSetIdBySetName]
  apply leavesFaceSet_get
  dsimp only
  split
  · exact leavesFaceSet_return trivial
  · apply leavesFaceSet_call
    intro acquired
    cases acquired with
    | false => exact leavesFaceSet_return trivial
    | true =>
      apply leavesFaceSet_call
      intro answer
      cases answer with
      | notFound => exact leavesFaceSet_return trivial
      | exception => exact leavesFaceSet_return trivial
      | found view =>
        dsimp only
        cases Bson.getOid (view.lookup "_id") with
        | none => exact leavesFaceSet_return trivial
        | some facesetId =>
          dsimp only
          cases Bson.getUtf8 (view.lookup "faceset_type") with
          | none => exact ⟨⟨facesetId, _, rfl⟩, trivial⟩
          | some setType => exact ⟨⟨facesetId, setType, rfl⟩, trivial⟩

/-- Each text is that of a record with the parts of the session. -/
def RecordsOf (env : Env) (parts : Session → Option RecordData) (records : List KafkaOutputInfo)
    (session : Session) : Prop :=
  ∀ record ∈ records, ∃ data, parts session = some data ∧
    record.data = recordText env session.kafkaData.ipc data

theorem makeCaptureKafkaRequest_records (env : Env) (session : Session) :
    LeavesFaceSet session (RecordsOf env captureRecordData) (makeCaptureKafkaRequest env) := by
  rw [makeCaptureKafkaRequest, LeavesFaceSet, StateT.run_bind]
  apply Prog.Makes.bind (switchFaceSet_leaves session)
  rintro ⟨switched, after⟩ ⟨⟨setName, setType, rfl⟩, -⟩
  cases switched with
  | false =>
    refine ⟨⟨_, _, rfl⟩, ?_⟩
    intro record made
    cases made
  | true =>
    have sameFaces : (session.withFaceSet setName setType).kafkaData.capture.person.faces =
      session.kafkaData.capture.person.faces := rfl
    simp only [if_true, StateT.run_bind, StateT.run_get, Prog.pure_eq, Prog.ret_bind, sameFaces]
    cases faces : session.kafkaData.capture.person.faces with
    | nil => trivial
    | cons face rest =>
      have first : captureRecordData (session.withFaceSet setName setType) = some _ :=
        congrArg (Option.map _) (congrArg List.head? faces)
      simp only [checkSystm]
      split
      · simp only [Flow.ofExcept_ok, StateT.run_bind, StateT.run_pure, Prog.pure_eq, Prog.ret_bind]
        split
        · refine ⟨⟨setName, setType, rfl⟩, fun record made => ?_⟩
          obtain ⟨topic, -, rfl⟩ := List.mem_map.mp made
          exact ⟨_, first, rfl⟩
        · refine ⟨⟨setName, setType, rfl⟩, fun record made => ?_⟩
          rw [List.mem_singleton.mp made]
          exact ⟨_, first, rfl⟩
      · trivial

/-- Whatever a lookup of the face set is answered, the records of the three classes are made of the parts of
    the session with that face set. -/
theorem makeKafkaRequest_records (env : Env) {session : Session}
    (ofFaces : session.kafkaData.dataClass.makesUrls = true) :
    LeavesFaceSet session (fun made after => ∃ records, made = some records ∧
      RecordsOf env recordData records after) (makeKafkaRequest env) := by
  rw [makeKafkaRequest]
  apply leavesFaceSet_get
  cases isClass : session.kafkaData.dataClass with
  | business =>
    refine leavesFaceSet_return ⟨_, rfl, fun record made => ?_⟩
    rw [recordData, isClass]
    exact makeBusinessKafkaRequest_record made
  | capture =>
    apply Prog.Makes.bind (makeCaptureKafkaRequest_records env session)
    rintro ⟨records, after⟩ ⟨⟨setName, setType, rfl⟩, recordsOf⟩
    refine ⟨⟨setName, setType, rfl⟩, records, rfl, fun record made => ?_⟩
    have sameClass : (session.withFaceSet setName setType).kafkaData.dataClass = .capture := isClass
    rw [recordData, sameClass]
    exact recordsOf record made
  | xiashunCapture =>
    cases ran : makeXiashunCaptureKafkaRequest env session with
    | error fault => trivial
    | ok records =>
      refine leavesFaceSet_return ⟨records, rfl, fun record made => ?_⟩
      rw [recordData, isClass]
      exact makeXiashunCaptureKafkaRequest_record ran made
  | screenshot | xiashunBusiness =>
    rw [isClass] at ofFaces
    cases ofFaces

/-! ## The identity -/

/-- The time of the event: that of the message, or that of the first face. -/
def BaseData.eventTime (self : BaseData) : Int :=
  match self.dataClass with
  | .capture => (self.capture.person.faces.head?.map captureTime).getD 0
  | .xiashunCapture => (self.capture.person.faces.head?.map Face.tmst).getD 0
  | .business | .screenshot | .xiashunBusiness => self.event.eventTime

/-- A record of a person, as every one but that of a business event that is no capture. -/
def BaseData.recordsPerson (self : BaseData) : Bool :=
  self.dataClass ≠ .business || self.event.msgType = 2

/-- The fields that identify a record, with what the message and the person result make of them. -/
def Session.identity (session : Session) : List (String × Json) :=
  let self := session.kafkaData
  let person := session.personResult
  [("app_id", .string self.ipc.appId), ("space_id", .string self.ipc.spaceId),
    ("device_sn", .string self.ipc.deviceId), ("track_id", .int self.getTrackId),
    ("event_time", .int self.eventTime)] ++
  if self.recordsPerson then [("face_id", .string person.id), ("faceset_id", .string person.setName)] else []

theorem identity_subset {session : Session} {data : RecordData} (parts : recordData session = some data) :
    session.identity ⊆ data.own := by
  rw [recordData] at parts
  cases isClass : session.kafkaData.dataClass with
  | business =>
    simp only [isClass, businessRecordData] at parts
    by_cases one : session.kafkaData.event.msgType = 1
    · rw [if_pos one] at parts
      cases parts
      simp [Session.identity, BaseData.recordsPerson, BaseData.getTrackId, BaseData.eventTime, isClass, one]
    · rw [if_neg one] at parts
      by_cases two : session.kafkaData.event.msgType = 2
      · rw [if_pos two] at parts
        obtain ⟨face, -, rfl⟩ := Option.map_eq_some_iff.mp parts
        simp [Session.identity, BaseData.recordsPerson, BaseData.getTrackId, BaseData.eventTime, isClass, two]
      · rw [if_neg two] at parts
        cases parts
        simp [Session.identity, BaseData.recordsPerson, BaseData.getTrackId, BaseData.eventTime, isClass, two]
  | capture =>
    simp only [isClass, captureRecordData] at parts
    obtain ⟨face, first, rfl⟩ := Option.map_eq_some_iff.mp parts
    simp [Session.identity, BaseData.recordsPerson, BaseData.getTrackId, BaseData.eventTime, isClass, first]
  | xiashunCapture =>
    simp only [isClass, xiashunCaptureRecordData] at parts
    obtain ⟨face, first, rfl⟩ := Option.map_eq_some_iff.mp parts
    simp [Session.identity, BaseData.recordsPerson, BaseData.getTrackId, BaseData.eventTime, isClass, first]
  | screenshot | xiashunBusiness =>
    rw [isClass] at parts
    cases parts

/-- `source` is made of the message alone. -/
theorem find?_source (ipc : IpcInfo) (dataJv : Json) : (recordJson ipc dataJv).find? "source" =
    some (.string ("/" ++ ipc.appId ++ "/" ++ ipc.spaceId ++ "/" ++ ipc.deviceId)) := by
  simp [recordJson]

/-! ## Main result -/

/-- For every session with faces and every answer to the lookup of the face set: in each record a field of the
    identity is the text of the last attribute that is called like it, or else what the message and the person
    result make of it.  So the identity holds exactly where no attribute of such a name says anything else.
    `source` and the fields behind the attributes always hold, and the attributes change no other name. -/
theorem record_identity_iff (env : Env) (session : Session)
    (ofFaces : session.kafkaData.dataClass.makesUrls = true) :
    LeavesFaceSet session (fun made after => ∃ records, made = some records ∧ ∀ record ∈ records,
      ∃ data, recordData after = some data ∧ record.data = recordText env session.kafkaData.ipc data ∧
        (∀ field ∈ after.identity, data.json.find? field.1 =
          some (((lastOfType field.1 data.attributes).map fun elem => .string elem.value).getD field.2)) ∧
        (data.Holds after.identity ↔ data.Spares after.identity) ∧
        (recordJson session.kafkaData.ipc data.json).find? "source" =
          some (.string ("/" ++ session.kafkaData.ipc.appId ++ "/" ++ session.kafkaData.ipc.spaceId ++ "/" ++
            session.kafkaData.ipc.deviceId)) ∧
        data.Holds data.later ∧
        ∀ key, (∀ elem ∈ data.attributes, elem.type ≠ key) →
          data.json.find? key = data.plain.json.find? key) (makeKafkaRequest env) := by
  apply (makeKafkaRequest_records env ofFaces).weaken
  rintro ⟨_, after⟩ ⟨⟨setName, setType, rfl⟩, records, rfl, recordsOf⟩
  refine ⟨⟨setName, setType, rfl⟩, records, rfl, fun record made => ?_⟩
  obtain ⟨data, parts, text⟩ := recordsOf record made
  have own := identity_subset parts
  exact ⟨data, parts, text, fun field listed => data.find?_own (own listed), data.holds_iff_spares own,
    find?_source _ _, fun field listed => data.find?_later listed, fun key => data.find?_other⟩

/-- An answer whose person has an attribute that is called like the tenant. -/
def forgedAnswer : String :=
  "\x7b\"error_code\":0,\"result\":\x7b\"person_result\":\x7b\"attribute\":[\x7b\"type\":\"app_id\",\"value\":\"x\"\x7d],\"id\":\"p\"\x7d,\"track_result\":\x7b\x7d\x7d\x7d"

def forgedEnv : Env :=
  meetingEnv.reading forgedAnswer (.object [("error_code", .int 0),
    ("result", .object [("person_result", .object [
        ("attribute", .array [.object [("type", .string "app_id"), ("value", .string "x")]]), ("id", .string "p")]),
      ("track_result", .object [])])])

set_option maxRecDepth 4000 in
/-- The record is of the tenant `x`, and its source of the tenant `a`. -/
theorem record_identity_forged :
    ∃ kafkaData after data,
      parseMessage forgedEnv (some captureNode) captureMessage = .ok (some kafkaData) ∧
      (getPersonResult forgedEnv forgedAnswer).run (.make forgedEnv 0 kafkaData) = .ok (true, after) ∧
      recordData after = some data ∧
      makeBusinessKafkaRequest forgedEnv after = [⟨"/", recordText forgedEnv after.kafkaData.ipc data⟩] ∧
      ("app_id", .string "a") ∈ after.identity ∧ data.json.find? "app_id" = some (.string "x") ∧
      (recordJson after.kafkaData.ipc data.json).find? "source" = some (.string "/a/adefaultspace/d") := by
  refine ⟨_, _, _, rfl, rfl, rfl, rfl, ?_, rfl, rfl⟩
  exact List.mem_cons_self

/-- The session of the same message with a person that has no such attribute. -/
def namedSession : Session :=
  { Session.make meetingEnv 0 captureData with
    personResult := { similar := 0, id := "p", personAttributes := [{ type := "gender", value := "1" }] } }

theorem record_identity_holds :
    ∃ data, recordData namedSession = some data ∧ data.Holds namedSession.identity := by
  obtain ⟨-, records, made, each⟩ := record_identity_iff meetingEnv namedSession rfl
  cases made
  obtain ⟨data, parts, -, -, holds_iff, -⟩ := each _ List.mem_cons_self
  refine ⟨data, parts, holds_iff.mpr ?_⟩
  cases parts
  intro field listed elem last
  have found : elem ∈ namedSession.personResult.personAttributes :=
    List.mem_reverse.mp (List.mem_of_find?_eq_some last)
  -- the one attribute is not called like a field of the identity
  have isGender : elem.type = "gender" := by rw [List.mem_singleton.mp found]
  have listed : field.1 ∈ namedSession.identity.map Prod.fst := List.mem_map_of_mem listed
  rw [← type_of_lastOfType last, isGender] at listed
  exact absurd listed (by decide)

end XBusiness
