import XBusiness.Workflow.FaceRect

/-! # The records of a screenshot

A screenshot message lists tasks, and each that asks for a business screenshot gets a record.  Both loops of
the source keep one object from task to task: `parseTasks` a `taskinfo` that it fills again, and
`makeKafkaRequest` an `out_jv` in which it replaces the tenant.

* `parseTasks_loop`, `makeScreenshootKafkaRequest_loop` — the loops leave nothing behind from one task to the
  next.
* `parseMessage_screenshot` — what an accepted message says of its device and of its tasks.
* `FansOut` — the records are those of the tasks that want one, in order.
* `screenshot_fans_out_iff` — their time is that of the message where it is an `int`.
-/

namespace XBusiness

open Interaction

/-! ## The loops of the source -/

/-- The body of the loop of `parseTasks`, which fills `taskinfo` with the fields of an object. -/
def fillTask (taskinfo : TaskInfo) (task : Json) : Except Fault TaskInfo := do
  let requestType := (← task.member "busi_type").int?.getD 0
  let taskId := (← task.member "task_id").string?.getD ""
  let uid := (← task.member "uid").string?.getD ""
  let taskinfo := { taskinfo with uid := uid }
  let taskinfo := { taskinfo with taskId := taskId }
  let taskinfo := { taskinfo with deviceId := (← task.member "device_id").string?.getD "" }
  let taskinfo := { taskinfo with extra := (← task.member "extra").string?.getD "" }
  return { taskinfo with type := requestType }

/-- The loop of `parseTasks`. -/
def parseTasksLoop (taskinfo : TaskInfo) (taskArry : List TaskInfo) : List Json → Except Fault (List TaskInfo)
  | [] => return taskArry
  | .object members :: rest => do
    let taskinfo ← fillTask taskinfo (.object members)
    parseTasksLoop taskinfo (taskArry ++ [taskinfo]) rest
  | _ :: rest => parseTasksLoop taskinfo taskArry rest

/-- `out_jv` of `makeKafkaRequest` before its loop. -/
def screenshotJson (self : BaseData) : Json :=
  let outJv := Json.null.set "device_id" (.string self.ipc.deviceId)
  let outJv := outJv.set "time" (.int (castInt self.ipc.timestamp))
  let outJv := outJv.set "ptype" (.int self.payloadType)
  outJv.set "payload" (.string self.payload)

/-- The condition of the loop of `makeKafkaRequest`. -/
def TaskInfo.wantsScreenshot (taskinfo : TaskInfo) : Bool :=
  taskinfo.type = screenshotRequest && taskinfo.extra ≠ "city"

/-- The loop of `makeKafkaRequest`: `out_jv` each time that it is written as a record. -/
def screenshotLoop (outJv : Json) : List TaskInfo → List Json
  | [] => []
  | taskinfo :: rest =>
    if taskinfo.wantsScreenshot then
      let outJv := outJv.set "app_id" (.string taskinfo.uid)
      outJv :: screenshotLoop outJv rest
    else
      screenshotLoop outJv rest

/-- The documents of the records. -/
def screenshotDocuments (self : BaseData) : List Json := screenshotLoop (screenshotJson self) self.taskArry

def screenshotRecord (env : Env) (outJv : Json) : KafkaOutputInfo where
  topic := sectionTopic env "screenshot"
  data := env.text.toStyledString outJv

/-! ## What the loops compute -/

/-- The task that an object says, whatever came before it. -/
def objectTask (task : Json) : TaskInfo where
  taskId := textOf task "task_id"
  uid := textOf task "uid"
  deviceId := textOf task "device_id"
  extra := textOf task "extra"
  type := ((task.find? "busi_type").bind Json.int?).getD 0

def taskOf (task : Json) : Option TaskInfo := task.object?.map objectTask

theorem string?_member (task : Json) (name : String) :
    ((task.find? name).getD .null).string?.getD "" = textOf task name := by
  rw [textOf]
  cases task.find? name <;> rfl

theorem int?_member (task : Json) (name : String) :
    ((task.find? name).getD .null).int? = (task.find? name).bind Json.int? := by
  cases task.find? name <;> rfl

theorem fillTask_eq (taskinfo : TaskInfo) (members : List (String × Json)) :
    fillTask taskinfo (.object members) = .ok (objectTask (.object members)) := by
  have has : (Json.object members).hasMembers = true := rfl
  simp only [fillTask, Json.member_eq has, string?_member, int?_member, ok_bind]
  rfl

theorem parseTask_eq (task : Json) : parseTask task = .ok (taskOf task) := by
  cases task with
  | object members =>
    have has : (Json.object members).hasMembers = true := rfl
    simp only [parseTask, Json.member_eq has, string?_member, int?_member, ok_bind]
    rfl
  | _ => rfl

/-- Whatever `taskinfo` holds, the loop appends the tasks that the objects say. -/
theorem parseTasksLoop_eq (taskinfo : TaskInfo) (taskArry : List TaskInfo) (tasks : List Json) :
    parseTasksLoop taskinfo taskArry tasks = .ok (taskArry ++ tasks.filterMap taskOf) := by
  induction tasks generalizing taskinfo taskArry with
  | nil =>
    rw [List.filterMap_nil, List.append_nil]
    rfl
  | cons task rest inductionHypothesis =>
    cases task with
    | object members =>
      rw [parseTasksLoop, fillTask_eq, ok_bind, inductionHypothesis, List.append_assoc]
      rfl
    | _ => exact inductionHypothesis taskinfo taskArry

theorem mapM_parseTask (tasks : List Json) : tasks.mapM parseTask = .ok (tasks.map taskOf) := by
  induction tasks with
  | nil => rfl
  | cons task rest inductionHypothesis =>
    rw [List.mapM_cons, parseTask_eq, inductionHypothesis]
    rfl

theorem parseTasks_eq (self : BaseData) {tasksJv : Json} (has : tasksJv.hasMembers = true) :
    parseTasks self tasksJv = .ok (some { self with
      taskArry := self.taskArry ++ (elementsOf tasksJv "tasks").filterMap taskOf }) := by
  rw [parseTasks, Json.member?_eq has, ok_bind, elementsOf]
  cases (tasksJv.find? "tasks").bind Json.array? with
  | none =>
    rw [Option.getD_none, List.filterMap_nil, List.append_nil]
    rfl
  | some tasks =>
    simp only [mapM_parseTask, ok_bind, Option.getD_some, List.filterMap_map]
    rfl

/-- `parseTasks` is its loop, with any `taskinfo` to begin with. -/
theorem parseTasks_loop (self : BaseData) (taskinfo : TaskInfo) {tasksJv : Json}
    (has : tasksJv.hasMembers = true) :
    parseTasks self tasksJv =
      (parseTasksLoop taskinfo self.taskArry (elementsOf tasksJv "tasks")).map fun taskArry =>
        some { self with taskArry := taskArry } := by
  rw [parseTasks_eq self has, parseTasksLoop_eq]
  rfl

/-- The tenant of the task before is overwritten. -/
theorem screenshotLoop_set (outJv previous : Json) (tasks : List TaskInfo) :
    screenshotLoop (outJv.set "app_id" previous) tasks = screenshotLoop outJv tasks := by
  induction tasks with
  | nil => rfl
  | cons taskinfo rest inductionHypothesis =>
    rw [screenshotLoop, screenshotLoop]
    by_cases wanted : taskinfo.wantsScreenshot = true
    · rw [if_pos wanted, if_pos wanted]
      simp only [Json.set_set]
    · rw [if_neg wanted, if_neg wanted, inductionHypothesis]

theorem screenshotLoop_eq (outJv : Json) (tasks : List TaskInfo) :
    screenshotLoop outJv tasks = (tasks.filter TaskInfo.wantsScreenshot).map fun taskinfo =>
      outJv.set "app_id" (.string taskinfo.uid) := by
  induction tasks with
  | nil => rfl
  | cons taskinfo rest inductionHypothesis =>
    rw [screenshotLoop]
    by_cases wanted : taskinfo.wantsScreenshot = true
    · rw [if_pos wanted, List.filter_cons_of_pos wanted, List.map_cons]
      simp only [screenshotLoop_set, inductionHypothesis]
    · rw [if_neg wanted, List.filter_cons_of_neg wanted, inductionHypothesis]

/-- The records are the documents of the loop, as texts. -/
theorem makeScreenshootKafkaRequest_loop (env : Env) (self : BaseData) :
    makeScreenshootKafkaRequest env self = (screenshotDocuments self).map (screenshotRecord env) := by
  rw [screenshotDocuments, screenshotLoop_eq, List.map_map]
  rfl

/-! ## What the message says -/

/-- A task of the message that gets a record: an object whose type is 6 and whose extra is not "city". -/
def asksForScreenshot (task : Json) : Bool :=
  task.object?.isSome && decide ((task.find? "busi_type").bind Json.int? = some 6) &&
    decide ((task.find? "extra").bind Json.string? ≠ some "city")

theorem wantsScreenshot_objectTask (members : List (String × Json)) :
    (objectTask (.object members)).wantsScreenshot = asksForScreenshot (.object members) := by
  rw [TaskInfo.wantsScreenshot, asksForScreenshot, objectTask]
  have type : ∀ read : Option Int, read.getD 0 = screenshotRequest ↔ read = some 6 := by
    intro read
    cases read <;> simp [screenshotRequest]
  have extra : ∀ read : Option String, read.getD "" = "city" ↔ read = some "city" := by
    intro read
    cases read <;> simp
  simp [type, textOf, extra, Json.object?]

/-- The tasks that are kept are those of the objects that ask for one. -/
theorem filter_taskOf (tasks : List Json) :
    (tasks.filterMap taskOf).filter TaskInfo.wantsScreenshot = (tasks.filter asksForScreenshot).map objectTask := by
  induction tasks with
  | nil => rfl
  | cons task rest inductionHypothesis =>
    cases task with
    | object members =>
      have kept : taskOf (.object members) = some (objectTask (.object members)) := rfl
      rw [List.filterMap_cons_some kept, List.filter_cons, List.filter_cons, wantsScreenshot_objectTask,
        inductionHypothesis]
      cases asksForScreenshot (.object members) <;> rfl
    | _ => exact inductionHypothesis

/-- The documents of a screenshot message: its data object, and the one in `bid` that lists the tasks. -/
structure IsScreenshot (env : Env) (payload : String) (dataJv tasksJv : Json) : Prop where
  data : (env.text.parseJson payload).bind (dataOf env) = some dataJv
  tasks : documentOf env dataJv "bid" = some tasksJv

/-- What has been parsed of the documents. -/
structure ParsedFrom (env : Env) (dataJv tasksJv : Json) (parsed : BaseData) : Prop where
  device : dataJv.find? "did" = some (.string parsed.ipc.deviceId)
  time : parsed.ipc.timestamp = ((dataJv.find? "tmst").bind Json.int64?).getD env.uninit.timestamp
  payload : dataJv.find? "payload" = some (.string parsed.payload)
  tasks : parsed.taskArry = (elementsOf tasksJv "tasks").filterMap taskOf

theorem find?_of_string? {json : Json} {name text : String}
    (found : (json.find? name).bind Json.string? = some text) : json.find? name = some (.string text) := by
  obtain ⟨value, found, isString⟩ := Option.bind_eq_some_iff.mp found
  cases value with
  | string text =>
    cases isString
    exact found
  | _ => cases isString

theorem parseIpcInfo_reads {ipc parsed : IpcInfo} {dataJv : Json} (fresh : ipc.appId = "")
    (has : dataJv.hasMembers = true) (ran : parseIpcInfo ipc dataJv = .ok (some parsed)) :
    dataJv.find? "did" = some (.string parsed.deviceId) ∧
      parsed.timestamp = ((dataJv.find? "tmst").bind Json.int64?).getD ipc.timestamp := by
  unfold parseIpcInfo at ran
  simp only [Json.memberD_eq has, Json.member?_eq has, ok_bind, fresh] at ran
  cases device : (dataJv.find? "did").bind Json.string? with
  | none =>
    rw [device] at ran
    cases ran
  | some deviceId =>
    simp only [device] at ran
    by_cases tenant : appIdOf dataJv = ""
    · cases ran.symm.trans (if_pos tenant)
    · cases ran.symm.trans (if_neg tenant)
      exact ⟨find?_of_string? device, rfl⟩

/-- What is read of the payload is the capture alone. -/
theorem parseScrennshot_capture {self parsed : BaseData} {payloadJv : Json} (has : payloadJv.hasMembers = true)
    (ran : parseScrennshot self payloadJv = .ok (some parsed)) :
    ∃ capture, parsed = { self with capture := capture } := by
  unfold parseScrennshot at ran
  simp only [Json.member?_eq has, ok_bind] at ran
  cases found : (payloadJv.find? "capture").bind Json.object? with
  | none =>
    rw [found] at ran
    cases ran
  | some captureJv =>
    have has := Json.hasMembers_of_object found
    simp only [found, Json.memberD_eq has, Json.member?_eq has, ok_bind] at ran
    cases bkgd : (captureJv.find? "bkgd").bind Json.object? with
    | none =>
      rw [bkgd] at ran
      cases ran
      exact ⟨_, rfl⟩
    | some bkgdJv =>
      simp only [bkgd] at ran
      obtain ⟨background, -, ran⟩ := bind_eq_ok.mp ran
      cases ran
      exact ⟨_, rfl⟩

theorem parseScreenshoot_reads {env : Env} {payloadType : Int} {totalJv dataJv : Json} {data : Option PmPtr}
    {parsed : BaseData} (has : totalJv.hasMembers = true) (found : dataOf env totalJv = some dataJv)
    (ran : parseScreenshoot env (.make env .screenshot payloadType totalJv data) = .ok (some parsed)) :
    ∃ tasksJv, documentOf env dataJv "bid" = some tasksJv ∧ ParsedFrom env dataJv tasksJv parsed := by
  have hasData := hasMembers_of_dataOf found
  have hasTotal : (BaseData.make env .screenshot payloadType totalJv data).totalJv.hasMembers = true := has
  have foundTotal : dataOf env (BaseData.make env .screenshot payloadType totalJv data).totalJv =
    some dataJv := found
  unfold parseScreenshoot at ran
  simp only [readData_eq hasTotal, foundTotal, Json.memberD_eq hasTotal, Json.member?_eq hasData, ok_bind] at ran
  -- each text that is missing or does not parse rejects the message
  rw [documentOf]
  cases bidText : (dataJv.find? "bid").bind Json.string? with
  | none =>
    rw [bidText] at ran
    cases ran
  | some bid =>
    simp only [bidText, Option.bind_some] at ran ⊢
    cases tasksRead : env.text.parseJson bid with
    | none =>
      rw [tasksRead] at ran
      cases ran
    | some tasksJv =>
      simp only [tasksRead] at ran
      refine ⟨tasksJv, rfl, ?_⟩
      cases payloadText : (dataJv.find? "payload").bind Json.string? with
      | none =>
        rw [payloadText] at ran
        cases ran
      | some payload =>
        simp only [payloadText] at ran
        cases payloadRead : env.text.parseJson payload with
        | none =>
          rw [payloadRead] at ran
          cases ran
        | some payloadJv =>
          simp only [payloadRead] at ran
          obtain ⟨ipc, device, ran⟩ := bind_eq_ok.mp ran
          cases ipc with
          | none => cases ran
          | some ipc =>
            obtain ⟨captured, capture, ran⟩ := bind_eq_ok.mp ran
            cases captured with
            | none => cases ran
            | some captured =>
              obtain ⟨named, time⟩ := parseIpcInfo_reads rfl hasData device
              obtain ⟨capture, rfl⟩ :=
                parseScrennshot_capture (JsonText.hasMembers_of_parseJson payloadRead) capture
              dsimp only at ran
              rw [parseTasks_eq _ (JsonText.hasMembers_of_parseJson tasksRead)] at ran
              cases ran
              exact {
                device := named, time := time, payload := find?_of_string? payloadText, tasks := rfl }

/-- The device, the payload and the tasks of an accepted screenshot message are those that its documents
    say, and so is its time where they say one. -/
theorem parseMessage_screenshot {env : Env} {data : Option PmPtr} {payload : String} {self : BaseData}
    (accepted : parseMessage env data payload = .ok (some self)) (isScreenshot : self.dataClass = .screenshot) :
    ∃ dataJv tasksJv, IsScreenshot env payload dataJv tasksJv ∧ ParsedFrom env dataJv tasksJv self := by
  obtain ⟨totalJv, dataJv, payloadType, dataClass, read, found, -, -, ran⟩ := parseMessage_reads accepted
  have sameClass : self.dataClass = dataClass := congrArg Prod.fst (parse_origin env _ _ ran self rfl)
  rw [isScreenshot] at sameClass
  subst sameClass
  obtain ⟨tasksJv, tasks, parsedFrom⟩ :=
    parseScreenshoot_reads (JsonText.hasMembers_of_parseJson read) found ran
  refine ⟨dataJv, tasksJv, ⟨?_, tasks⟩, parsedFrom⟩
  rw [read, Option.bind_some, found]

/-! ## The records -/

/-- What a document says of the tenant of its task, of the device and of the payload. -/
structure RecordOf (dataJv task outJv : Json) : Prop where
  appId : outJv.find? "app_id" = some (.string (textOf task "uid"))
  deviceId : outJv.find? "device_id" = dataJv.find? "did"
  payload : outJv.find? "payload" = dataJv.find? "payload"

/-- The time of a document is the 64-bit time of the message. -/
def CarriesTime (dataJv outJv : Json) : Prop :=
  ∃ time, (dataJv.find? "tmst").bind Json.int64? = some time ∧ outJv.find? "time" = some (.int time)

/-- The records fan out exactly: one for each task that asks for it, in order, each with what the message
    says. -/
def FansOut (dataJv tasksJv : Json) (documents : List Json) : Prop :=
  List.Forall₂ (fun task outJv => RecordOf dataJv task outJv ∧ CarriesTime dataJv outJv)
    ((elementsOf tasksJv "tasks").filter asksForScreenshot) documents

/-- The time of the message is one that an `int` holds. -/
def TimeIsInt (dataJv : Json) : Prop :=
  ∃ time, (dataJv.find? "tmst").bind Json.int64? = some time ∧ InInt32 time

theorem castInt_eq_iff (value : Int) : castInt value = value ↔ InInt32 value := by
  rw [castInt, InInt32]
  omega

section Records

variable {env : Env} {self : BaseData} {dataJv tasksJv : Json}

/-- The documents, from the tasks of the message. -/
theorem screenshotDocuments_eq (parsedFrom : ParsedFrom env dataJv tasksJv self) :
    screenshotDocuments self = ((elementsOf tasksJv "tasks").filter asksForScreenshot).map fun task =>
      (screenshotJson self).set "app_id" (.string (textOf task "uid")) := by
  rw [screenshotDocuments, screenshotLoop_eq, parsedFrom.tasks, filter_taskOf, List.map_map]
  rfl

theorem recordOf_document (parsedFrom : ParsedFrom env dataJv tasksJv self) (task : Json) :
    RecordOf dataJv task ((screenshotJson self).set "app_id" (.string (textOf task "uid"))) where
  appId := by simp
  deviceId := by simp [screenshotJson, parsedFrom.device]
  payload := by simp [screenshotJson, parsedFrom.payload]

/-- The time of a document goes through a cast. -/
theorem carriesTime_document (parsedFrom : ParsedFrom env dataJv tasksJv self) (appId : Json) :
    CarriesTime dataJv ((screenshotJson self).set "app_id" appId) ↔ TimeIsInt dataJv := by
  apply exists_congr
  intro time
  apply and_congr_right
  intro said
  have written : ((screenshotJson self).set "app_id" appId).find? "time" = some (.int (castInt time)) := by
    simp [screenshotJson, parsedFrom.time, said]
  rw [written, Option.some.injEq, Json.int.injEq, castInt_eq_iff]

end Records

/-- Every task that asks for a record gets one, with its own tenant and with the device and the payload of
    the message. -/
theorem screenshotDocuments_recordOf {env : Env} {self : BaseData} {dataJv tasksJv : Json}
    (parsedFrom : ParsedFrom env dataJv tasksJv self) :
    List.Forall₂ (RecordOf dataJv) ((elementsOf tasksJv "tasks").filter asksForScreenshot)
      (screenshotDocuments self) := by
  rw [screenshotDocuments_eq parsedFrom, List.forall₂_map_right_iff, List.forall₂_same]
  exact fun task _ => recordOf_document parsedFrom task

/-! ## Main result -/

/-- For every accepted screenshot message: the records fan out exactly if and only if no task asks for one,
    or the message has a time that an `int` holds.  Nothing but the time is ever different. -/
theorem screenshot_fans_out_iff (env : Env) (data : Option PmPtr) (payload : String) (self : BaseData)
    (accepted : parseMessage env data payload = .ok (some self)) (isScreenshot : self.dataClass = .screenshot) :
    ∃ dataJv tasksJv, IsScreenshot env payload dataJv tasksJv ∧
      (∀ session : Session, session.kafkaData = self → (makeKafkaRequest env).run session =
        .ret (some ((screenshotDocuments self).map (screenshotRecord env)), session)) ∧
      List.Forall₂ (RecordOf dataJv) ((elementsOf tasksJv "tasks").filter asksForScreenshot)
        (screenshotDocuments self) ∧
      (FansOut dataJv tasksJv (screenshotDocuments self) ↔
        (∀ task ∈ elementsOf tasksJv "tasks", asksForScreenshot task = false) ∨ TimeIsInt dataJv) := by
  obtain ⟨dataJv, tasksJv, documents, parsedFrom⟩ := parseMessage_screenshot accepted isScreenshot
  refine ⟨dataJv, tasksJv, documents, ?_, screenshotDocuments_recordOf parsedFrom, ?_⟩
  · rintro session rfl
    rw [makeKafkaRequest]
    simp only [StateT.run_bind, StateT.run_get, Prog.pure_eq, Prog.ret_bind, isScreenshot]
    rw [makeScreenshootKafkaRequest_loop]
    rfl
  · rw [FansOut, screenshotDocuments_eq parsedFrom, List.forall₂_map_right_iff, List.forall₂_same]
    simp only [carriesTime_document parsedFrom, recordOf_document parsedFrom, true_and, List.mem_filter, and_imp]
    constructor
    · intro timed
      by_cases fits : TimeIsInt dataJv
      · exact .inr fits
      · refine .inl fun task found => ?_
        rw [← Bool.not_eq_true]
        exact fun asks => fits (timed task found asks)
    · rintro (none | fits) task found asks
      · rw [none task found] at asks
        cases asks
      · exact fits

/-- A message with this time, whose second task asks for a record. -/
def screenshotMessage (tmst : String) : String :=
  "\x7b\"data\":\x7b\"app_id\":\"a\",\"bid\":\"\x7b\\\"tasks\\\":[\x7b\\\"busi_type\\\":2,\\\"uid\\\":\\\"other\\\"\x7d,\x7b\\\"busi_type\\\":6,\\\"uid\\\":\\\"business_test2\\\"\x7d]\x7d\",\"did\":\"d\",\"payload\":\"\x7b\\\"capture\\\":\x7b\x7d\x7d\",\"ptype\":1,\"tmst\":"
    ++ tmst ++ "\x7d\x7d"

def screenshotTasks : String :=
  "\x7b\"tasks\":[\x7b\"busi_type\":2,\"uid\":\"other\"\x7d,\x7b\"busi_type\":6,\"uid\":\"business_test2\"\x7d]\x7d"

def screenshotEnv (tmst : String) (time : Int) : Env where
  text := tableText
    [(screenshotMessage tmst, .object [("data", .object [("app_id", .string "a"), ("bid", .string screenshotTasks),
        ("did", .string "d"), ("payload", .string "\x7b\"capture\":\x7b\x7d\x7d"), ("ptype", .int 1),
        ("tmst", .int time)])]),
      (screenshotTasks, .object [("tasks", .array [
        .object [("busi_type", .int 2), ("uid", .string "other")],
        .object [("busi_type", .int 6), ("uid", .string "business_test2")]])]),
      ("\x7b\"capture\":\x7b\x7d\x7d", .object [("capture", .object [])])]
  conf := { getValue := fun _ _ => none, getIntValue := fun _ _ => none }
  uninit := { timestamp := 0, similar := 0 }

set_option maxRecDepth 4000 in
/-- A time in seconds is in the record. -/
theorem screenshot_fans_out_seconds :
    ∃ self dataJv tasksJv,
      parseMessage (screenshotEnv "1550487289" 1550487289) none (screenshotMessage "1550487289") =
        .ok (some self) ∧
      IsScreenshot (screenshotEnv "1550487289" 1550487289) (screenshotMessage "1550487289") dataJv tasksJv ∧
      FansOut dataJv tasksJv (screenshotDocuments self) := by
  have accepted : ∃ self, parseMessage (screenshotEnv "1550487289" 1550487289) none
      (screenshotMessage "1550487289") = .ok (some self) ∧ self.dataClass = .screenshot := ⟨_, rfl, rfl⟩
  obtain ⟨self, accepted, isScreenshot⟩ := accepted
  obtain ⟨dataJv, tasksJv, documents, -, -, exact_iff⟩ :=
    screenshot_fans_out_iff _ _ _ self accepted isScreenshot
  refine ⟨self, dataJv, tasksJv, accepted, documents, exact_iff.mpr (.inr ?_)⟩
  cases documents.data
  exact ⟨1550487289, rfl, by decide⟩

set_option maxRecDepth 4000 in
/-- A time in milliseconds is cut to 32 bits. -/
theorem screenshot_milliseconds_cut :
    ∃ self dataJv tasksJv,
      parseMessage (screenshotEnv "1550487289000" 1550487289000) none (screenshotMessage "1550487289000") =
        .ok (some self) ∧ self.dataClass = .screenshot ∧
      IsScreenshot (screenshotEnv "1550487289000" 1550487289000) (screenshotMessage "1550487289000") dataJv
        tasksJv ∧
      ¬FansOut dataJv tasksJv (screenshotDocuments self) := by
  refine ⟨_, _, _, rfl, rfl, ⟨rfl, rfl⟩, ?_⟩
  intro fansOut
  obtain ⟨time, said, written⟩ := (List.forall₂_cons.mp fansOut).1.2
  cases said
  have cut : Json.int 4095144 = Json.int 1550487289000 := Option.some.inj written
  cases cut

end XBusiness
