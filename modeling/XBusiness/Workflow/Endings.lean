import XBusiness.Lib.Closing
import XBusiness.Workflow.PictureWait

/-! # How a module ends

`Process` of a module and the callback of a request work on their session, and then they do one of four
things with it: go on with its chain, put it back into the queue, finalise it, or ask for something.

* `Ending` — the four, and `Ending.run` for the calls that they make.
* `moduleProcess_eq` / `requestCallback_eq` — `Process` and the callbacks, with the ending apart.
* `ModuleDoes` / `CallbackDoes` — what a module or a callback leaves of its session, and its ending.
* `moduleBody_does` / `requestCallback_does` — so does every module and every callback, whatever it is answered.
-/

namespace XBusiness

open Interaction
open XBusiness.Flow (call)
open StateProg (Frames)

/-- The modules with the `Process` of `HTTPModuleWrapper`. -/
def ProcType.isHttp : ProcType → Bool
  | downloadImage | traceSpace | generateUrl => true
  | outputKafka | picWait | businessSave | getPlugin => false

/-- The output that `repairProcChain` adds. -/
def addedOutput (subscribed : Bool) : List ProcType := if subscribed then [.outputKafka] else []

/-! ## Endings -/

inductive Ending where
  | passes
  | again
  | fails (err : ErrCode)
  | asks (procType : ProcType) (request : RequestInfo)

def Ending.run : Ending → Flow Unit
  | passes => pushOrFinal
  | again => pushMsg
  | fails err => final err
  | asks procType request => do
    modify fun session => { session with currentType := some procType }
    call (.sendRequest (← get) procType request)

/-- The body of the request to the trace space, for the object of a message, the id of its session and the
    entries of its images. -/
def traceSpaceJson (data : BaseData) (sessionId : String) (images : List Json) : Json :=
  let outJv := Json.null.set "dossier_name" (.string data.ipc.spaceId)
  let outJv := outJv.set "model_version" (.string "")
  let outJv := outJv.set "device_id" (.string data.ipc.deviceId)
  let outJv := outJv.set "uid" (.string sessionId)
  let outJv := outJv.set "ipc_tmst" (.int data.ipc.timestamp)
  let outJv := outJv.set "track_id" (.int data.getTrackId)
  let outJv := outJv.set "replay" (.int data.getReplay)
  outJv.set "images" (.array images)

/-- The request that is made of these entries. -/
def traceSpaceRequest (env : Env) (session : Session) (images : List Json) : RequestInfo where
  method := "POST"
  path := "/api/xtrace/capture/identify?app_id=" ++ session.kafkaData.ipc.appId
  body := env.text.toStyledString (traceSpaceJson session.kafkaData session.sessionId images)

def asksOrFails (procType : ProcType) : Option RequestInfo → Ending
  | some request => .asks procType request
  | none => .fails .procTerminate

def passesOrFails (err : ErrCode) (passed : Bool) : Ending := if passed then .passes else .fails err

/-- What `Process` of a module does before its ending. -/
def moduleBody (env : Env) : ProcType → Flow Ending
  | .downloadImage => asksOrFails .downloadImage <$> makeDownloadRequest env
  | .generateUrl => asksOrFails .generateUrl <$> makeGenerateUrlRequest env
  | .traceSpace => do
    let session ← get
    if session.images = [] then
      return .fails .downloadError
    else
      let images ← Flow.ofExcept (imageEntries session.kafkaData 0 session.images)
      return .asks .traceSpace (traceSpaceRequest env session images)
  | .getPlugin => passesOrFails .mongoFailed <$> getInfoByAppId
  | .businessSave => passesOrFails .mongoFailed <$> saveBusinessMongo
  | .picWait => do
    match ← getResultOfWait env with
    | .wait => return .fails .success
    | .pass => return .passes
  | .outputKafka => do
    match ← makeKafkaRequest env with
    | none => return .fails .kafkaError
    | some sendDatas =>
      let data := (← get).kafkaData
      if data.getReplay = 1 ∧ data.plugin.replayPushFlag = 0 then
        return .passes
      else
        passesOrFails .kafkaError <$> Flow.ofProg (pushAllToKafka sendDatas)

/-- The session when its request has failed: a download gives its url back. -/
def Session.retreating (session : Session) (procType : ProcType) : Session :=
  if procType = .downloadImage then { session with kafkaData := session.kafkaData.retreatUrl } else session

/-- What the callback of a request does before its ending. -/
def callbackBody (env : Env) (procType : ProcType) : Option HttpResponse → SessionFn Ending
  | some response => passesOrFails .procTerminate <$> procHandlerResponse env procType response
  | none => do
    modify fun session => session.retreating procType
    let session ← get
    if 0 < session.httpRetryTime then
      modify fun session => { session with
        httpRetryTime := session.httpRetryTime - 1, procChain := procType :: session.procChain }
      return .again
    else
      return .fails .httpConnError

section Equations

variable (env : Env)

theorem passesOrFails_run (err : ErrCode) (passed : Bool) :
    (passesOrFails err passed).run = if passed then pushOrFinal else final err := by
  cases passed <;> rfl

theorem final_run (err : ErrCode) (session : Session) :
    (final err).run session =
      if session.isFinished then .ret ((), session)
      else .call (.final session err) fun _ => .ret ((), { session with isFinished := true }) := by
  unfold final
  rw [StateT.run_bind, StateT.run_get, pure_bind]
  dsimp only
  split <;> rfl

/-- A session that is finalised is not finalised again. -/
theorem final_twice (err other : ErrCode) : (do final err; final other) = final err := by
  funext session
  show ((final err >>= fun _ => final other).run session) = (final err).run session
  rw [StateT.run_bind, final_run]
  split
  · next finished => simp only [Prog.ret_bind, final_run, finished, if_true]
  · simp only [Prog.call_bind, Prog.ret_bind, final_run, if_true]

theorem moduleProcess_eq (procType : ProcType) :
    moduleProcess env procType = moduleBody env procType >>= Ending.run := by
  cases procType with
  | downloadImage | generateUrl =>
    simp only [moduleBody, bind_map_left]
    apply bind_congr
    intro request
    cases request <;> rfl
  | traceSpace =>
    show httpProcess env .traceSpace = _
    simp only [httpProcess, makeRequest, makeTraceSpaceRequest, moduleBody, bind_assoc]
    apply bind_congr
    intro session
    split
    · -- `makeTraceSpaceRequest` has finalised the session already
      rw [bind_assoc]
      exact final_twice .downloadError .procTerminate
    · simp only [bind_assoc]
      rfl
  | getPlugin | businessSave =>
    simp only [moduleBody, bind_map_left, passesOrFails_run]
    rfl
  | picWait =>
    simp only [moduleBody, bind_assoc]
    apply bind_congr
    intro result
    cases result <;> rfl
  | outputKafka =>
    simp only [moduleBody, bind_assoc]
    apply bind_congr
    intro sendDatas
    cases sendDatas with
    | none => rfl
    | some sendDatas =>
      simp only [bind_assoc]
      apply bind_congr
      intro session
      split
      · rfl
      · simp only [bind_map_left, passesOrFails_run]

/-- A request that has failed is put back while there are retries. -/
theorem callbackBody_none (procType : ProcType) (session : Session) :
    (callbackBody env procType none).run session = .ok (
      if 0 < session.httpRetryTime then
        (.again, { session.retreating procType with
          httpRetryTime := session.httpRetryTime - 1, procChain := procType :: session.procChain })
      else (.fails .httpConnError, session.retreating procType)) := by
  unfold callbackBody Session.retreating
  by_cases download : procType = .downloadImage <;> by_cases left : 0 < session.httpRetryTime <;>
    simp [download, left, StateT.run_bind, StateT.run_get, StateT.run_modify] <;> rfl

theorem requestCallback_eq (procType : ProcType) (response : Option HttpResponse) :
    requestCallback env procType response =
      Flow.ofSessionFn (callbackBody env procType response) >>= Ending.run := by
  cases response with
  | some response =>
    simp only [callbackBody, map_eq_pure_bind, Flow.ofSessionFn_bind, bind_assoc]
    apply bind_congr
    intro accepted
    cases accepted <;> rfl
  | none =>
    funext session
    show (httpErrorProcess procType).run session = StateT.run _ session
    rw [StateT.run_bind, Flow.run_ofSessionFn_ok (callbackBody_none env procType session)]
    unfold httpErrorProcess Session.retreating
    by_cases download : procType = .downloadImage <;> by_cases left : 0 < session.httpRetryTime <;>
      simp [download, left, StateT.run_bind, StateT.run_get, StateT.run_modify] <;> rfl

end Equations

/-- The calls of an ending. -/
inductive Ending.Call : Ending → Session → FlowCall → Prop where
  | completes (session : Session) (empty : session.procChain = []) : Call .passes session (.final session .success)
  | pushes (session : Session) (more : session.procChain ≠ []) : Call .passes session (.pushMsg session)
  | again (session : Session) : Call .again session (.pushMsg session)
  | fails (err : ErrCode) (session : Session) : Call (.fails err) session (.final session err)
  | asks (procType : ProcType) (request : RequestInfo) (session : Session) :
      Call (.asks procType request) session
        (.sendRequest { session with currentType := some procType } procType request)

theorem ending_makes (ending : Ending) (session : Session) :
    (ending.run.run session).Makes (ending.Call session) fun _ => True := by
  have final : ∀ err, ending.Call session (.final session err) →
      ((final err).run session).Makes (ending.Call session) fun _ => True := by
    intro err call
    rw [final_run]
    split
    · trivial
    · exact ⟨call, fun _ => trivial⟩
  cases ending with
  | passes =>
    show Prog.Makes _ _ ((if _ then _ else _ : Flow Unit).run session)
    split
    · next more => exact ⟨.pushes session (of_decide_eq_true more), fun _ => trivial⟩
    · next empty => exact final .success (.completes session (by simpa using empty))
  | again => exact ⟨.again session, fun _ => trivial⟩
  | fails err => exact final err (.fails err session)
  | asks procType request => exact ⟨.asks procType request session, fun _ => trivial⟩

/-! ## What a module does -/

/-- The session when its request is sent: a download takes the next url. -/
def Session.requesting (session : Session) : ProcType → Session
  | .downloadImage => { session with
      currentDownloadUrl := session.kafkaData.getNextUrl.1, kafkaData := session.kafkaData.getNextUrl.2 }
  | _ => session

/-- The elements of a request for generated urls. -/
def Session.generateUrlList (session : Session) : Option (List Json) :=
  (getGenerateUrlData session.kafkaData).bind fun faces =>
    (if session.personResult.url ≠ "" then
      (splitUri session.personResult.url).map fun parts => [storageUrlJson parts]
    else some []).map fun person => faces ++ person

/-- What a request of a session asks for. -/
def Session.asksFor (env : Env) (session : Session) (request : RequestInfo) : ProcType → Prop
  | .downloadImage => ∃ parts, splitUri session.currentDownloadUrl = some parts ∧
      request.body = env.text.toStyledString (storageUrlJson parts)
  | .traceSpace => ∃ images, imageEntries session.kafkaData 0 session.images = .ok images ∧
      request = traceSpaceRequest env session images
  | .generateUrl => ∃ list, session.generateUrlList = some list ∧ request.body = env.text.toStyledString
      (if list = [] then .null else Json.null.set "list" (.array list))
  | .outputKafka | .picWait | .businessSave | .getPlugin => False

/-- The code of a module without a request; that of the picture wait is the one of a session that waits. -/
inductive ProcType.FailsWith : ProcType → ErrCode → Prop where
  | getPlugin : FailsWith .getPlugin .mongoFailed
  | businessSave : FailsWith .businessSave .mongoFailed
  | outputKafka : FailsWith .outputKafka .kafkaError
  | picWait : FailsWith .picWait .success

/-- The ending of `Process` of a module, and what it has left of the session before it. -/
inductive ModuleDoes (env : Env) (session : Session) : ProcType → Ending → Session → Prop where
  | fills (procType : ProcType) (after : Session) (plain : procType.isHttp = false)
      (same : after.unfilled = session.unfilled) : ModuleDoes env session procType .passes after
  | plugs (plugin : PluginInfo) (subscribed : Bool) (datatype : plugin.datatype = session.kafkaData.plugin.datatype) :
      ModuleDoes env session .getPlugin .passes { session with
        kafkaData := { session.kafkaData with plugin := plugin }
        procChain := session.procChain ++ addedOutput subscribed }
  | fails (procType : ProcType) (err : ErrCode) (after : Session) (module : procType.FailsWith err)
      (same : after.unfilled = session.unfilled) : ModuleDoes env session procType (.fails err) after
  | noImages (empty : session.images = []) : ModuleDoes env session .traceSpace (.fails .downloadError) session
  | noRequest (procType : ProcType) (after : Session) (http : procType.isHttp = true)
      (same : after = session ∨ after = session.requesting procType) :
      ModuleDoes env session procType (.fails .procTerminate) after
  | asks (procType : ProcType) (request : RequestInfo) (http : procType.isHttp = true)
      (url : procType = .downloadImage → session.kafkaData.getNextUrl.1 ≠ "")
      (made : (session.requesting procType).asksFor env request procType) :
      ModuleDoes env session procType (.asks procType request) (session.requesting procType)

/-- The same for the callback of a request. -/
inductive CallbackDoes (env : Env) (session : Session) (procType : ProcType) :
    Option HttpResponse → Ending → Session → Prop where
  | retries (left : 0 < session.httpRetryTime) :
      CallbackDoes env session procType none .again { session.retreating procType with
        httpRetryTime := session.httpRetryTime - 1, procChain := procType :: session.procChain }
  | exhausted (spent : session.httpRetryTime = 0) :
      CallbackDoes env session procType none (.fails .httpConnError) (session.retreating procType)
  | accepts (response : HttpResponse) (after : Session)
      (ran : (procHandlerResponse env procType response).run session = .ok (true, after)) :
      CallbackDoes env session procType (some response) .passes after
  | refuses (response : HttpResponse) (after : Session)
      (ran : (procHandlerResponse env procType response).run session = .ok (false, after)) :
      CallbackDoes env session procType (some response) (.fails .procTerminate) after

/-- The calls of a module before its ending: those of the picture wait are about Redis and other sessions,
    and a module with a request makes none. -/
def ProcType.calls : ProcType → FlowCall → Prop
  | .picWait, _ => True
  | .downloadImage, _ | .traceSpace, _ | .generateUrl, _ => False
  | .getPlugin, request | .businessSave, request | .outputKafka, request => request.isQuiet

theorem ProcType.quiet_of_calls {procType : ProcType} (later : procType ≠ .picWait) (request : FlowCall)
    (calls : procType.calls request) : request.isQuiet := by
  cases procType with
  | picWait => exact absurd rfl later
  | downloadImage | traceSpace | generateUrl => exact calls.elim
  | getPlugin | businessSave | outputKafka => exact calls

section Bodies

variable {env : Env} {session : Session}

abbrev BodyDoes (env : Env) (procType : ProcType) (session : Session) (body : Flow Ending) : Prop :=
  (body.run session).Makes procType.calls fun result => ModuleDoes env session procType result.1 result.2

/-- A module that ends as its last part returns, which fills in results. -/
theorem passesOrFails_does {procType : ProcType} {err : ErrCode} {program : Flow Bool} {object : Session}
    (fills : Frames procType.calls Session.unfilled program) (plain : procType.isHttp = false)
    (module : procType.FailsWith err) (same : object.unfilled = session.unfilled) :
    ((passesOrFails err <$> program).run object).Makes procType.calls fun result =>
      ModuleDoes env session procType result.1 result.2 := by
  rw [map_eq_pure_bind]
  apply Prog.Makes.bind (fills object)
  rintro ⟨passed, after⟩ kept
  cases passed with
  | true => exact .fills procType after plain (kept.trans same)
  | false => exact .fails procType err after module (kept.trans same)

/-- What is read of the plugin leaves its data type. -/
theorem readPlugin_keeps {plugin result : PluginInfo} {view : Document} {listed : Bool}
    (read : readPlugin plugin view = some (result, listed)) :
    result.datatype = plugin.datatype ∧ result.enable = true := by
  unfold readPlugin at read
  simp only [Option.bind_eq_bind, Option.bind_eq_some_iff] at read
  obtain ⟨serviceAdapter, _, appId, _, faceRectFrom, _, faceAttrFrom, _, replayPushFlag, _, read⟩ := read
  split at read
  · cases read
    exact ⟨rfl, rfl⟩
  · simp only [Option.bind_eq_some_iff] at read
    obtain ⟨channels, _, topics, _, read⟩ := read
    split at read <;> cases read <;> exact ⟨rfl, rfl⟩

theorem repairProcChain_run (session : Session) :
    repairProcChain.run session = .ret ((), { session with
      procChain := session.procChain ++ addedOutput (session.kafkaData.plugin.enable &&
        (session.kafkaData.plugin.datatype = 2 || session.kafkaData.plugin.datatype = 3)) }) := by
  unfold repairProcChain addedOutput
  rw [StateT.run_bind, StateT.run_get, pure_bind]
  dsimp only
  split
  · rfl
  · rw [List.append_nil]
    rfl

/-- What `getInfoByAppId` makes of the answer to its query. -/
def Session.pluggedBy (session : Session) : FindResult → Bool × Session
  | .notFound => (true, session)
  | .exception => (false, session)
  | .found view =>
    match readPlugin session.kafkaData.plugin view with
    | none => (false, session)
    | some (plugin, repair) => (true, { session with
        kafkaData := { session.kafkaData with plugin := plugin }
        procChain := session.procChain ++
          addedOutput (repair && (plugin.enable && (plugin.datatype = 2 || plugin.datatype = 3))) })

/-- The part of `getInfoByAppId` that follows a document. -/
theorem plugFound_run (session : Session) (view : Document) :
    (do
      match readPlugin session.kafkaData.plugin view with
      | none => return false
      | some (plugin, repair) =>
        modify fun session => { session with kafkaData := { session.kafkaData with plugin := plugin } }
        if repair then
          repairProcChain
        return true : Flow Bool).run session = .ret (session.pluggedBy (.found view)) := by
  unfold Session.pluggedBy
  dsimp only
  cases readPlugin session.kafkaData.plugin view with
  | none => rfl
  | some result =>
    obtain ⟨plugin, repair⟩ := result
    cases repair with
    | false =>
      simp [addedOutput, StateT.run_modify]
      rfl
    | true =>
      simp [StateT.run_bind, StateT.run_modify, repairProcChain_run]
      rfl

theorem getInfoByAppId_run (session : Session) :
    getInfoByAppId.run session = .call .tryAcquire fun acquired =>
      if acquired = true then
        .call (.findOne "adapter_model" [("app_id", .eq (.utf8 session.kafkaData.ipc.appId))]) fun answer =>
          .ret (session.pluggedBy answer)
      else .ret (false, session) := by
  show Prog.call _ _ = _
  congr 1
  funext acquired
  cases acquired with
  | false => rfl
  | true =>
    show Prog.call _ _ = _
    congr 1
    funext answer
    cases answer with
    | notFound | exception => rfl
    | found view => exact plugFound_run session view

theorem pluggedBy_does (answer : FindResult) :
    ModuleDoes env session .getPlugin (passesOrFails .mongoFailed (session.pluggedBy answer).1)
      (session.pluggedBy answer).2 := by
  have untouched : ModuleDoes env session .getPlugin (.fails .mongoFailed) session :=
    .fails .getPlugin .mongoFailed session .getPlugin rfl
  cases answer with
  | notFound => exact .fills .getPlugin session rfl rfl
  | exception => exact untouched
  | found view =>
    unfold Session.pluggedBy
    dsimp only
    cases read : readPlugin session.kafkaData.plugin view with
    | none => exact untouched
    | some result => exact .plugs result.1 _ (readPlugin_keeps read).1

theorem makeDownloadRequest_does :
    BodyDoes env .downloadImage session (asksOrFails .downloadImage <$> makeDownloadRequest env) := by
  have none : ModuleDoes env session .downloadImage (.fails .procTerminate) (session.requesting .downloadImage) :=
    .noRequest .downloadImage _ rfl (.inr rfl)
  rw [BodyDoes, map_eq_pure_bind, StateT.run_bind]
  simp only [makeDownloadRequest, StateT.run_bind, StateT.run_get, Prog.pure_eq, Prog.ret_bind]
  split
  · -- without a face the cursor stays, in all other cases it has moved on
    exact .noRequest .downloadImage session rfl (.inl rfl)
  · simp only [StateT.run_bind, StateT.run_modify, Prog.pure_eq, Prog.ret_bind]
    split
    · exact none
    · next url =>
      split
      · exact none
      · next parts cut =>
        split
        · exact none
        · exact .asks .downloadImage _ rfl (fun _ => url) ⟨parts, cut, rfl⟩

theorem makeGenerateUrlRequest_does :
    BodyDoes env .generateUrl session (asksOrFails .generateUrl <$> makeGenerateUrlRequest env) := by
  have none : ModuleDoes env session .generateUrl (.fails .procTerminate) session :=
    .noRequest .generateUrl session rfl (.inl rfl)
  rw [BodyDoes, map_eq_pure_bind, StateT.run_bind]
  simp only [makeGenerateUrlRequest, StateT.run_bind, StateT.run_get, Prog.pure_eq, Prog.ret_bind]
  cases madeFaces : getGenerateUrlData session.kafkaData with
  | none => exact none
  | some faces =>
    cases madePerson : (if session.personResult.url ≠ "" then
        (splitUri session.personResult.url).map fun parts => [storageUrlJson parts] else some []) with
    | none => exact none
    | some person =>
      cases env.conf.getValue "s3proxy" "gen_url_path" with
      | none => exact none
      | some path =>
        have made : session.generateUrlList = some (faces ++ person) := by
          rw [Session.generateUrlList, madeFaces, Option.bind_some, madePerson]
          rfl
        exact .asks .generateUrl _ rfl (fun download => by cases download) ⟨_, made, rfl⟩

theorem traceSpaceBody_does : BodyDoes env .traceSpace session (moduleBody env .traceSpace) := by
  simp only [BodyDoes, moduleBody, StateT.run_bind, StateT.run_get, Prog.pure_eq, Prog.ret_bind]
  split
  · next empty => exact .noImages empty
  · rw [StateT.run_bind]
    cases entries : imageEntries session.kafkaData 0 session.images with
    | error fault => trivial
    | ok images => exact .asks .traceSpace _ rfl (fun download => by cases download) ⟨images, entries, rfl⟩

theorem outputKafkaBody_does : BodyDoes env .outputKafka session (moduleBody env .outputKafka) := by
  apply Prog.Makes.bind (makeKafkaRequest_fills env session)
  rintro ⟨sendDatas, after⟩ same
  cases sendDatas with
  | none => exact .fails .outputKafka .kafkaError after .outputKafka same
  | some sendDatas =>
    have pushes : Frames (ProcType.calls .outputKafka) Session.unfilled (Flow.ofProg (pushAllToKafka sendDatas)) :=
      ofProg_frames ((pushAllToKafka_makes sendDatas).mono isQuiet_of_producer)
    show Prog.Makes _ _ ((if _ then _ else _ : Flow Ending).run after)
    split
    · exact .fills .outputKafka after rfl same
    · exact passesOrFails_does pushes rfl .outputKafka same

/-- What every module leaves of its session and how it ends, whatever it is answered. -/
theorem moduleBody_does (env : Env) (procType : ProcType) (session : Session) :
    BodyDoes env procType session (moduleBody env procType) := by
  cases procType with
  | downloadImage => exact makeDownloadRequest_does
  | generateUrl => exact makeGenerateUrlRequest_does
  | traceSpace => exact traceSpaceBody_does
  | getPlugin =>
    show BodyDoes env .getPlugin session (passesOrFails .mongoFailed <$> getInfoByAppId)
    rw [BodyDoes, map_eq_pure_bind, StateT.run_bind, getInfoByAppId_run]
    refine ⟨trivial, fun acquired => ?_⟩
    cases acquired with
    | false => exact .fails .getPlugin .mongoFailed session .getPlugin rfl
    | true => exact ⟨trivial, pluggedBy_does⟩
  | businessSave => exact passesOrFails_does saveBusinessMongo_fills rfl .businessSave rfl
  | picWait =>
    apply Prog.Makes.bind (getResultOfWait_fills env session)
    rintro ⟨result, after⟩ same
    cases result with
    | wait => exact .fails .picWait .success after .picWait same
    | pass => exact .fills .picWait after rfl same
  | outputKafka => exact outputKafkaBody_does

/-- A callback ends in one of the four ways, unless an exception ends the process. -/
theorem requestCallback_does (env : Env) (procType : ProcType) (response : Option HttpResponse)
    (session : Session) :
    (∃ fault, (requestCallback env procType response).run session = .raise fault) ∨
      ∃ ending after, CallbackDoes env session procType response ending after ∧
        (requestCallback env procType response).run session = ending.run.run after := by
  rw [requestCallback_eq, StateT.run_bind]
  cases response with
  | none =>
    rw [Flow.run_ofSessionFn_ok (callbackBody_none env procType session)]
    right
    split
    · next left => exact ⟨_, _, .retries left, rfl⟩
    · next spent => exact ⟨_, _, .exhausted (Nat.eq_zero_of_not_pos spent), rfl⟩
  | some response =>
    cases ran : (procHandlerResponse env procType response).run session with
    | error fault =>
      have raised : (callbackBody env procType (some response)).run session = .error fault := by
        rw [callbackBody, map_eq_pure_bind, StateT.run_bind, ran]
        rfl
      rw [Flow.run_ofSessionFn_error raised]
      exact .inl ⟨fault, rfl⟩
    | ok result =>
      obtain ⟨accepted, after⟩ := result
      have body : (callbackBody env procType (some response)).run session =
          .ok (passesOrFails .procTerminate accepted, after) := by
        rw [callbackBody, map_eq_pure_bind, StateT.run_bind, ran]
        rfl
      rw [Flow.run_ofSessionFn_ok body]
      refine .inr ⟨_, after, ?_, rfl⟩
      cases accepted with
      | true => exact .accepts response after ran
      | false => exact .refuses response after ran

end Bodies

/-! ## What no module changes -/

/-- What a function may not change of its session: who it is, and whether it is finished. -/
def Session.standing (session : Session) : Entry × Bool := (session.entry, session.isFinished)

theorem standing_of_bearing {session after : Session} (same : after.bearing = session.bearing) :
    after.standing = session.standing :=
  congrArg (fun bearing : Bearing => (bearing.entry, bearing.isFinished)) same

theorem itinerary_of_unfilled {session after : Session} (same : after.unfilled = session.unfilled) :
    after.itinerary = session.itinerary := by
  have itineraries : after.unfilled.itinerary = session.unfilled.itinerary := congrArg Session.itinerary same
  exact itineraries

section Bearing

variable {env : Env} {session after : Session} {procType : ProcType} {ending : Ending}

theorem bearing_requesting (session : Session) (procType : ProcType) :
    (session.requesting procType).bearing = session.bearing := by
  cases procType with
  | downloadImage => exact bearing_getNextUrl session _
  | _ => rfl

theorem itinerary_retreating (session : Session) (procType : ProcType) :
    (session.retreating procType).itinerary = { session.itinerary with
      urlIndex := if procType = .downloadImage then session.itinerary.urlIndex - 1
        else session.itinerary.urlIndex } := by
  unfold Session.retreating
  split
  · exact itinerary_retreatUrl session
  · rfl

theorem bearing_retreating (session : Session) (procType : ProcType) :
    (session.retreating procType).bearing = session.bearing := by
  have moved := congrArg Itinerary.bearing (itinerary_retreating session procType)
  exact moved

theorem ModuleDoes.bearing (does : ModuleDoes env session procType ending after) :
    after.bearing = session.bearing := by
  cases does with
  | fills _ _ _ same | fails _ _ _ _ same => exact congrArg Itinerary.bearing (itinerary_of_unfilled same)
  | plugs plugin subscribed _ =>
    apply bearing_procChain { session with kafkaData := { session.kafkaData with plugin := plugin } }
    cases subscribed <;> simp [addedOutput]
  | noImages => rfl
  | noRequest _ _ _ same =>
    cases same with
    | inl same => rw [same]
    | inr same => rw [same, bearing_requesting]
  | asks _ _ _ _ _ => exact bearing_requesting session procType

theorem CallbackDoes.bearing {response : Option HttpResponse} (later : procType ≠ .picWait)
    (does : CallbackDoes env session procType response ending after) : after.bearing = session.bearing := by
  cases does with
  | retries _ =>
    have kept : (procType :: session.procChain).contains .picWait = session.procChain.contains .picWait := by
      rw [List.contains_cons, beq_false_of_ne later.symm, Bool.false_or]
    show { (session.retreating procType).bearing with waits := (procType :: session.procChain).contains .picWait } = _
    rw [bearing_retreating, kept]
    rfl
  | exhausted _ => exact bearing_retreating session procType
  | accepts response _ ran | refuses response _ ran =>
    exact procHandlerResponse_preserves env procType response _ _ _ ran

theorem CallbackDoes.standing {response : Option HttpResponse}
    (does : CallbackDoes env session procType response ending after) : after.standing = session.standing := by
  cases does with
  | retries _ =>
    exact (standing_of_bearing (bearing_retreating session procType) :)
  | exhausted _ => exact standing_of_bearing (bearing_retreating session procType)
  | accepts response _ ran | refuses response _ ran =>
    exact standing_of_bearing (procHandlerResponse_preserves env procType response _ _ _ ran)

end Bearing

end XBusiness
