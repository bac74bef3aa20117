import XBusiness.Lib.Machine
import XBusiness.Workflow.Ownership

/-! # The course of a session

A session is taken through the modules of its chain.  The chain shrinks with every module and
grows with a retry, with the next picture to download and with the output that `GetPlugin`
adds, while the session goes from the queue to a request and back.

* `moduleProcess_sees` / `requestCallback_sees` — what is seen of a session when its module or its
  callback has returned, whatever it was answered.
* `Processed` / `Answered` — what that makes of its itinerary.
* `courseMachine` — the steps of one session, driven by the answers from the outside.
-/

namespace XBusiness

open Interaction

/-! ## What is seen of a session -/

/-- What has become of a session since a thread works for it, and the last document that Mongo
    has found. -/
structure Sight where
  pending : Pending
  document : Option Document := none

/-- The calls that pass on the session with this identity. -/
def Sight.after (ref : Nat) (sight : Sight) : (request : FlowCall) → request.Answer → Sight
  | .pushMsg session, _ =>
    if session.ref = ref then { sight with pending := .queued session } else sight
  | .sendRequest session procType request, _ =>
    if session.ref = ref then { sight with pending := .requested session procType request } else sight
  | .final session _, _ => if session.ref = ref then { sight with pending := .ended } else sight
  | .findOne _ _, .found view => { sight with document := some view }
  | _, _ => sight

def sightContract (ref : Nat) : Contract Sight FlowCall FlowCall.Answer :=
  .alone (fun _ _ => True) fun sight request answer after => after = sight.after ref request answer

abbrev Sees {α : Type} (ref : Nat) (post : Sight → α → Session → Prop) (program : Flow α) (sight : Sight)
    (object : Session) : Prop :=
  StateProg.Safe (sightContract ref) (fun _ => True) post program sight object

section Sees

variable {α β : Type} {ref : Nat} {sight : Sight} {object : Session}

/-- The session is the one that is looked at, and it is not finished. -/
structure Own (ref : Nat) (itinerary : Itinerary) : Prop where
  same : itinerary.entry.1 = ref
  unfinished : itinerary.isFinished = false

theorem pushMsg_sees (own : Own ref object.itinerary) :
    Sees ref (fun later _ after => later = { sight with pending := .queued object } ∧ after = object)
      pushMsg sight object := by
  have same : object.ref = ref := own.same
  apply StateProg.Safe.get
  rintro _ rfl
  refine ⟨trivial, ?_⟩
  rintro _ _ rfl _ rfl
  exact ⟨by simp [Sight.after, same], rfl⟩

theorem final_sees (err : ErrCode) (own : Own ref object.itinerary) :
    Sees ref (fun later _ after => later = { sight with pending := .ended } ∧ after.isFinished = true)
      (final err) sight object := by
  have same : object.ref = ref := own.same
  have unfinished : object.isFinished = false := own.unfinished
  apply StateProg.Safe.get
  rw [unfinished]
  rintro _ rfl
  refine ⟨trivial, ?_⟩
  rintro _ _ rfl _ rfl
  exact ⟨by simp [Sight.after, same], rfl⟩

/-- What the end of a module makes of its session. -/
def Session.passedOn (session : Session) : Pending :=
  if session.procChain = [] then .ended else .queued session

theorem pushOrFinal_sees (own : Own ref object.itinerary) :
    Sees ref (fun later _ _ => later = { sight with pending := object.passedOn }) pushOrFinal sight
      object := by
  apply StateProg.Safe.get
  unfold Session.passedOn
  by_cases empty : object.procChain = []
  · simp only [empty, ne_eq, not_true_eq_false, decide_false, Bool.false_eq_true, if_false, if_true]
    exact (final_sees .success own).mono fun _ _ _ ended => ended.1
  · simp only [empty, ne_eq, not_false_eq_true, decide_true, if_true, if_false]
    exact (pushMsg_sees own).mono fun _ _ _ pushed => pushed.1

theorem Own.of_standing {after : Session} (own : Own ref object.itinerary)
    (same : after.standing = object.standing) : Own ref after.itinerary :=
  ⟨(congrArg (fun standing : Entry × Bool => standing.1.1) same).trans own.same,
    (congrArg Prod.snd same).trans own.unfinished⟩

/-- What an ending makes of its session. -/
def Ending.leaves : Ending → Session → Pending
  | passes, session => session.passedOn
  | again, session => .queued session
  | fails _, _ => .ended
  | asks procType request, session => .requested { session with currentType := some procType } procType request

theorem ending_sees (ending : Ending) (own : Own ref object.itinerary) :
    Sees ref (fun later _ _ => later = { sight with pending := ending.leaves object }) ending.run sight
      object := by
  cases ending with
  | passes => exact pushOrFinal_sees own
  | again => exact (pushMsg_sees own).mono fun _ _ _ pushed => pushed.1
  | fails err => exact (final_sees err own).mono fun _ _ _ ended => ended.1
  | asks procType request =>
    have same : object.ref = ref := own.same
    apply StateProg.Safe.modify
    apply StateProg.Safe.get
    rintro _ rfl
    refine ⟨trivial, ?_⟩
    rintro _ _ rfl _ rfl
    simp [Sight.after, same, Ending.leaves]

end Sees

/-! ## What is seen of a module -/

/-- The document lists the data type of the plugin, and it is one of those that an output is
    added for. -/
def PluginInfo.subscribes (plugin : PluginInfo) (view : Document) : Bool :=
  match readPlugin plugin view with
  | some (_, listed) => listed && (plugin.datatype = 2 || plugin.datatype = 3)
  | none => false

/-- What is added to the chain by `Process` of a module with this sight at its end. -/
def Sight.added (sight : Sight) (procType : ProcType) (plugin : PluginInfo) : Bool :=
  procType = .getPlugin && sight.document.any plugin.subscribes

/-- The module has come to this ending, and this is seen of its session: the output is added exactly if
    the document that was found subscribes the plugin. -/
structure Seen (env : Env) (procType : ProcType) (session : Session) (later : Sight) (ending : Ending)
    (after : Session) : Prop where
  does : ModuleDoes env session procType ending after
  chain : ending = .passes → after.procChain =
    session.procChain ++ addedOutput (later.added procType session.kafkaData.plugin)

section Modules

variable {env : Env} {ref : Nat} {sight : Sight} {object after : Session} {procType : ProcType} {ending : Ending}

/-- A module that is not `GetPlugin` adds nothing. -/
theorem seen_of_does (other : procType ≠ .getPlugin) (later : Sight)
    (does : ModuleDoes env object procType ending after) : Seen env procType object later ending after := by
  refine ⟨does, ?_⟩
  rintro rfl
  have nothing : later.added procType object.kafkaData.plugin = false := by simp [Sight.added, other]
  rw [nothing]
  cases does with
  | fills _ _ _ same =>
    have chains : after.procChain = object.procChain :=
      congrArg Itinerary.procChain (itinerary_of_unfilled same)
    simp [chains, addedOutput]
  | plugs => exact absurd rfl other

/-- The documents that an answer brings. -/
def FindResult.document? : FindResult → Option Document
  | .found view => some view
  | .notFound => none
  | .exception => none

theorem pluggedBy_chain (session : Session) (answer : FindResult) (passed : (session.pluggedBy answer).1 = true) :
    (session.pluggedBy answer).2.procChain =
      session.procChain ++ addedOutput (answer.document?.any session.kafkaData.plugin.subscribes) := by
  cases answer with
  | notFound => simp [Session.pluggedBy, FindResult.document?, addedOutput]
  | exception => cases passed
  | found view =>
    cases read : readPlugin session.kafkaData.plugin view with
    | none =>
      rw [Session.pluggedBy, read] at passed
      cases passed
    | some result =>
      obtain ⟨plugin, listed⟩ := result
      -- what is read of the plugin leaves its data type
      obtain ⟨datatype, enable⟩ := readPlugin_keeps read
      simp [Session.pluggedBy, FindResult.document?, PluginInfo.subscribes, read, datatype, enable]

theorem getPluginBody_sees (fresh : sight.document = none) :
    Sees ref (Seen env .getPlugin object) (moduleBody env .getPlugin) sight object := by
  have untouched : ∀ later, Seen env .getPlugin object later (.fails .mongoFailed) object :=
    fun later => ⟨.fails .getPlugin .mongoFailed object .getPlugin rfl, fun impossible => by cases impossible⟩
  show Prog.Safe _ _ _ ((passesOrFails .mongoFailed <$> getInfoByAppId).run object) sight
  rw [map_eq_pure_bind, StateT.run_bind, getInfoByAppId_run]
  rintro _ rfl
  refine ⟨trivial, ?_⟩
  rintro acquired start rfl
  cases acquired with
  | false =>
    rintro _ rfl
    exact untouched _
  | true =>
    rintro _ rfl
    refine ⟨trivial, ?_⟩
    rintro answer _ rfl _ rfl
    refine ⟨pluggedBy_does answer, fun passes => ?_⟩
    have passed : (object.pluggedBy answer).1 = true := by
      cases passed : (object.pluggedBy answer).1 with
      | true => rfl
      | false =>
        simp [passed, passesOrFails] at passes
    have document : (start.after ref (.findOne "adapter_model"
        [("app_id", .eq (.utf8 object.kafkaData.ipc.appId))]) answer).document = answer.document? := by
      cases answer <;> simp [Sight.after, FindResult.document?, fresh]
    rw [pluggedBy_chain object answer passed, ← document]
    simp [Sight.added]

theorem moduleProcess_sees (env : Env) (procType : ProcType) (own : Own ref object.itinerary)
    (fresh : sight.document = none) :
    Sees ref (fun later _ _ => ∃ ending after, Seen env procType object later ending after ∧
        later.pending = ending.leaves after)
      (moduleProcess env procType) sight object := by
  have body : Sees ref (Seen env procType object) (moduleBody env procType) sight object := by
    by_cases plugin : procType = .getPlugin
    · subst plugin
      exact getPluginBody_sees fresh
    · apply StateProg.Safe.mono
      · apply StateProg.safe_of_makes (fun _ => True) (moduleBody_does env procType object)
        · exact fun _ _ _ _ => trivial
        · exact fun _ _ _ _ => ⟨trivial, fun _ _ _ => trivial⟩
        · exact fun _ => trivial
        · trivial
      · exact fun later ending after does => seen_of_does plugin later does.2
  rw [moduleProcess_eq]
  apply StateProg.Safe.bind
  apply body.mono
  intro later ending after seen
  apply (ending_sees ending (own.of_standing (standing_of_bearing seen.does.bearing))).mono
  rintro last _ _ rfl
  exact ⟨ending, after, ⟨seen.does, seen.chain⟩, rfl⟩

theorem requestCallback_sees (env : Env) (procType : ProcType) (response : Option HttpResponse)
    (own : Own ref object.itinerary) :
    Sees ref (fun later _ _ => ∃ ending after, CallbackDoes env object procType response ending after ∧
        later.pending = ending.leaves after)
      (requestCallback env procType response) sight object := by
  unfold Sees StateProg.Safe
  rcases requestCallback_does env procType response object with ⟨fault, ran⟩ | ⟨ending, after, does, ran⟩
  · rw [ran]
    trivial
  · rw [ran]
    apply Prog.Safe.mono (ending_sees ending (own.of_standing does.standing))
    rintro last _ rfl
    exact ⟨ending, after, does, rfl⟩

end Modules

/-! ## What that makes of the itinerary -/

/-- The itinerary when the request of the module is sent: the url of a download is taken. -/
def Itinerary.requesting (itinerary : Itinerary) (procType : ProcType) : Itinerary :=
  if procType = .downloadImage then { itinerary with urlIndex := itinerary.urlIndex + 1 } else itinerary

/-- What `Process` of a module makes of a session with this itinerary. -/
inductive Processed (procType : ProcType) (itinerary : Itinerary) (added : List ProcType) : Pending → Prop where
  | ended : Processed procType itinerary added .ended
  | passed (session : Session) (plain : procType.isHttp = false) (more : session.procChain ≠ [])
      (same : session.itinerary = { itinerary with procChain := itinerary.procChain ++ added }) :
      Processed procType itinerary added (.queued session)
  | requested (session : Session) (request : RequestInfo) (http : procType.isHttp = true)
      (url : procType = .downloadImage → itinerary.urlIndex < itinerary.urlCount)
      (same : session.itinerary = itinerary.requesting procType) :
      Processed procType itinerary added (.requested session procType request)

theorem processed_passedOn {procType : ProcType} {itinerary : Itinerary} {added : List ProcType}
    {session : Session} (plain : procType.isHttp = false)
    (same : session.itinerary = { itinerary with procChain := itinerary.procChain ++ added }) :
    Processed procType itinerary added session.passedOn := by
  unfold Session.passedOn
  by_cases empty : session.procChain = []
  · rw [if_pos empty]
    exact .ended
  · rw [if_neg empty]
    exact .passed session plain empty same

/-- The url that a download takes is followed by the next one. -/
theorem getNextUrl_itinerary (session : Session) (taken : session.kafkaData.getNextUrl.1 ≠ "") :
    session.kafkaData.urlIndex < session.kafkaData.getUrlCount ∧
      (session.requesting .downloadImage).itinerary = session.itinerary.requesting .downloadImage := by
  obtain ⟨ref, kafkaData⟩ := session
  simp only [Session.requesting, BaseData.getNextUrl] at taken ⊢
  cases face : kafkaData.captureFaces[kafkaData.urlIndex]? with
  | none => simp [face] at taken
  | some next =>
    obtain ⟨inside, _⟩ := List.getElem?_eq_some_iff.mp face
    refine ⟨inside, ?_⟩
    obtain ⟨dataClass⟩ := kafkaData
    cases dataClass with
    | screenshot | xiashunBusiness => simp [BaseData.captureFaces] at inside
    | business | capture | xiashunCapture => rfl

theorem Seen.processed {env : Env} {procType : ProcType} {session after : Session} {later : Sight}
    {ending : Ending} (seen : Seen env procType session later ending after) :
    Processed procType session.itinerary (addedOutput (later.added procType session.kafkaData.plugin))
      (ending.leaves after) := by
  have chain := seen.chain
  cases seen.does with
  | fills _ _ plain same =>
    apply processed_passedOn plain
    have whole : after.itinerary = { session.itinerary with procChain := after.procChain } := by
      rw [← itinerary_of_unfilled same]
      rfl
    rw [whole, chain rfl]
    rfl
  | plugs plugin subscribed datatype =>
    apply processed_passedOn rfl
    show { session.itinerary with
      procChain := session.procChain ++ addedOutput subscribed, datatype := plugin.datatype } = _
    have added : session.procChain ++ addedOutput subscribed = _ := chain rfl
    rw [datatype, added]
    rfl
  | fails | noImages | noRequest => exact .ended
  | asks _ request http url _ =>
    cases procType with
    | downloadImage =>
      obtain ⟨inside, same⟩ := getNextUrl_itinerary session (url rfl)
      exact .requested _ request rfl (fun _ => inside) same
    | _ => exact .requested _ request http (fun download => by cases download) rfl

/-- The itinerary when a request has failed and is put back. -/
def Itinerary.retrying (itinerary : Itinerary) (procType : ProcType) : Itinerary := { itinerary with
  procChain := procType :: itinerary.procChain
  httpRetryTime := itinerary.httpRetryTime - 1
  urlIndex := if procType = .downloadImage then itinerary.urlIndex - 1 else itinerary.urlIndex }

/-- What the callback of a request makes of a session with this itinerary. -/
inductive Answered (procType : ProcType) (itinerary : Itinerary) : Pending → Prop where
  | ended : Answered procType itinerary .ended
  | accepted (session : Session) (more : session.procChain ≠ []) (same : session.itinerary = itinerary) :
      Answered procType itinerary (.queued session)
  | next (session : Session) (download : procType = .downloadImage)
      (more : itinerary.urlIndex < itinerary.urlCount)
      (same : session.itinerary = { itinerary with procChain := .downloadImage :: itinerary.procChain }) :
      Answered procType itinerary (.queued session)
  | retried (session : Session) (left : 0 < itinerary.httpRetryTime)
      (same : session.itinerary = itinerary.retrying procType) :
      Answered procType itinerary (.queued session)

/-- What the response to a request makes of the itinerary: another download is put in front. -/
theorem procHandlerResponse_itinerary {env : Env} {procType : ProcType} {response : HttpResponse}
    {session after : Session} {accepted : Bool}
    (ran : (procHandlerResponse env procType response).run session = .ok (accepted, after)) :
    after.itinerary = session.itinerary ∨
      procType = .downloadImage ∧ session.itinerary.urlIndex < session.itinerary.urlCount ∧
        after.itinerary =
          { session.itinerary with procChain := .downloadImage :: session.itinerary.procChain } := by
  cases procType with
  | traceSpace => exact .inl (procTraceSpaceResponse_preserves env response _ _ _ ran)
  | generateUrl => exact .inl (procGenerateUrlResponse_preserves env response _ _ _ ran)
  | outputKafka | picWait | businessSave | getPlugin =>
    cases ran
    exact .inl rfl
  | downloadImage =>
    -- the picture that is stored is no part of the itinerary
    have next : ∀ before : Session, before.itinerary = session.itinerary →
        (do
          if (← get).kafkaData.hasNextUrl then
            modify fun session => { session with procChain := .downloadImage :: session.procChain }
          return true : SessionFn Bool).run before = .ok (accepted, after) →
        after.itinerary = session.itinerary ∨
          ProcType.downloadImage = .downloadImage ∧
            session.itinerary.urlIndex < session.itinerary.urlCount ∧ after.itinerary =
              { session.itinerary with procChain := .downloadImage :: session.itinerary.procChain } := by
      intro before same ran
      rw [StateT.run_bind, StateT.run_get, pure_bind] at ran
      dsimp only at ran
      cases more : before.kafkaData.hasNextUrl with
      | false =>
        rw [more] at ran
        cases ran
        exact .inl same
      | true =>
        rw [more] at ran
        cases ran
        rw [← same]
        exact .inr ⟨rfl, of_decide_eq_true more, rfl⟩
    change (procImageResponse response).run session = _ at ran
    unfold procImageResponse at ran
    split at ran
    · split at ran
      · exact next { session with
          images := session.images ++ [{ url := session.currentDownloadUrl, img := response.content }] } rfl ran
      · exact next session rfl ran
    · cases ran
      exact .inl rfl

theorem CallbackDoes.answered {env : Env} {procType : ProcType} {session after : Session} {ending : Ending}
    {response : Option HttpResponse} (does : CallbackDoes env session procType response ending after) :
    Answered procType session.itinerary (ending.leaves after) := by
  cases does with
  | retries left =>
    apply Answered.retried _ left
    show { (session.retreating procType).itinerary with
      httpRetryTime := session.httpRetryTime - 1, procChain := procType :: session.procChain } = _
    rw [itinerary_retreating]
    rfl
  | exhausted | refuses => exact .ended
  | accepts response _ ran =>
    simp only [Ending.leaves, Session.passedOn]
    split
    · exact .ended
    · next empty =>
      cases procHandlerResponse_itinerary ran with
      | inl same => exact .accepted after empty same
      | inr next => exact .next after next.1 next.2.1 next.2.2

/-! ## The course -/

/-- The course of a session so far: what has become of it, the modules it has executed (the last
    one first), and whether `GetPlugin` has found it subscribed. -/
structure Course where
  pending : Pending
  executed : List ProcType := []
  subscribed : Bool := false

/-- What the outside does in one step: the answers to the calls, by their numbers, and the response
    to a request. -/
structure Moment where
  answer : Nat → (request : FlowCall) → request.Answer
  response : Option HttpResponse

/-- The session while a function works on it. -/
def Course.watch (course : Course) (session : Session) (program : Flow Unit) (moment : Moment) :
    Except Fault (Sight × Unit × Session) :=
  (program.run session).followed (Sight.after session.ref) moment.answer 0 { pending := course.pending }

/-- One step: `Process` of a session from the queue, or the callback of its request.  No step
    leaves a session that has ended, and none is made where an exception ends the process. -/
def Course.step (env : Env) (course : Course) (moment : Moment) : Option Course :=
  match course.pending with
  | .ended => some course
  | .queued session =>
    match course.watch session (sessionProcess env) moment with
    | .error _ => none
    | .ok (sight, _) =>
      match session.procChain with
      | [] => some { course with pending := sight.pending }
      | procType :: _ => some {
          pending := sight.pending
          executed := procType :: course.executed
          subscribed := course.subscribed || sight.added procType session.kafkaData.plugin }
  | .requested session procType _ =>
    match course.watch session (requestCallback env procType moment.response) moment with
    | .error _ => none
    | .ok (sight, _) => some { course with pending := sight.pending }

/-- The course of a session that is pushed into the queue. -/
def courseMachine (env : Env) (session : Session) : Machine Course Moment where
  start := { pending := .queued session }
  step := Course.step env

def Pending.session? : Pending → Option Session
  | queued session => some session
  | requested session _ _ => some session
  | ended => none

/-- What one step does to a course. -/
inductive Moves : Course → Course → Prop where
  | rests (executed : List ProcType) (subscribed : Bool) :
      Moves ⟨.ended, executed, subscribed⟩ ⟨.ended, executed, subscribed⟩
  | stops (session : Session) (executed : List ProcType) (subscribed : Bool)
      (empty : session.procChain = []) :
      Moves ⟨.queued session, executed, subscribed⟩ ⟨.ended, executed, subscribed⟩
  | processed (session : Session) (procType : ProcType) (rest executed : List ProcType)
      (subscribed found : Bool) (pending : Pending) (chain : session.procChain = procType :: rest)
      (finds : found = true → procType = .getPlugin ∧
        (session.itinerary.datatype = 2 ∨ session.itinerary.datatype = 3))
      (processed : Processed procType { session.itinerary with procChain := rest } (addedOutput found)
        pending) :
      Moves ⟨.queued session, executed, subscribed⟩ ⟨pending, procType :: executed, subscribed || found⟩
  | answered (session : Session) (procType : ProcType) (request : RequestInfo) (executed : List ProcType)
      (subscribed : Bool) (pending : Pending) (answered : Answered procType session.itinerary pending) :
      Moves ⟨.requested session procType request, executed, subscribed⟩ ⟨pending, executed, subscribed⟩

theorem subscribes_datatype {plugin : PluginInfo} {view : Document}
    (subscribes : plugin.subscribes view = true) : plugin.datatype = 2 ∨ plugin.datatype = 3 := by
  unfold PluginInfo.subscribes at subscribes
  split at subscribes
  · simp only [Bool.and_eq_true, Bool.or_eq_true, decide_eq_true_eq] at subscribes
    exact subscribes.2
  · cases subscribes

/-- What a step of a course runs, and what is seen of its session while it runs. -/
inductive CourseStep (env : Env) (moment : Moment) (executed : List ProcType) (subscribed : Bool) :
    Pending → Course → Prop where
  | rests : CourseStep env moment executed subscribed .ended ⟨.ended, executed, subscribed⟩
  | stops (session : Session) (empty : session.procChain = []) :
      CourseStep env moment executed subscribed (.queued session) ⟨.ended, executed, subscribed⟩
  | processes (session : Session) (procType : ProcType) (rest : List ProcType) (sight : Sight)
      (last : Unit × Session) (chain : session.procChain = procType :: rest)
      (watched : Course.watch ⟨.queued session, executed, subscribed⟩ { session with procChain := rest }
        (moduleProcess env procType) moment = .ok (sight, last)) :
      CourseStep env moment executed subscribed (.queued session)
        ⟨sight.pending, procType :: executed, subscribed || sight.added procType session.kafkaData.plugin⟩
  | answers (session : Session) (procType : ProcType) (request : RequestInfo) (sight : Sight)
      (last : Unit × Session)
      (watched : Course.watch ⟨.requested session procType request, executed, subscribed⟩ session
        (requestCallback env procType moment.response) moment = .ok (sight, last)) :
      CourseStep env moment executed subscribed (.requested session procType request)
        ⟨sight.pending, executed, subscribed⟩

theorem courseStep_of_step {env : Env} {course next : Course} {moment : Moment}
    (unfinished : ∀ session, course.pending.session? = some session → session.isFinished = false)
    (stepped : course.step env moment = some next) :
    CourseStep env moment course.executed course.subscribed course.pending next := by
  obtain ⟨pending, executed, subscribed⟩ := course
  cases pending with
  | ended =>
    cases stepped
    exact .rests
  | queued session =>
    simp only [Course.step] at stepped
    cases watched : Course.watch ⟨.queued session, executed, subscribed⟩ session (sessionProcess env) moment with
    | error fault =>
      rw [watched] at stepped
      cases stepped
    | ok seen =>
      obtain ⟨sight, last⟩ := seen
      rw [watched] at stepped
      cases chain : session.procChain with
      | nil =>
        simp only [chain, Option.some.injEq] at stepped
        have own : Own session.ref session.itinerary := ⟨rfl, unfinished session rfl⟩
        have sees : Sees session.ref (fun later _ _ => later.pending = .ended) (sessionProcess env)
            { pending := .queued session } session := by
          apply StateProg.Safe.get
          rw [chain]
          apply (final_sees .procTerminate own).mono
          rintro later _ after ⟨rfl, _⟩
          rfl
        have ended : sight.pending = .ended := sees.followed watched
        rw [← stepped, ended]
        exact .stops session chain
      | cons procType rest =>
        simp only [chain, Option.some.injEq] at stepped
        rw [Course.watch, sessionProcess_cons chain] at watched
        rw [← stepped]
        exact .processes session procType rest sight last chain watched
  | requested session procType request =>
    simp only [Course.step] at stepped
    cases watched : Course.watch ⟨.requested session procType request, executed, subscribed⟩ session
        (requestCallback env procType moment.response) moment with
    | error fault =>
      rw [watched] at stepped
      cases stepped
    | ok seen =>
      obtain ⟨sight, last⟩ := seen
      rw [watched] at stepped
      simp only [Option.some.injEq] at stepped
      rw [← stepped]
      exact .answers session procType request sight last watched

theorem course_moves {env : Env} {course next : Course} {moment : Moment}
    (unfinished : ∀ session, course.pending.session? = some session → session.isFinished = false)
    (stepped : course.step env moment = some next) : Moves course next := by
  have ran := courseStep_of_step unfinished stepped
  obtain ⟨pending, executed, subscribed⟩ := course
  cases ran with
  | rests => exact .rests executed subscribed
  | stops session empty => exact .stops session executed subscribed empty
  | processes session procType rest sight last chain watched =>
    have own : Own session.ref ({ session with procChain := rest } : Session).itinerary :=
      ⟨rfl, unfinished session rfl⟩
    obtain ⟨ending, after, seen, left⟩ := (moduleProcess_sees env procType own rfl).followed watched
    refine .processed session procType rest executed subscribed _ _ chain ?_ (left ▸ seen.processed)
    -- the plugin is added where one of the views subscribes to the data type of the session
    intro found
    simp only [Sight.added, Bool.and_eq_true, decide_eq_true_eq, Option.any_eq_true] at found
    obtain ⟨isPlugin, view, _, subscribes⟩ := found
    exact ⟨isPlugin, subscribes_datatype subscribes⟩
  | answers session procType request sight last watched =>
    have own : Own session.ref session.itinerary := ⟨rfl, unfinished session rfl⟩
    obtain ⟨ending, after, does, left⟩ := (requestCallback_sees env procType moment.response own).followed watched
    exact .answered session procType request executed subscribed sight.pending (left ▸ does.answered)

end XBusiness
