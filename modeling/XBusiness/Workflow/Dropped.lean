import XBusiness.Lib.Family
import XBusiness.Workflow.PoolNotes
import XBusiness.Workflow.Progress

/-! # The sessions that are dropped

`ProcTraceSpaceResponse` lets a code through that `getPersonResult` rejects, and a session that is made of a
waiting payload for such an answer is dropped.  Nothing else is lost: where no such answer finds a message, every
session is in one place until it is finalised.

* `PoolState.findsNobody` — the condition on a step.
* `Session.Ready` — a trace session comes to the picture wait with an answer that it was let through with.
* `FlowCall.keeps` — the calls that keep all sessions, and hand ready ones on.
* `readyNotes_kept` — the threads make no others, whatever they are answered under the condition.
* `sessions_held` — along every run of such steps nothing is lost and nothing is twice.
-/

namespace XBusiness

open Interaction

/-! ## The condition -/

/-- A trace session has been let through with the code that only `ProcTraceSpaceResponse` accepts. -/
def Session.noPerson (env : Env) (session : Session) : Bool :=
  session.kafkaData.payloadType = PayloadType.trace && errorCode env session.traceSpaceResult = some (-10041)

/-- The payloads that a trace session finds waiting in a record. -/
def waitingPayloads (env : Env) (value : String) : List String :=
  match env.text.reader value with
  | .ok (some dataJson) =>
    match dataJson.member? "ptype" Json.int?, messageList dataJson with
    | .ok (some valueType), .ok waiting =>
      if valueType = PayloadType.business then waiting.filterMap Json.string? else []
    | _, _ => []
  | _ => []

/-- `handleFromRedis` makes a session of the payload. -/
def makesSession (env : Env) (payload : String) : Bool :=
  match parseMessage env none payload with
  | .ok (some _) => true
  | _ => false

def findsMessage (env : Env) (value : String) : Bool :=
  value ≠ "" && (waitingPayloads env value).any (makesSession env)

/-- The step is not one in which such a session reads a record with a message that waits for it. -/
def PoolState.findsNobody (env : Env) (state : PoolState) (sessions : List (Option Session)) : PoolLabel → Bool
  | .advance index answer =>
    match state.threads[index]?.map PoolThread.program, sessions[index]? with
    | some (.call (.redisGet key) _), some (some session) =>
      !(session.noPerson env && findsMessage env (answer (.redisGet key)).value)
    | _, _ => true
  | _ => true

/-! ## Sessions that come with an answer -/

/-- The answer is one that `ProcTraceSpaceResponse` lets through. -/
def LetThrough (env : Env) (body : String) : Prop :=
  ∃ answer : TraceAnswer, (answer.code = 0 ∨ answer.code = -10041) ∧ errorCode env body = some answer.code ∧
    answer.ReadFrom env body

/-- The trace space is asked before the picture wait, if that comes at all. -/
def tracesFirst : List ProcType → Bool
  | [] | .traceSpace :: _ => true
  | .picWait :: _ => false
  | _ :: rest => tracesFirst rest

def Session.Ready (env : Env) (session : Session) : Prop :=
  session.kafkaData.payloadType = PayloadType.trace →
    tracesFirst session.procChain = true ∨ LetThrough env session.traceSpaceResult

theorem tracesFirst_append (chain : List ProcType) (subscribed : Bool) :
    tracesFirst (chain ++ addedOutput subscribed) = tracesFirst chain := by
  induction chain with
  | nil => cases subscribed <;> rfl
  | cons procType rest inductionHypothesis =>
    cases procType with
    | traceSpace | picWait => rfl
    | _ => exact inductionHypothesis

section Ready

variable {env : Env} {session after : Session}

theorem ready_make {data : Option PmPtr} {payload : String} {kafkaData : BaseData} (ref : Nat)
    (parsed : parseMessage env data payload = .ok (some kafkaData)) :
    (Session.make env ref kafkaData).Ready env := by
  have origin := parseMessage_madeFor env data payload _ parsed kafkaData rfl
  have sameType : kafkaData.payloadType = kafkaData.dataClass.payloadType :=
    congrArg (fun origin => origin.2.1) origin
  intro isTrace
  left
  replace isTrace : kafkaData.payloadType = PayloadType.trace := isTrace
  show tracesFirst (makeProcessChain kafkaData) = true
  rw [sameType] at isTrace
  -- of the chains with a picture wait, only that of a capture is a trace session's
  cases isClass : kafkaData.dataClass with
  | capture => simp [makeProcessChain, isClass, tracesFirst]
  | business | screenshot | xiashunBusiness | xiashunCapture =>
    rw [isClass] at isTrace
    cases isTrace

theorem Session.Ready.congr (ready : session.Ready env)
    (payloadType : after.kafkaData.payloadType = session.kafkaData.payloadType)
    (chain : tracesFirst after.procChain = tracesFirst session.procChain)
    (body : after.traceSpaceResult = session.traceSpaceResult) : after.Ready env := by
  intro isTrace
  rw [chain, body]
  exact ready (payloadType.symm.trans isTrace)

theorem Session.Ready.filled (ready : session.Ready env) (same : after.unfilled = session.unfilled) :
    after.Ready env := by
  have chain : after.unfilled.procChain = session.unfilled.procChain := congrArg Session.procChain same
  have data : after.unfilled.kafkaData = session.unfilled.kafkaData := congrArg Session.kafkaData same
  have body : after.unfilled.traceSpaceResult = session.unfilled.traceSpaceResult :=
    congrArg Session.traceSpaceResult same
  exact ready.congr (congrArg BaseData.payloadType data) (congrArg tracesFirst chain) body

/-- A session that comes to the picture wait has its answer. -/
theorem Session.Ready.letThrough {rest : List ProcType} (ready : session.Ready env)
    (chain : session.procChain = .picWait :: rest) (isTrace : session.kafkaData.payloadType = PayloadType.trace) :
    LetThrough env session.traceSpaceResult := by
  cases ready isTrace with
  | inl first =>
    rw [chain] at first
    cases first
  | inr letThrough => exact letThrough

/-- A response for the trace space that is accepted is stored. -/
theorem procTraceSpaceResponse_letThrough {response : HttpResponse}
    (ran : (procTraceSpaceResponse env response).run session = .ok (true, after)) :
    LetThrough env after.traceSpaceResult := by
  obtain ⟨read, answered, rfl⟩ := procTraceSpaceResponse_accepted ran
  obtain ⟨answer, code, body, reads⟩ := parseTraceAnswer_readFrom answered
  exact ⟨answer, by simpa using code, body, reads⟩

/-- The other responses leave the answer of the trace space. -/
theorem procHandlerResponse_keepsAnswer {procType : ProcType} {response : HttpResponse} {accepted : Bool}
    (other : procType ≠ .traceSpace)
    (ran : (procHandlerResponse env procType response).run session = .ok (accepted, after)) :
    after.traceSpaceResult = session.traceSpaceResult := by
  have keeps : (procHandlerResponse env procType response).Preserves Session.traceSpaceResult := by
    cases procType with
    | traceSpace => exact absurd rfl other
    | downloadImage => exact procImageResponse_preserves_of (fun _ _ => rfl) (fun _ => rfl) response
    | generateUrl =>
      apply procGenerateUrlResponse_preserves_of
      apply getGenUrl_preserves_of
      · exact fun _ _ _ => rfl
      · exact fun _ _ => rfl
    | outputKafka | picWait | businessSave | getPlugin => exact SessionFn.Preserves.pure
  exact keeps session accepted after ran

end Ready

/-! ## Calls that keep all sessions -/

/-- No session is destroyed, and those that are handed on are ready. -/
def FlowCall.keeps (env : Env) : FlowCall → Prop
  | pushMsg session => session.Ready env
  | sendRequest session procType _ => procType.isHttp = true ∧ (procType ≠ .traceSpace → session.Ready env)
  | destroy _ => False
  | _ => True

theorem FlowCall.keeps_of_outside {env : Env} (request : FlowCall) (outside : request.isOutside) :
    request.keeps env := by
  cases request with
  | storeDone _ | makeShared _ | pushMsg _ | sendRequest _ _ _ | final _ _ | destroy _ => exact outside.elim
  | _ => trivial

/-- The answers under the condition, for the session that a thread works on. -/
def FindsNobody (env : Env) : Option Session → (request : FlowCall) → request.Answer → Prop
  | some session, .redisGet _, reply => session.noPerson env = true → findsMessage env reply.value = false
  | _, _, _ => True

section Modules

variable {env : Env} {session after : Session} {procType : ProcType} {ending : Ending}

theorem ModuleDoes.keeps {request : FlowCall} (does : ModuleDoes env session procType ending after)
    (ready : procType ≠ .traceSpace → session.Ready env) (call : ending.Call after request) :
    request.keeps env := by
  cases does with
  | fills _ _ plain same =>
    have filled : after.Ready env := by
      -- a module without a request is not the trace space
      refine (ready ?_).filled same
      rintro rfl
      cases plain
    cases call with
    | completes => trivial
    | pushes => exact filled
  | plugs plugin subscribed _ =>
    have plugged := ready (fun same => by cases same)
    cases call with
    | completes => trivial
    | pushes => exact plugged.congr rfl (tracesFirst_append _ _) rfl
  | fails | noImages | noRequest =>
    cases call
    trivial
  | asks _ request http =>
    cases call
    refine ⟨http, fun other => ?_⟩
    have kept : (session.requesting procType).kafkaData.payloadType = session.kafkaData.payloadType :=
      congrArg Bearing.payloadType (bearing_requesting session procType)
    cases procType with
    | downloadImage => exact (ready other).congr kept rfl rfl
    | _ => exact ready other

theorem tracesFirst_cons (http : procType.isHttp = true) (other : procType ≠ .traceSpace) (chain : List ProcType) :
    tracesFirst (procType :: chain) = tracesFirst chain := by
  cases procType with
  | traceSpace => exact absurd rfl other
  | downloadImage | generateUrl => rfl
  | outputKafka | picWait | businessSave | getPlugin => cases http

/-- A request that has failed is put back in front of the chain, and an answer of the trace space is stored. -/
theorem CallbackDoes.keeps {response : Option HttpResponse} {request : FlowCall} (http : procType.isHttp = true)
    (does : CallbackDoes env session procType response ending after)
    (ready : procType ≠ .traceSpace → session.Ready env) (call : ending.Call after request) :
    request.keeps env := by
  cases does with
  | retries =>
    cases call
    by_cases isTrace : procType = .traceSpace
    · -- the trace space is in front of the chain again
      subst isTrace
      exact fun _ => .inl rfl
    · have kept : (session.retreating procType).traceSpaceResult = session.traceSpaceResult := by
        unfold Session.retreating
        split <;> rfl
      have sameType : (session.retreating procType).kafkaData.payloadType = session.kafkaData.payloadType :=
        congrArg Bearing.payloadType (bearing_retreating session procType)
      exact (ready isTrace).congr sameType (tracesFirst_cons http isTrace _) kept
  | exhausted | refuses =>
    cases call
    trivial
  | accepts response _ ran =>
    cases call with
    | completes => trivial
    | pushes =>
      by_cases isTrace : procType = .traceSpace
      · -- and it is done once its answer is stored
        subst isTrace
        exact fun _ => .inr (procTraceSpaceResponse_letThrough ran)
      · apply (ready isTrace).congr _ _ (procHandlerResponse_keepsAnswer isTrace ran)
        · exact congrArg Bearing.payloadType (procHandlerResponse_preserves env procType response _ _ _ ran)
        · cases procHandlerResponse_itinerary ran with
          | inl same => exact congrArg (fun itinerary => tracesFirst itinerary.procChain) same
          | inr next => exact congrArg (fun itinerary => tracesFirst itinerary.procChain) next.2.2

/-! ### The picture wait -/

/-- For an answer with the code 0 the session of a payload is pushed. -/
theorem handleFromRedis_keeps {answer : TraceAnswer} {body : String} (reads : answer.ReadFrom env body)
    (payload : String) (pushed : answer.code = 0 ∨ makesSession env payload = false) :
    (handleFromRedis env payload body).Makes (FlowCall.keeps env) fun _ => True := by
  cases parsed : parseMessage env none payload with
  | error fault =>
    unfold handleFromRedis
    rw [parsed]
    trivial
  | ok result =>
    cases result with
    | none =>
      unfold handleFromRedis
      rw [parsed]
      trivial
    | some kafkaData =>
      have zero : answer.code = 0 := by
        cases pushed with
        | inl zero => exact zero
        | inr none => simp [makesSession, parsed] at none
      rw [handleFromRedis_eq parsed reads]
      refine ⟨trivial, fun ref => ?_⟩
      dsimp only
      rw [if_pos zero]
      have ready : (answer.giveTo (.make env ref kafkaData)).Ready env := ready_make ref parsed
      exact ⟨ready, fun _ => trivial⟩

theorem releaseWaiting_keeps {answer : TraceAnswer} {body : String} (reads : answer.ReadFrom env body)
    {waiting : List Json}
    (pushed : answer.code = 0 ∨ ∀ payload ∈ waiting.filterMap Json.string?, makesSession env payload = false) :
    (releaseWaiting env body waiting).Makes (FlowCall.keeps env) fun _ => True := by
  induction waiting with
  | nil => trivial
  | cons element rest inductionHypothesis =>
    cases element with
    | string payload =>
      have here : answer.code = 0 ∨ makesSession env payload = false :=
        pushed.imp_right fun none => none payload (by simp [Json.string?])
      have later := inductionHypothesis <|
        pushed.imp_right fun none other mem => none other (by simp [Json.string?, mem])
      exact (handleFromRedis_keeps reads payload here).bind fun _ _ => later
    | _ => exact inductionHypothesis pushed

/-- What is released is released for an answer that the new sessions accept, or makes no session. -/
theorem waitPlan_keeps {rest : List ProcType} {key payload value : String} {plan : WaitPlan}
    {result : PictureWaitResult} (ready : session.Ready env) (chain : session.procChain = .picWait :: rest)
    (nobody : session.noPerson env = true → findsMessage env value = false)
    (does : ValueDoes env { session with procChain := rest } payload session.kafkaData.payloadType value plan
      result after) :
    (plan.run env key session.traceSpaceResult).Makes (FlowCall.keeps env) fun _ => True := by
  cases does with
  | first | answers | joins => exact ⟨trivial, fun _ => trivial⟩
  | ignores | reads => trivial
  | releases _ dataJson waiting written isTrace record listed =>
    obtain ⟨answer, code, body, reads⟩ := ready.letThrough chain isTrace
    apply Prog.Makes.bind
    · apply releaseWaiting_keeps reads
      cases code with
      | inl zero => exact .inl zero
      | inr other =>
        -- the condition speaks of this code alone, and then nobody is made a session of
        right
        have noPerson : session.noPerson env = true := by simp [Session.noPerson, isTrace, body, other]
        have found : waitingPayloads env value = waiting.filterMap Json.string? := by
          simp [waitingPayloads, record.1, record.2, listed]
        have none := nobody noPerson
        rw [findsMessage, found, decide_eq_true written, Bool.true_and, List.any_eq_false] at none
        exact fun payload mem => Bool.eq_false_iff.mpr (none payload mem)
    · exact fun _ _ => ⟨trivial, fun _ => trivial⟩

/-! ### Every module -/

/-- The session that a module works on is the one that the thread was given, without the head of its chain. -/
theorem moduleBody_keeps {rest : List ProcType} (ready : session.Ready env)
    (chain : session.procChain = procType :: rest) :
    ((moduleBody env procType).run { session with procChain := rest }).MakesWhere (FindsNobody env (some session))
      (FlowCall.keeps env) fun result =>
        ModuleDoes env { session with procChain := rest } procType result.1 result.2 := by
  by_cases wait : procType = .picWait
  · subst wait
    have waits : ((getResultOfWait env).run { session with procChain := rest }).MakesWhere
        (FindsNobody env (some session)) (FlowCall.keeps env) fun _ => True := by
      apply getResultOfWait_makesWhere
      · exact ⟨trivial, trivial, trivial, trivial⟩
      · trivial
      · intro data _ reply nobody plan result after does
        exact ⟨(waitPlan_keeps ready chain nobody does).expecting fun _ keeps => keeps, trivial⟩
      · trivial
    have body : ((moduleBody env .picWait).run { session with procChain := rest }).MakesWhere
        (FindsNobody env (some session)) (FlowCall.keeps env) fun _ => True := by
      apply waits.bind
      rintro ⟨result, after⟩ -
      cases result <;> trivial
    exact body.and_makes (moduleBody_does env .picWait _)
  · apply (moduleBody_does env procType _).expecting
    intro request calls
    have quiet := ProcType.quiet_of_calls wait request calls
    exact FlowCall.keeps_of_outside request (FlowCall.isOutside_of_quiet request quiet)

/-- The next module has a ready session, unless it is to ask the trace space. -/
theorem Session.Ready.popped {rest : List ProcType} (ready : session.Ready env)
    (chain : session.procChain = procType :: rest) (other : procType ≠ .traceSpace) :
    ({ session with procChain := rest } : Session).Ready env := by
  intro isTrace
  cases ready isTrace with
  | inr letThrough => exact .inr letThrough
  | inl first =>
    rw [chain] at first
    -- a picture wait in front of the trace space is no chain of a ready session
    cases procType with
    | traceSpace => exact absurd rfl other
    | picWait => cases first
    | _ => exact .inl first

theorem sessionProcess_keeps (ready : session.Ready env) :
    ((sessionProcess env).run session).MakesWhere (FindsNobody env (some session)) (FlowCall.keeps env)
      fun _ => True := by
  cases chain : session.procChain with
  | nil =>
    rw [sessionProcess_nil chain, final_run]
    split
    · trivial
    · exact ⟨trivial, fun _ _ => trivial⟩
  | cons procType rest =>
    rw [sessionProcess_cons chain, moduleProcess_eq]
    apply (moduleBody_keeps ready chain).bind
    rintro ⟨ending, after⟩ does
    apply (ending_makes ending after).expecting
    exact fun request call => does.keeps (fun other => ready.popped chain other) call

theorem requestCallback_keeps (http : procType.isHttp = true) (response : Option HttpResponse)
    (ready : procType ≠ .traceSpace → session.Ready env) :
    ((requestCallback env procType response).run session).Makes (FlowCall.keeps env) fun _ => True := by
  rcases requestCallback_does env procType response session with ⟨fault, ran⟩ | ⟨ending, after, does, ran⟩
  · rw [ran]
    trivial
  · rw [ran]
    exact (ending_makes ending after).mono fun request call => does.keeps http ready call

theorem handle_keeps (data : PmPtr) : (handle env data).Makes (FlowCall.keeps env) fun _ => True := by
  unfold handle
  cases parsed : parseMessage env (some data) data.msg.payload with
  | error fault => trivial
  | ok result =>
    cases result with
    | none => exact ⟨trivial, fun _ => trivial⟩
    | some kafkaData => exact ⟨trivial, fun ref => ⟨ready_make ref parsed, fun _ => trivial⟩⟩

end Modules

/-! ## Every step -/

/-- All sessions of the pool are ready, or wait for the trace space, and no thread destroys one. -/
def readyNotes (env : Env) : PoolNotes where
  queued session := session.Ready env
  requested waiting := waiting.2.isHttp = true ∧ (waiting.2 ≠ .traceSpace → waiting.1.Ready env)
  works thread note := thread.program.MakesWhere (FindsNobody env note) (FlowCall.keeps env) fun _ => True

theorem readyNotes_kept (env : Env) : (readyNotes env).Kept env (FindsNobody env) where
  handler _ data := (handle_keeps data).expecting fun _ keeps => keeps
  worker _ ready := (sessionProcess_keeps ready).bind fun _ _ => trivial
  callback _ _ response waiting := by
    apply Prog.MakesWhere.bind
    · exact (requestCallback_keeps waiting.1 response waiting.2).expecting fun _ keeps => keeps
    · exact fun _ _ => trivial
  call thread note request rest held given calling works answered := by
    have works : thread.program.MakesWhere _ _ _ := works
    rw [calling] at works
    exact works.2 given answered
  pushes thread note session rest calling works := by
    have works : thread.program.MakesWhere _ _ _ := works
    rw [calling] at works
    exact works.1
  requests thread note session procType request rest calling works := by
    have works : thread.program.MakesWhere _ _ _ := works
    rw [calling] at works
    exact works.1

section Steps

variable {env : Env} {commitNum : Int} {workerNum maxTaskNum : Nat} {state next : PoolState}
variable {sessions : List (Option Session)} {label : PoolLabel}

theorem expecting_of_findsNobody (nobody : state.findsNobody env sessions label = true) :
    state.expecting (FindsNobody env) sessions label := by
  cases label with
  | process | manager | handle | get | respond => trivial
  | advance index answer =>
    intro thread note request rest found noteAt calling maxTaskNum given after executed
    cases note with
    | none => trivial
    | some session =>
      cases request with
      | redisGet key =>
        cases executed
        intro noPerson
        simp only [PoolState.findsNobody, found, Option.map_some, calling, noteAt, noPerson, Bool.true_and,
          Bool.not_eq_true'] at nobody
        exact nobody
      | _ => trivial

/-- What is dropped is what a thread destroys. -/
theorem dropped_step
    (spares : ∀ thread ∈ state.threads, ∀ session rest, thread.program ≠ .call (.destroy session) rest)
    (stepped : state.step env commitNum workerNum maxTaskNum label = some next) :
    next.dropped = state.dropped := by
  cases PoolState.step_cases stepped with
  | process | manager | handle | get | respond | returns | handled => rfl
  | calls thread request rest given result found calling executed =>
    cases PoolState.effect_of_exec executed with
    | destroy session => exact absurd calling (spares thread (List.mem_of_getElem? found) session rest)
    | pushMsg | sendRequest | final | finalMarks | makeShared | storeDone | outside => rfl

theorem not_destroy_of_noted (noted : (readyNotes env).Noted state sessions) (thread : PoolThread)
    (mem : thread ∈ state.threads) (session : Session) (rest : Unit → FlowProg Bool) :
    thread.program ≠ .call (.destroy session) rest := by
  intro calling
  obtain ⟨index, found⟩ := List.getElem?_of_mem mem
  obtain ⟨note, -, works⟩ := Threads.forall₂_getElem? noted.threads found
  have works : thread.program.MakesWhere _ _ _ := works
  rw [calling] at works
  exact works.1

end Steps

/-! ## Main result -/

/-- The pool, with the sessions that its threads work on. -/
def notedPool (env : Env) (commitNum : Int) (workerNum maxTaskNum : Nat) :
    Machine (PoolState × List (Option Session)) PoolLabel :=
  (poolMachine env commitNum workerNum maxTaskNum).observed working []

theorem noneDropped {env : Env} {commitNum : Int} {workerNum maxTaskNum : Nat} {labels : List PoolLabel}
    {state : PoolState} {sessions : List (Option Session)}
    (nobody : (notedPool env commitNum workerNum maxTaskNum).Meets
      (fun before label => before.1.findsNobody env before.2 label = true)
      (notedPool env commitNum workerNum maxTaskNum).start labels)
    (ran : (notedPool env commitNum workerNum maxTaskNum).run
      (notedPool env commitNum workerNum maxTaskNum).start labels = some (state, sessions)) :
    (readyNotes env).Noted state sessions ∧ state.dropped = [] := by
  refine @Machine.run_invariant_of_meets _ _ _ _ (fun both =>
    (readyNotes env).Noted both.1 both.2 ∧ both.1.dropped = []) ?_ _ _ _ ⟨noted_start, rfl⟩ nobody ran
  rintro ⟨before, notes⟩ label after ⟨noted, none⟩ nobody moved
  obtain ⟨next, stepped, rfl⟩ := Option.map_eq_some_iff.mp moved
  have stepped : before.step env commitNum workerNum maxTaskNum label = some next := stepped
  refine ⟨noted.step (readyNotes_kept env) (expecting_of_findsNobody nobody) stepped, ?_⟩
  exact (dropped_step (not_destroy_of_noted noted) stepped).trans none

/-- In any run of the pool in which no answer with the code -10041 finds a message that waits for it: `handle` is
    called once for each message, every session is in exactly one place until it has executed `Final`, which
    takes effect once, and the node of a message is done when the message was rejected or its session has executed
    `Final`.  No node state goes back. -/
theorem sessions_held (env : Env) (commitNum : Int) (workerNum maxTaskNum : Nat) (labels : List PoolLabel)
    (state : PoolState)
    (ran : (poolMachine env commitNum workerNum maxTaskNum).run
      (poolMachine env commitNum workerNum maxTaskNum).start labels = some state)
    (nobody : (notedPool env commitNum workerNum maxTaskNum).Meets
      (fun before label => before.1.findsNobody env before.2 label = true)
      (notedPool env commitNum workerNum maxTaskNum).start labels) :
    SessionsKept state ∧ (∀ entry ∈ state.made, state.places.count entry + state.finals.count entry = 1) ∧
      ∀ label next, (poolMachine env commitNum workerNum maxTaskNum).step state label = some next →
        PoolState.Forward state next := by
  obtain ⟨kept, forward⟩ := sessions_kept env commitNum workerNum maxTaskNum state ⟨labels, ran⟩
  have none := (noneDropped nobody (Machine.run_observed ran)).2
  refine ⟨kept, fun entry made => ?_, forward⟩
  have one := kept.onePlace entry made
  rw [none] at one
  exact one

/-! ## A session that is released -/

def releaseEnv : Env where
  text := tableText ((personAnswer, .object [("error_code", .int 0),
    ("result", .object [("person_result", .object []), ("track_result", .object [])])]) :: poolTable)
  conf := poolEnv.conf
  uninit := poolEnv.uninit

/-- The session of the trace message runs up to the end of its picture wait, with an answer of code 0. -/
def traceReleases : List PoolLabel :=
  deliver traceMessage 0 0 ++ .get :: poolCalls 0 4 ++
    .get :: poolCalls 0 2 ++ .respond 0 (some ⟨"200 OK", "x"⟩) :: poolCalls 0 2 ++
    .get :: poolCalls 0 2 ++ .respond 0 (some ⟨"200 OK", personAnswer⟩) :: poolCalls 0 2 ++
    .get :: poolCalls 0 9

set_option maxRecDepth 4000 in
/-- The session that was made of the waiting message is in the queue, before that of the trace message. -/
theorem sessions_held_traceReleases :
    ∃ state, (poolMachine releaseEnv 1 1 10).run (poolMachine releaseEnv 1 1 10).start traceReleases =
        some state ∧ state.queue.map Session.ref = [1, 0] ∧
      (∀ entry ∈ state.made, state.places.count entry + state.finals.count entry = 1) :=
  ⟨_, rfl, rfl, (sessions_held releaseEnv 1 1 10 traceReleases _ rfl (by decide)).2.1⟩

end XBusiness
