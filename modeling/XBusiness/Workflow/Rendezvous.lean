import XBusiness.Lib.Handler
import XBusiness.Workflow.PictureLock
import XBusiness.Workflow.PoolSafety
import XBusiness.Workflow.Reparse

/-! # The rendezvous at a picture key

Business captures and trace answers of one picture meet in the record under its key.  The
sessions run `getResultOfWait` in the order in which the lock lets them in, against Redis
commands that succeed.

* `Meeting` — what the record is for: payloads that wait, until a trace answer comes.
* `getResultOfWait_meets` — a session does to the record what its visit does to the meeting.
* `rendezvous` — after any sequence of sessions: who waited, who was given which answer,
  what is stored and which payloads went to `handleFromRedis`, with which answer.
-/

namespace XBusiness

open Interaction
open Interaction.Prog (handled handled_bind handled_answered handled_left)

/-! ## What the record is for -/

/-- What a session brings to the key. -/
inductive Visit where
  | business (payload : String)
  | trace (body : String)
  deriving DecidableEq, Repr

namespace Visit

def payload? : Visit → Option String
  | business payload => some payload
  | trace _ => none

def body? : Visit → Option String
  | business _ => none
  | trace body => some body

def isBusiness : Visit → Bool
  | business _ => true
  | trace _ => false

end Visit

/-- The state of a key: the payloads that wait, or the answer that came first. -/
inductive Meeting where
  | waiting (payloads : List String)
  | traced (body : String)
  deriving DecidableEq, Repr

namespace Meeting

def visit : Meeting → Visit → Meeting
  | waiting payloads, .business payload => waiting (payloads ++ [payload])
  | waiting _, .trace body => traced body
  | traced body, _ => traced body

/-- The payloads that the visit releases, each with the answer that it is given. -/
def released : Meeting → Visit → List (String × String)
  | waiting payloads, .trace body => payloads.map fun payload => (payload, body)
  | _, _ => []

/-- The answer that came first. -/
def first : Meeting → Option String
  | waiting _ => none
  | traced body => some body

/-- The state after the visits, and what all of them release. -/
def visitAll (meeting : Meeting) (visits : List Visit) : Meeting := visits.foldl visit meeting

def releasedAll : Meeting → List Visit → List (String × String)
  | _, [] => []
  | meeting, head :: rest => meeting.released head ++ (meeting.visit head).releasedAll rest

end Meeting

/-- The payloads among the visits, in their order. -/
def payloadsOf (visits : List Visit) : List String := visits.filterMap Visit.payload?

/-- The answer of the first trace session. -/
def firstBody (visits : List Visit) : Option String := visits.findSome? Visit.body?

/-- The payloads that came before the first trace session. -/
def waitedIn (visits : List Visit) : List String := payloadsOf (visits.takeWhile Visit.isBusiness)

namespace Meeting

theorem visitAll_traced (body : String) (visits : List Visit) :
    (traced body).visitAll visits = traced body := by
  induction visits with
  | nil => rfl
  | cons head rest inductionHypothesis => cases head <;> exact inductionHypothesis

theorem releasedAll_traced (body : String) (visits : List Visit) :
    (traced body).releasedAll visits = [] := by
  induction visits with
  | nil => rfl
  | cons head rest inductionHypothesis => cases head <;> exact inductionHypothesis

/-- The state in terms of the history: everything waits until the first answer comes. -/
theorem visitAll_waiting (payloads : List String) (visits : List Visit) :
    (waiting payloads).visitAll visits =
      match firstBody visits with
      | none => waiting (payloads ++ payloadsOf visits)
      | some body => traced body := by
  induction visits generalizing payloads with
  | nil => simp [visitAll, firstBody, payloadsOf]
  | cons head rest inductionHypothesis =>
    cases head with
    | business payload =>
      have later := inductionHypothesis (payloads ++ [payload])
      rw [List.append_assoc] at later
      exact later
    | trace body => exact visitAll_traced body rest

/-- What was released in terms of the history: what waited, with the first answer. -/
theorem releasedAll_waiting (payloads : List String) (visits : List Visit) :
    (waiting payloads).releasedAll visits =
      match firstBody visits with
      | none => []
      | some body => (payloads ++ waitedIn visits).map fun payload => (payload, body) := by
  induction visits generalizing payloads with
  | nil => rfl
  | cons head rest inductionHypothesis =>
    cases head with
    | business payload =>
      have later := inductionHypothesis (payloads ++ [payload])
      rw [List.append_assoc] at later
      exact later
    | trace body =>
      show _ ++ (traced body).releasedAll rest = (payloads ++ []).map _
      rw [releasedAll_traced, List.append_nil, List.append_nil]
      rfl

end Meeting

/-! ## Redis, as far as the key goes -/

/-- The record under the key, and how long each attempt at the lock still takes that finds it
    held by another session. -/
structure KeyStore where
  record : Option String
  refusals : List Nat
  now : Int

/-- The commands on the key and its lock, which all succeed, and the clock. -/
def KeyStore.answer (key : String) (store : KeyStore) :
    (request : FlowCall) → Option (request.Answer × KeyStore)
  | .redisGet name =>
    if name = key then
      match store.record with
      | some text => some (.string text, store)
      | none => some (.null, store)
    else none
  | .redisSet name data _ nx =>
    if nx then
      if name = lockKeyOf key then
        match store.refusals with
        | [] => some (.string "OK", store)
        | delay :: rest => some (.null, { store with refusals := rest, now := store.now + delay })
      else none
    else if name = key then some (.string "OK", { store with record := some data })
    else none
  | .redisUnlock name _ => if name = lockKeyOf key then some (.integer 1, store) else none
  | .sleepFor milliseconds => some ((), { store with now := store.now + milliseconds })
  | .now => some (store.now, store)
  | _ => none

/-- The time that the refused attempts take, each with the sleep after it. -/
def refusedTime (refusals : List Nat) : Nat := (refusals.map fun delay => delay + lockCheckPeriod).sum

section Store

variable {key : String}

/-- A lock that is let go of in time is got. -/
theorem redLockLoop_granted (key data : String) (expireTimeout begin : Int) (attempts : Nat) (store : KeyStore)
    (inTime : store.now + refusedTime store.refusals < begin + redlockAcquireTimeout)
    (enough : store.refusals.length < attempts) :
    ∃ now, (redLockLoop (lockKeyOf key) data redlockAcquireTimeout expireTimeout begin attempts).handled
      (KeyStore.answer key) store = .ret (true, ⟨store.record, [], now⟩) := by
  obtain ⟨record, refusals, now⟩ := store
  induction refusals generalizing attempts now with
  | nil =>
    cases attempts with
    | zero => cases enough
    | succ attempts =>
      rw [redLockLoop_succ]
      exact ⟨now, by simp [handled, KeyStore.answer]⟩
  | cons delay rest inductionHypothesis =>
    cases attempts with
    | zero => cases enough
    | succ attempts =>
      simp only [refusedTime, List.map_cons, List.sum_cons] at inTime
      have later := inductionHypothesis attempts (now + delay + lockCheckPeriod)
        (by simp only [refusedTime]; omega) (Nat.lt_of_succ_lt_succ enough)
      have elapsed : now + delay + lockCheckPeriod - begin < redlockAcquireTimeout := by omega
      rw [redLockLoop_succ]
      simpa [handled, KeyStore.answer, elapsed] using later

theorem length_le_refusedTime (refusals : List Nat) : lockCheckPeriod * refusals.length ≤ refusedTime refusals := by
  induction refusals with
  | nil => exact Nat.le_refl 0
  | cons delay rest inductionHypothesis =>
    simp only [refusedTime, List.map_cons, List.sum_cons, List.length_cons] at inductionHypothesis ⊢
    rw [Nat.mul_succ]
    omega

theorem redLock_granted (key data : String) (store : KeyStore)
    (inTime : refusedTime store.refusals < redlockAcquireTimeout) :
    ∃ now, (redLock (lockKeyOf key) data redlockAcquireTimeout redlockExpireTimeout).handled
      (KeyStore.answer key) store = .ret (true, ⟨store.record, [], now⟩) := by
  have enough := length_le_refusedTime store.refusals
  simp only [redlockAcquireTimeout, lockCheckPeriod] at enough inTime
  have granted := redLockLoop_granted key data redlockExpireTimeout store.now
    ((redlockAcquireTimeout.toNat + lockCheckPeriod - 1) / lockCheckPeriod) store
    (by simp only [redlockAcquireTimeout]; omega)
    (by simp only [redlockAcquireTimeout, lockCheckPeriod]; omega)
  simpa [redLock, handled, KeyStore.answer, redlockAcquireTimeout] using granted

theorem redUnlock_answered (data : String) (store : KeyStore) :
    (redUnlock (lockKeyOf key) data).handled (KeyStore.answer key) store = .ret (true, store) := by
  simp [redUnlock, handled, KeyStore.answer]

theorem getValueByKey_answered (store : KeyStore) :
    (getValueByKey key).handled (KeyStore.answer key) store =
      .ret ((decide (store.record.getD "" ≠ ""), store.record.getD ""), store) := by
  cases stored : store.record <;> simp [getValueByKey, handled, KeyStore.answer, stored]

theorem storeRecord_answered (env : Env) (record : Json) (session : Session) (store : KeyStore) :
    ((storeRecord env key record).run session).handled (KeyStore.answer key) store =
      .ret (((), session), { store with record := some (env.text.toStyledString record) }) := by
  have answered : KeyStore.answer key store
      (.redisSet key (env.text.toStyledString record) pictureWaitCacheTimeout false) =
        some (.string "OK", { store with record := some (env.text.toStyledString record) }) := by
    simp [KeyStore.answer]
  exact handled_answered answered

end Store

/-! ## The record of a meeting -/

namespace Meeting

/-- What is stored; nothing before the first payload. -/
def record : Meeting → Option Json
  | waiting [] => none
  | waiting payloads => some (businessRecord PayloadType.business payloads)
  | traced body => some (traceRecord PayloadType.trace body)

def stored (env : Env) (meeting : Meeting) : Option String :=
  meeting.record.map env.text.toStyledString

end Meeting

theorem Meeting.stored_append (env : Env) (payloads : List String) (payload : String) :
    (waiting (payloads ++ [payload])).stored env =
      some (env.text.toStyledString (businessRecord PayloadType.business (payloads ++ [payload]))) := by
  cases payloads <;> rfl

/-- The text layer gives the record back, and no record is the empty text. -/
structure ReadsBack (env : Env) (record : Json) : Prop where
  written : env.text.toStyledString record ≠ ""
  read : env.text.reader (env.text.toStyledString record) = .ok (some record)

theorem businessRecord_eq (ptype : Int) (payloads : List String) :
    businessRecord ptype payloads =
      .object [("message_list", .array (payloads.map .string)), ("ptype", .int ptype)] := by
  simp only [businessRecord, Json.set, Json.insertMember]
  rfl

theorem traceRecord_eq (ptype : Int) (body : String) :
    traceRecord ptype body = .object [("ptype", .int ptype), ("trace_result", .string body)] := by
  simp only [traceRecord, Json.set, Json.insertMember]
  rfl

theorem businessRecord_ptype (payloads : List String) :
    (businessRecord PayloadType.business payloads).member? "ptype" Json.int? =
      .ok (some PayloadType.business) := by
  rw [businessRecord_eq]
  rfl

theorem traceRecord_ptype (body : String) :
    (traceRecord PayloadType.trace body).member? "ptype" Json.int? = .ok (some PayloadType.trace) := by
  rw [traceRecord_eq]
  rfl

theorem traceRecord_body (ptype : Int) (body : String) :
    (traceRecord ptype body).member? "trace_result" Json.string? = .ok (some body) := by
  rw [traceRecord_eq]
  rfl

theorem businessRecord_list (ptype : Int) (payloads : List String) :
    messageList (businessRecord ptype payloads) = .ok (payloads.map .string) := by
  rw [businessRecord_eq]
  rfl

/-- `append` to the list of a record. -/
theorem businessRecord_append (ptype : Int) (payloads : List String) (payload : String) :
    (do (← (businessRecord ptype payloads).member "message_list").append (.string payload)) =
      .ok (.array ((payloads ++ [payload]).map .string)) := by
  rw [businessRecord_eq, List.map_append]
  rfl

theorem businessRecord_set (ptype : Int) (payloads later : List String) :
    (businessRecord ptype payloads).set "message_list" (.array (later.map .string)) =
      businessRecord ptype later := by
  rw [businessRecord_eq, businessRecord_eq]
  rfl

/-! ## The payloads that are released -/

/-- `handleFromRedis` for one payload after another. -/
def dispatchAll (env : Env) : List (String × String) → FlowProg Unit
  | [] => return ()
  | (payload, body) :: rest => do
    let _ ← handleFromRedis env payload body
    dispatchAll env rest

/-- A payload that parses becomes a session with the results of the answer, which is pushed when
    the answer has the error code 0. -/
theorem handleFromRedis_eq {env : Env} {payload body : String} {parsed : BaseData} {answer : TraceAnswer}
    (parses : parseMessage env none payload = .ok (some parsed)) (reads : answer.ReadFrom env body) :
    handleFromRedis env payload body = .call (.makeShared parsed) fun ref =>
      if answer.code = 0 then
        .call (.pushMsg (answer.giveTo (.make env ref parsed))) fun _ => .ret true
      else .call (.destroy (.make env ref parsed)) fun _ => .ret false := by
  have ran (ref : Nat) : (getPersonResult env body).run (.make env ref parsed) = _ :=
    reads (· = 0) (.make env ref parsed)
  unfold handleFromRedis
  rw [parses]
  show (Interaction.Prog.call _ fun ref => raiseFault _ >>= fun _ => _) = _
  simp only [ran, decide_eq_true_eq]
  congr 1
  funext ref
  by_cases accepted : answer.code = 0
  · rw [if_pos accepted, if_pos accepted]
    rfl
  · rw [if_neg accepted, if_neg accepted]
    rfl

theorem handleFromRedis_faultless {env : Env} {payload body : String} {parsed : BaseData}
    {answer : TraceAnswer} (parses : parseMessage env none payload = .ok (some parsed))
    (reads : answer.ReadFrom env body) : (handleFromRedis env payload body).Faultless := by
  rw [handleFromRedis_eq parses reads]
  intro ref
  split <;> exact fun _ => trivial

theorem dispatchAll_append (env : Env) (first second : List (String × String)) :
    dispatchAll env (first ++ second) = dispatchAll env first >>= fun _ => dispatchAll env second := by
  induction first with
  | nil => rfl
  | cons head rest inductionHypothesis =>
    simp only [List.cons_append, dispatchAll, inductionHypothesis, bind_assoc]

theorem releaseWaiting_eq (env : Env) (body : String) (payloads : List String) :
    releaseWaiting env body (payloads.map .string) =
      dispatchAll env (payloads.map fun payload => (payload, body)) := by
  induction payloads with
  | nil => rfl
  | cons head rest inductionHypothesis =>
    simp only [List.map_cons, releaseWaiting, dispatchAll, inductionHypothesis]

theorem KeyStore.answer_sessionCall (key : String) (store : KeyStore) (request : FlowCall)
    (session : request.isSessionCall) : store.answer key request = none := by
  cases request <;> first | rfl | cases session

theorem dispatchAll_makes (env : Env) (entries : List (String × String)) :
    (dispatchAll env entries).Makes FlowCall.isSessionCall fun _ => True := by
  induction entries with
  | nil => trivial
  | cons entry rest inductionHypothesis =>
    exact (handleFromRedis_makes env entry.1 entry.2).bind fun _ _ => inductionHypothesis

theorem dispatchAll_handled (env : Env) (key : String) (entries : List (String × String))
    (store : KeyStore) :
    (dispatchAll env entries).handled (KeyStore.answer key) store =
      dispatchAll env entries >>= fun _ => .ret ((), store) := by
  exact Prog.handled_of_unanswered (dispatchAll_makes env entries) store (KeyStore.answer_sessionCall key store)

/-! ## One session -/

/-- The session after `getPersonResult` on the body. -/
def givenBody (env : Env) (body : String) (session : Session) : Session :=
  match (getPersonResult env body).run session with
  | .ok (_, after) => after
  | .error _ => session

/-- What `getResultOfWait` returns to a visitor and what becomes of its session, by the answer
    of the first trace session before it. -/
def outcomeAfter (env : Env) (first : Option String) (visit : Visit) (session : Session) :
    PictureWaitResult × Session :=
  match visit, first with
  | .business _, none => (.wait, session)
  | .business _, some body => (.pass, givenBody env body session)
  | .trace _, _ => (.pass, session)

/-- The answer of a traced meeting can be read by every session. -/
def Meeting.Readable (env : Env) (meeting : Meeting) : Prop :=
  ∀ body, meeting = .traced body → ∃ answer : TraceAnswer, answer.ReadFrom env body

theorem getPersonResult_run {env : Env} {body : String} {answer : TraceAnswer}
    (reads : answer.ReadFrom env body) (session : Session) :
    ∃ accepted, (getPersonResult env body).run session = .ok (accepted, givenBody env body session) := by
  have ran := reads (· = 0) session
  unfold givenBody
  rw [show (getPersonResult env body).run session = _ from ran]
  split <;> exact ⟨_, rfl⟩

theorem business_ne_trace : PayloadType.business ≠ PayloadType.trace := by decide

section Critical

variable {env : Env} {key : String} {now : Int}

theorem handleWithoutKey_business (payload : String) (session : Session) (record : Option String) :
    ((handleWithoutKey env key payload PayloadType.business).run session).handled (KeyStore.answer key)
        ⟨record, [], now⟩ =
      .ret ((.wait, session), ⟨(Meeting.waiting [payload]).stored env, [], now⟩) := by
  show (((storeRecord env key _ >>= fun _ => pure PictureWaitResult.wait).run session).handled _ _) = _
  rw [StateT.run_bind, handled_bind, storeRecord_answered]
  rfl

theorem handleWithoutKey_trace (payload : String) (session : Session) (record : Option String) :
    ((handleWithoutKey env key payload PayloadType.trace).run session).handled (KeyStore.answer key)
        ⟨record, [], now⟩ =
      .ret ((.pass, session), ⟨(Meeting.traced session.traceSpaceResult).stored env, [], now⟩) := by
  show (((storeRecord env key _ >>= fun _ => pure PictureWaitResult.pass).run session).handled _ _) = _
  rw [StateT.run_bind, handled_bind, storeRecord_answered]
  rfl

/-- A business capture joins those that wait. -/
theorem handleWithKey_waiting_business {payloads : List String} (payload : String) (session : Session)
    (record : Option String) (back : ReadsBack env (businessRecord PayloadType.business payloads)) :
    ((handleWithKey env key (env.text.toStyledString (businessRecord PayloadType.business payloads))
        payload PayloadType.business).run session).handled (KeyStore.answer key) ⟨record, [], now⟩ =
      .ret ((.wait, session), ⟨(Meeting.waiting (payloads ++ [payload])).stored env, [], now⟩) := by
  simp only [handleWithKey, back.read, Flow.ofExcept_ok, pure_bind, businessRecord_ptype,
    businessRecord_append, businessRecord_set, business_ne_trace, if_true, if_false]
  rw [StateT.run_bind, handled_bind, storeRecord_answered, Meeting.stored_append]
  rfl

/-- The first trace answer releases those that wait and takes their place in the record. -/
theorem handleWithKey_waiting_trace {payloads : List String} (payload : String) (session : Session)
    (record : Option String) (back : ReadsBack env (businessRecord PayloadType.business payloads)) :
    ((handleWithKey env key (env.text.toStyledString (businessRecord PayloadType.business payloads))
        payload PayloadType.trace).run session).handled (KeyStore.answer key) ⟨record, [], now⟩ =
      dispatchAll env (payloads.map fun waiting => (waiting, session.traceSpaceResult)) >>= fun _ =>
        .ret ((.pass, session), ⟨(Meeting.traced session.traceSpaceResult).stored env, [], now⟩) := by
  simp only [handleWithKey, back.read, Flow.ofExcept_ok, pure_bind, businessRecord_ptype,
    businessRecord_list, business_ne_trace, business_ne_trace.symm, if_true, if_false]
  show ((Flow.ofProg _ >>= fun _ => storeRecord env key _ >>= fun _ => _).run session).handled _ _ = _
  rw [releaseWaiting_eq, run_ofProg_bind, handled_bind, dispatchAll_handled, bind_assoc]
  congr 1
  funext _
  show ((storeRecord env key _ >>= fun _ => _).run session).handled _ _ = _
  rw [StateT.run_bind, handled_bind, storeRecord_answered]
  rfl

/-- A business capture that comes later is given the answer. -/
theorem handleWithKey_traced_business {body : String} (payload : String) (session : Session)
    (back : ReadsBack env (traceRecord PayloadType.trace body))
    {answer : TraceAnswer} (reads : answer.ReadFrom env body) (store : KeyStore) :
    ((handleWithKey env key (env.text.toStyledString (traceRecord PayloadType.trace body))
        payload PayloadType.business).run session).handled (KeyStore.answer key) store =
      .ret ((.pass, givenBody env body session), store) := by
  obtain ⟨accepted, ran⟩ := getPersonResult_run reads session
  simp only [handleWithKey, back.read, Flow.ofExcept_ok, pure_bind, traceRecord_ptype,
    traceRecord_body, if_true]
  show handled _ (Flow.ofSessionFn (getPersonResult env body) session >>= fun _ => _) _ = _
  have given : Flow.ofSessionFn (getPersonResult env body) session =
      .ret (accepted, givenBody env body session) := by
    unfold Flow.ofSessionFn
    rw [ran]
  rw [given]
  rfl

/-- A trace answer that comes later changes nothing. -/
theorem handleWithKey_traced_trace {body : String} (payload : String) (session : Session)
    (back : ReadsBack env (traceRecord PayloadType.trace body)) (store : KeyStore) :
    ((handleWithKey env key (env.text.toStyledString (traceRecord PayloadType.trace body))
        payload PayloadType.trace).run session).handled (KeyStore.answer key) store =
      .ret ((.pass, session), store) := by
  simp only [handleWithKey, back.read, Flow.ofExcept_ok, pure_bind, traceRecord_ptype,
    business_ne_trace.symm, if_true, if_false]
  rfl

theorem waitCriticalSection_empty (payload : String) (ptype : Int) (session : Session) :
    ((waitCriticalSection env key payload ptype).run session).handled (KeyStore.answer key)
        ⟨none, [], now⟩ =
      ((handleWithoutKey env key payload ptype).run session).handled (KeyStore.answer key)
        ⟨none, [], now⟩ := by
  show ((Flow.ofProg (getValueByKey key) >>= fun _ => _).run session).handled _ _ = _
  rw [run_ofProg_bind, handled_bind, getValueByKey_answered]
  rfl

theorem waitCriticalSection_found {text : String} (written : text ≠ "") (payload : String) (ptype : Int)
    (session : Session) :
    ((waitCriticalSection env key payload ptype).run session).handled (KeyStore.answer key)
        ⟨some text, [], now⟩ =
      ((handleWithKey env key text payload ptype).run session).handled (KeyStore.answer key)
        ⟨some text, [], now⟩ := by
  show ((Flow.ofProg (getValueByKey key) >>= fun _ => _).run session).handled _ _ = _
  rw [run_ofProg_bind, handled_bind, getValueByKey_answered]
  show handled _ (StateT.run (if _ then _ else _) session) _ = _
  rw [if_neg (by simp [written])]
  rfl

/-- What the session brings, by the type of its message. -/
inductive Brings (payload : String) (session : Session) : Int → Visit → Prop where
  | business : Brings payload session PayloadType.business (.business payload)
  | trace : Brings payload session PayloadType.trace (.trace session.traceSpaceResult)

variable (key now) in
/-- The critical section does to the record what the visit does to the meeting. -/
theorem waitCriticalSection_meets {payload : String} {ptype : Int} {session : Session} {visit : Visit}
    (meeting : Meeting) (brings : Brings payload session ptype visit)
    (back : ∀ record, meeting.record = some record → ReadsBack env record)
    (readable : meeting.Readable env) :
    ((waitCriticalSection env key payload ptype).run session).handled (KeyStore.answer key)
        ⟨meeting.stored env, [], now⟩ =
      dispatchAll env (meeting.released visit) >>= fun _ =>
        .ret (outcomeAfter env meeting.first visit session, ⟨(meeting.visit visit).stored env, [], now⟩) := by
  cases meeting with
  | waiting payloads =>
    cases payloads with
    | nil =>
      refine (waitCriticalSection_empty payload ptype session).trans ?_
      cases brings with
      | business => exact handleWithoutKey_business payload session none
      | trace => exact handleWithoutKey_trace payload session none
    | cons first rest =>
      have kept := back _ rfl
      refine (waitCriticalSection_found kept.written payload ptype session).trans ?_
      cases brings with
      | business => exact handleWithKey_waiting_business payload session _ kept
      | trace => exact handleWithKey_waiting_trace payload session _ kept
  | traced body =>
    have kept := back _ rfl
    refine (waitCriticalSection_found kept.written payload ptype session).trans ?_
    cases brings with
    | business =>
      obtain ⟨answer, reads⟩ := readable body rfl
      exact handleWithKey_traced_business payload session kept reads _
    | trace => exact handleWithKey_traced_trace payload session kept _

end Critical

/-- What the session hands over at the key: the payload of its message, or its trace answer. -/
def Session.visit (session : Session) : Visit :=
  match session.kafkaData.data with
  | some data =>
    if session.kafkaData.payloadType = PayloadType.business then .business data.msg.payload
    else .trace session.traceSpaceResult
  | none => .trace session.traceSpaceResult

theorem Session.visit_business {session : Session} {data : PmPtr}
    (node : session.kafkaData.data = some data)
    (kind : session.kafkaData.payloadType = PayloadType.business) :
    session.visit = .business data.msg.payload := by
  unfold Session.visit
  rw [node]
  exact if_pos kind

theorem Session.visit_trace {session : Session} {data : PmPtr}
    (node : session.kafkaData.data = some data)
    (kind : session.kafkaData.payloadType = PayloadType.trace) :
    session.visit = .trace session.traceSpaceResult := by
  unfold Session.visit
  rw [node]
  exact if_neg fun same => business_ne_trace (same.symm.trans kind)

/-- A business capture that `handle` made from its payload, or a trace session with the answer
    that `ProcTraceSpaceResponse` accepted. -/
inductive CanVisit (env : Env) (session : Session) : Prop where
  | business (data : PmPtr) (parsed : BaseData) (node : session.kafkaData.data = some data)
      (kind : session.kafkaData.payloadType = PayloadType.business)
      (parses : parseMessage env (some data) data.msg.payload = .ok (some parsed))
  | trace (data : PmPtr) (response : HttpResponse) (before after : Session)
      (node : session.kafkaData.data = some data)
      (kind : session.kafkaData.payloadType = PayloadType.trace)
      (accepted : (procTraceSpaceResponse env response).run before = .ok (true, after))
      (body : session.traceSpaceResult = response.content)

theorem procTraceSpaceResponse_readFrom {env : Env} {response : HttpResponse} {before after : Session}
    (accepted : (procTraceSpaceResponse env response).run before = .ok (true, after)) :
    ∃ answer : TraceAnswer, errorCode env response.content = some answer.code ∧
      answer.ReadFrom env response.content := by
  unfold procTraceSpaceResponse at accepted
  by_cases found : containsText "200" response.statusCode = true
  · rw [if_pos found, StateT.run_bind] at accepted
    cases ran : (parseTraceAnswer env (fun code => code = 0 || code = -10041) response.content).run before with
    | error fault => rw [ran] at accepted; cases accepted
    | ok result =>
      obtain ⟨read, middle⟩ := result
      rw [ran] at accepted
      cases read with
      | false => cases accepted
      | true =>
        obtain ⟨answer, -, found⟩ := parseTraceAnswer_readFrom ran
        exact ⟨answer, found⟩
  · rw [if_neg found] at accepted
    cases accepted

theorem CanVisit.readable {env : Env} {session : Session} (canVisit : CanVisit env session)
    {body : String} (visit : session.visit = .trace body) :
    ∃ answer : TraceAnswer, errorCode env body = some answer.code ∧ answer.ReadFrom env body := by
  cases canVisit with
  | business data _ node kind =>
    rw [Session.visit_business node kind] at visit
    cases visit
  | trace data response _ _ node kind accepted answered =>
    rw [Session.visit_trace node kind] at visit
    cases visit
    rw [answered]
    exact procTraceSpaceResponse_readFrom accepted

theorem CanVisit.parses {env : Env} {session : Session} (canVisit : CanVisit env session)
    {payload : String} (visit : session.visit = .business payload) :
    ∃ parsed, parseMessage env none payload = .ok (some parsed) := by
  cases canVisit with
  | business data parsed node kind parses =>
    rw [Session.visit_business node kind] at visit
    cases visit
    refine ⟨parsed.fromRedis, ?_⟩
    rw [parseMessage_fromRedis env (some data), parses]
    rfl
  | trace data response _ _ node kind =>
    rw [Session.visit_trace node kind] at visit
    cases visit

theorem CanVisit.brings {env : Env} {session : Session} (canVisit : CanVisit env session) :
    ∃ data, session.kafkaData.data = some data ∧
      Brings data.msg.payload session session.kafkaData.payloadType session.visit := by
  cases canVisit with
  | business data _ node kind =>
    refine ⟨data, node, ?_⟩
    rw [Session.visit_business node kind, kind]
    exact .business
  | trace data _ _ _ node kind =>
    refine ⟨data, node, ?_⟩
    rw [Session.visit_trace node kind, kind]
    exact .trace

/-- A session does to the record what its visit does to the meeting. -/
theorem getResultOfWait_meets {env : Env} {key : String} (nonempty : key ≠ "") {session : Session}
    (keyed : session.kafkaData.getPicWaitKey = key) (canVisit : CanVisit env session)
    (start : Int) {refusals : List Nat} (inTime : refusedTime refusals < redlockAcquireTimeout)
    (meeting : Meeting) (back : ∀ record, meeting.record = some record → ReadsBack env record)
    (readable : meeting.Readable env) :
    ∃ now, ((getResultOfWait env).run session).handled (KeyStore.answer key)
        ⟨meeting.stored env, refusals, start⟩ =
      dispatchAll env (meeting.released session.visit) >>= fun _ =>
        .ret (outcomeAfter env meeting.first session.visit session,
          ⟨(meeting.visit session.visit).stored env, [], now⟩) := by
  obtain ⟨data, node, brings⟩ := canVisit.brings
  obtain ⟨now, granted⟩ := redLock_granted key session.uid
    ⟨meeting.stored env, refusals, start⟩ inTime
  have met := waitCriticalSection_meets key now meeting brings back readable
  refine ⟨now, ?_⟩
  unfold getResultOfWait
  rw [StateT.run_bind, StateT.run_get, pure_bind]
  dsimp only
  rw [node]
  dsimp only
  rw [keyed, if_neg nonempty]
  -- the lock, the critical section, the release of the lock
  have lockKey : "lock_" ++ key = lockKeyOf key := rfl
  rw [lockKey, run_ofProg_bind, handled_bind, granted]
  show handled _ (StateT.run (waitCriticalSection env key _ _ >>= fun _ => _) session) _ = _
  rw [StateT.run_bind, handled_bind, met, bind_assoc]
  congr 1
  funext _
  show handled _ (StateT.run (Flow.ofProg _ >>= fun _ => pure _) _) _ = _
  rw [run_ofProg_bind, handled_bind, redUnlock_answered]
  rfl

/-! ## Any sequence of sessions -/

/-- A session that runs `getResultOfWait`: when it starts, and how long the attempts at the lock
    take that find it held. -/
structure Arrival where
  session : Session
  start : Int
  refusals : List Nat

def Arrival.visit (arrival : Arrival) : Visit := arrival.session.visit

/-- The session visits the key, and whoever holds the lock lets go of it in time. -/
structure Arrives (env : Env) (key : String) (arrival : Arrival) : Prop where
  keyed : arrival.session.kafkaData.getPicWaitKey = key
  canVisit : CanVisit env arrival.session
  inTime : refusedTime arrival.refusals < redlockAcquireTimeout

/-- The sessions one after the other, as the lock lets them in; the record is passed on. What
    they leave to the rest of the system are the calls of `handleFromRedis`. -/
def runAll (env : Env) (key : String) : List Arrival → Option String →
    FlowProg (List (PictureWaitResult × Session) × Option String)
  | [], record => return ([], record)
  | arrival :: rest, record => do
    let (outcome, store) ← ((getResultOfWait env).run arrival.session).handled (KeyStore.answer key)
      ⟨record, arrival.refusals, arrival.start⟩
    let (outcomes, record) ← runAll env key rest store.record
    return (outcome :: outcomes, record)

def visitsOf (arrivals : List Arrival) : List Visit := arrivals.map Arrival.visit

/-- What the sessions return, each by the answer that was there when it came. -/
def Meeting.outcomes (env : Env) : Meeting → List Arrival → List (PictureWaitResult × Session)
  | _, [] => []
  | meeting, arrival :: rest =>
    outcomeAfter env meeting.first arrival.visit arrival.session ::
      (meeting.visit arrival.visit).outcomes env rest

theorem Meeting.outcomes_eq (env : Env) (meeting : Meeting) (arrivals : List Arrival) :
    meeting.outcomes env arrivals = arrivals.mapIdx fun index arrival =>
      outcomeAfter env (meeting.visitAll (visitsOf (arrivals.take index))).first arrival.visit
        arrival.session := by
  induction arrivals generalizing meeting with
  | nil => rfl
  | cons arrival rest inductionHypothesis =>
    rw [List.mapIdx_cons, Meeting.outcomes, inductionHypothesis]
    rfl

theorem Meeting.Readable.visit {env : Env} {meeting : Meeting} {visit : Visit}
    (readable : meeting.Readable env)
    (brought : ∀ body, visit = .trace body → ∃ answer : TraceAnswer, answer.ReadFrom env body) :
    (meeting.visit visit).Readable env := by
  intro body traced
  cases meeting with
  | traced first =>
    apply readable body
    cases visit <;> exact traced
  | waiting payloads =>
    cases visit with
    | business payload => cases traced
    | trace answered =>
      cases traced
      exact brought body rfl

/-- The run of the sessions follows the meeting. -/
theorem runAll_meets {env : Env} {key : String} (nonempty : key ≠ "") (arrivals : List Arrival)
    (arrive : ∀ arrival ∈ arrivals, Arrives env key arrival) (meeting : Meeting)
    (back : ∀ earlier, earlier <+: visitsOf arrivals → ∀ record,
      (meeting.visitAll earlier).record = some record → ReadsBack env record)
    (readable : meeting.Readable env) :
    runAll env key arrivals (meeting.stored env) =
      dispatchAll env (meeting.releasedAll (visitsOf arrivals)) >>= fun _ =>
        .ret (meeting.outcomes env arrivals, (meeting.visitAll (visitsOf arrivals)).stored env) := by
  induction arrivals generalizing meeting with
  | nil => rfl
  | cons arrival rest inductionHypothesis =>
    obtain ⟨keyed, canVisit, inTime⟩ := arrive arrival List.mem_cons_self
    obtain ⟨now, met⟩ := getResultOfWait_meets nonempty keyed canVisit arrival.start inTime meeting
      (back [] List.nil_prefix) readable
    have later := inductionHypothesis (fun other member => arrive other (List.mem_cons_of_mem _ member))
      (meeting.visit arrival.visit)
      (fun earlier isPrefix => back (arrival.visit :: earlier) (List.cons_prefix_cons.mpr ⟨rfl, isPrefix⟩))
      (readable.visit fun body visit =>
        (canVisit.readable visit).imp fun _ found => found.2)
    show (handled _ _ _ >>= fun _ => _) = _
    rw [met, bind_assoc]
    show (dispatchAll env (meeting.released arrival.visit) >>= fun _ =>
      runAll env key rest ((meeting.visit arrival.visit).stored env) >>= fun _ => _) = _
    rw [later]
    show _ = (dispatchAll env (_ ++ (meeting.visit arrival.visit).releasedAll (visitsOf rest)) >>= fun _ => _)
    rw [dispatchAll_append, bind_assoc]
    simp only [bind_assoc]
    rfl

/-! ## The rendezvous -/

/-- The text layer gives back the records that the visits can lead to. -/
structure ReadsRecords (env : Env) (visits : List Visit) : Prop where
  business : ∀ payloads, payloads ≠ [] → payloads <+: waitedIn visits →
    ReadsBack env (businessRecord PayloadType.business payloads)
  trace : ∀ body, Visit.trace body ∈ visits → ReadsBack env (traceRecord PayloadType.trace body)

theorem mem_of_firstBody {visits : List Visit} {body : String} (first : firstBody visits = some body) :
    Visit.trace body ∈ visits := by
  obtain ⟨visit, member, found⟩ := List.exists_of_findSome?_eq_some first
  cases visit with
  | business payload => cases found
  | trace other =>
    cases found
    exact member

theorem mem_of_waitedIn {visits : List Visit} {payload : String} (waited : payload ∈ waitedIn visits) :
    Visit.business payload ∈ visits := by
  obtain ⟨visit, member, found⟩ := List.mem_filterMap.mp waited
  cases visit with
  | business other =>
    cases found
    exact List.takeWhile_sublist _ |>.mem member
  | trace body => cases found

/-- What waits without an answer yet waits until the first one comes. -/
theorem payloadsOf_prefix {visits earlier : List Visit} (isPrefix : earlier <+: visits)
    (first : firstBody earlier = none) : payloadsOf earlier <+: waitedIn visits := by
  obtain ⟨later, rfl⟩ := isPrefix
  have business : ∀ visit ∈ earlier, visit.isBusiness = true := by
    intro visit member
    have noBody := List.findSome?_eq_none_iff.mp first visit member
    cases visit with
    | business payload => rfl
    | trace body => cases noBody
  rw [waitedIn, List.takeWhile_append_of_pos business, payloadsOf, payloadsOf, List.filterMap_append]
  exact List.prefix_append _ _

/-- Every record on the way is one of those that the text layer gives back. -/
theorem ReadsRecords.back {env : Env} {visits earlier : List Visit} (reads : ReadsRecords env visits)
    (isPrefix : earlier <+: visits) (record : Json)
    (stored : ((Meeting.waiting []).visitAll earlier).record = some record) : ReadsBack env record := by
  rw [Meeting.visitAll_waiting] at stored
  cases first : firstBody earlier with
  | some body =>
    rw [first] at stored
    cases stored
    exact reads.trace body (isPrefix.mem (mem_of_firstBody first))
  | none =>
    rw [first] at stored
    cases payloads : payloadsOf earlier with
    | nil => simp [payloads, Meeting.record] at stored
    | cons head rest =>
      rw [payloads] at stored
      cases stored
      apply reads.business _ (List.cons_ne_nil _ _)
      rw [← payloads]
      exact payloadsOf_prefix isPrefix first

/-- What is stored after the visits: nothing, those that wait in the order in which they came,
    or the first answer alone. -/
def storedAfter (env : Env) (visits : List Visit) : Option String :=
  match firstBody visits with
  | some body => some (env.text.toStyledString (traceRecord PayloadType.trace body))
  | none =>
    if payloadsOf visits = [] then none
    else some (env.text.toStyledString (businessRecord PayloadType.business (payloadsOf visits)))

/-- The payloads that the visits release, with the answer that each is given. -/
def releasedBy (visits : List Visit) : List (String × String) :=
  match firstBody visits with
  | some body => (waitedIn visits).map fun payload => (payload, body)
  | none => []

theorem stored_visitAll (env : Env) (visits : List Visit) :
    ((Meeting.waiting []).visitAll visits).stored env = storedAfter env visits := by
  rw [Meeting.visitAll_waiting, storedAfter]
  cases firstBody visits with
  | some body => rfl
  | none => cases payloadsOf visits <;> rfl

theorem first_visitAll (visits : List Visit) :
    ((Meeting.waiting []).visitAll visits).first = firstBody visits := by
  rw [Meeting.visitAll_waiting]
  cases firstBody visits <;> rfl

theorem releasedAll_eq (visits : List Visit) :
    (Meeting.waiting []).releasedAll visits = releasedBy visits := by
  rw [Meeting.releasedAll_waiting, releasedBy]
  cases firstBody visits <;> rfl

theorem mem_of_releasedBy {visits : List Visit} {entry : String × String}
    (released : entry ∈ releasedBy visits) :
    ∃ payload body, entry = (payload, body) ∧ payload ∈ waitedIn visits ∧ firstBody visits = some body := by
  unfold releasedBy at released
  cases first : firstBody visits with
  | none =>
    rw [first] at released
    cases released
  | some body =>
    rw [first] at released
    obtain ⟨payload, waited, rfl⟩ := List.mem_map.mp released
    exact ⟨payload, body, rfl, waited, rfl⟩

/-- Any sequence of sessions at one key, from an empty key on.  A business capture waits as long
    as no trace session came before it and is given the first answer afterwards; what is stored
    are the payloads that wait, and after the first trace session its answer alone; and each
    payload that waited went to `handleFromRedis` once, in order, with that answer. -/
theorem rendezvous (env : Env) (key : String) (nonempty : key ≠ "") (arrivals : List Arrival)
    (arrive : ∀ arrival ∈ arrivals, Arrives env key arrival)
    (reads : ReadsRecords env (visitsOf arrivals)) :
    runAll env key arrivals none =
        (dispatchAll env (releasedBy (visitsOf arrivals)) >>= fun _ =>
          .ret (arrivals.mapIdx fun index arrival =>
            outcomeAfter env (firstBody (visitsOf (arrivals.take index))) arrival.visit arrival.session,
            storedAfter env (visitsOf arrivals))) ∧
      ∀ entry ∈ releasedBy (visitsOf arrivals), (handleFromRedis env entry.1 entry.2).Faultless := by
  constructor
  · have met := runAll_meets nonempty arrivals arrive (.waiting [])
      (fun earlier => reads.back) (by rintro body ⟨⟩)
    rw [Meeting.outcomes_eq, stored_visitAll, releasedAll_eq] at met
    simp only [first_visitAll] at met
    exact met
  · intro entry released
    obtain ⟨payload, body, rfl, waited, first⟩ := mem_of_releasedBy released
    obtain ⟨waiting, arrived, brought⟩ := List.mem_map.mp (mem_of_waitedIn waited)
    obtain ⟨traced, arrivedTrace, answered⟩ := List.mem_map.mp (mem_of_firstBody first)
    obtain ⟨parsed, parses⟩ := (arrive waiting arrived).canVisit.parses brought
    obtain ⟨answer, -, readsAnswer⟩ := (arrive traced arrivedTrace).canVisit.readable answered
    exact handleFromRedis_faultless parses readsAnswer

/-! ## A capture before the trace answer and one after it -/

/-- A business message of type 2 with the picture `k`. -/
def captureMessage : String :=
  "\x7b\"data\":\x7b\"app_id\":\"a\",\"did\":\"d\",\"payload\":\"\x7b\\\"event\\\":\x7b\\\"capture_uris\\\":[\\\"h/b/k\\\"],\\\"msg_type\\\":2\x7d\x7d\",\"ptype\":32\x7d,\"msg_id\":\"m\"\x7d"

def captureEvent : String :=
  "\x7b\"event\":\x7b\"capture_uris\":[\"h/b/k\"],\"msg_type\":2\x7d\x7d"

/-- An answer of the trace-space service that names a person. -/
def personAnswer : String :=
  "\x7b\"error_code\":0,\"result\":\x7b\"person_result\":\x7b\"id\":\"p\"\x7d,\"track_result\":\x7b\x7d\x7d\x7d"

/-- The record with the capture, and the one with the answer. -/
def captureRecord : String :=
  "\x7b\n   \"message_list\" : [\n      \"\x7b\\\"data\\\":\x7b\\\"app_id\\\":\\\"a\\\",\\\"did\\\":\\\"d\\\",\\\"payload\\\":\\\"\x7b\\\\\\\"event\\\\\\\":\x7b\\\\\\\"capture_uris\\\\\\\":[\\\\\\\"h/b/k\\\\\\\"],\\\\\\\"msg_type\\\\\\\":2\x7d\x7d\\\",\\\"ptype\\\":32\x7d,\\\"msg_id\\\":\\\"m\\\"\x7d\"\n   ],\n   \"ptype\" : 32\n\x7d\n"

def answerRecord : String :=
  "\x7b\n   \"ptype\" : 8,\n   \"trace_result\" : \"\x7b\\\"error_code\\\":0,\\\"result\\\":\x7b\\\"person_result\\\":\x7b\\\"id\\\":\\\"p\\\"\x7d,\\\"track_result\\\":\x7b\x7d\x7d\x7d\"\n\x7d\n"

def meetingTable : List (String × Json) :=
  [(captureMessage, messageJson captureEvent 32),
    (captureEvent, .object [("event", .object [("capture_uris", .array [.string "h/b/k"]), ("msg_type", .int 2)])]),
    (personAnswer, .object [("error_code", .int 0),
      ("result", .object [("person_result", .object [("id", .string "p")]), ("track_result", .object [])])]),
    (captureRecord, businessRecord PayloadType.business [captureMessage]),
    (answerRecord, traceRecord PayloadType.trace personAnswer)]

/-- Writes the two records and nothing else. -/
def meetingText : JsonText where
  reader := (tableText meetingTable).reader
  charReader := (tableText meetingTable).charReader
  realToString := (tableText meetingTable).realToString
  toStyledString
    | .object (("message_list", _) :: _) => captureRecord
    | _ => answerRecord

def meetingEnv : Env where
  text := meetingText
  conf := { getValue := fun _ _ => some "/", getIntValue := fun _ _ => none }
  uninit := { timestamp := 0, similar := 0 }

/-- The data of the capture, and that of a trace message with the same picture. -/
def captureNode : PmPtr := ⟨0, 0, ⟨"gzc", 0, 0, captureMessage⟩⟩

def captureData : BaseData where
  dataClass := .business
  payloadType := PayloadType.business
  totalJv := messageJson captureEvent 32
  src := .kafka
  ipc := { spaceId := "adefaultspace", appId := "a", deviceId := "d", timestamp := 0 }
  msgId := "m"
  data := some captureNode
  event := { captureUris := [{ url := "h/b/k" }], msgType := 2 }
  plugin := { datatype := 4 }

def traceData : BaseData where
  dataClass := .capture
  payloadType := PayloadType.trace
  totalJv := .null
  src := .kafka
  ipc := { spaceId := "s", appId := "a", deviceId := "d", timestamp := 0 }
  msgId := "t"
  data := some ⟨0, 1, ⟨"gzc", 0, 1, traceMessage⟩⟩
  capture := { type := 1, person := { faces := [{ url := "h/b/k" }] } }

def captureArrival (ref : Nat) : Arrival where
  session := .make meetingEnv ref captureData
  start := 0
  refusals := [1, 1]

def traceArrival : Arrival where
  session := { Session.make meetingEnv 1 traceData with traceSpaceResult := personAnswer }
  start := 0
  refusals := []

set_option maxRecDepth 4000 in
theorem parse_captureMessage :
    parseMessage meetingEnv (some captureNode) captureMessage = .ok (some captureData) := by
  rfl

set_option maxRecDepth 4000 in
theorem meetingEnv_reads : ReadsRecords meetingEnv [.business captureMessage, .trace personAnswer,
    .business captureMessage] where
  business := by
    intro payloads nonempty isPrefix
    cases payloads with
    | nil => exact absurd rfl nonempty
    | cons head rest =>
      obtain ⟨rfl, last⟩ := List.cons_prefix_cons.mp isPrefix
      obtain rfl := List.prefix_nil.mp last
      exact ⟨by decide, by rfl⟩
  trace := by
    intro body member
    have same : body = personAnswer := by simpa using member
    rw [same]
    exact ⟨by decide, by rfl⟩

theorem captureArrival_arrives (ref : Nat) : Arrives meetingEnv "k" (captureArrival ref) where
  keyed := by rfl
  canVisit := .business captureNode captureData rfl rfl parse_captureMessage
  inTime := (by decide : (refusedTime [1, 1] : Int) < redlockAcquireTimeout)

set_option maxRecDepth 4000 in
theorem traceArrival_arrives : Arrives meetingEnv "k" traceArrival where
  keyed := by rfl
  canVisit := .trace _ ⟨"200 OK", personAnswer⟩ (.make meetingEnv 1 traceData) _ rfl rfl rfl rfl
  inTime := by decide

theorem rendezvous_captureTwice :
    runAll meetingEnv "k" [captureArrival 0, traceArrival, captureArrival 2] none =
      (dispatchAll meetingEnv [(captureMessage, personAnswer)] >>= fun _ => .ret
        ([(.wait, (captureArrival 0).session), (.pass, traceArrival.session),
          (.pass, givenBody meetingEnv personAnswer (captureArrival 2).session)], some answerRecord)) :=
  (rendezvous meetingEnv "k" (by decide) [captureArrival 0, traceArrival, captureArrival 2]
    (by
      simp only [List.mem_cons, List.not_mem_nil, or_false]
      rintro _ (rfl | rfl | rfl)
      · exact captureArrival_arrives 0
      · exact traceArrival_arrives
      · exact captureArrival_arrives 2)
    meetingEnv_reads).1

end XBusiness
