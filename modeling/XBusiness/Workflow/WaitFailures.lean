import Mathlib.Logic.Basic
import XBusiness.Workflow.Rendezvous

/-! # The picture wait when Redis fails

`getResultOfWait` with the lock held, where each command may succeed, fail, or be performed without
an answer.  `GetValueByKey` tells a failure and an absent record apart no more than its callers do,
and what becomes of a `SET` is only logged.

* `Meeting.after`, `Meeting.handed`, `Meeting.resultWith` — what the failures make of a visit.
* `getResultOfWait_faulty` — the code does just that.
* `waiting_survives` — when no payload is lost or doubled.
* `wait_means_stored` — when a session that waits is in the record.
-/

namespace XBusiness

open Interaction
open Interaction.Prog (handled handled_bind handled_answered handled_left handled_inside)

/-! ## Outcomes -/

/-- A reply that does not come, or that is no text. -/
inductive RedisFailure where
  | invalid
  | timeout
  | exception
  | null
  | other
  deriving DecidableEq, Repr

def RedisFailure.reply : RedisFailure → RedisReply
  | invalid => .invalid
  | timeout => .timeout
  | exception => .exception
  | null => .null
  | other => .other

/-- The value comes, or it does not; or the text of an error comes, which passes for a value. -/
inductive GetOutcome where
  | answered
  | failed (failure : RedisFailure)
  | error (text : String)
  deriving DecidableEq, Repr

/-- The value is stored, with or without an answer that says so, or it is not. -/
inductive SetOutcome where
  | ok
  | unseen (failure : RedisFailure)
  | failed (failure : RedisFailure)
  deriving DecidableEq, Repr

namespace SetOutcome

def performed : SetOutcome → Bool
  | ok | unseen _ => true
  | failed _ => false

def reply : SetOutcome → RedisReply
  | ok => .string "OK"
  | unseen failure | failed failure => failure.reply

end SetOutcome

/-- The outcomes of the commands on the key, and of the one that releases the lock. -/
structure Outcomes where
  get : GetOutcome
  set : SetOutcome
  unlock : RedisReply
  deriving DecidableEq, Repr

/-- The text of an error is not empty, and no JSON. -/
def Outcomes.ErrorText (env : Env) (outcomes : Outcomes) : Prop :=
  ∀ text, outcomes.get = .error text → text ≠ "" ∧ env.text.reader text = .ok none

/-! ## Redis that may fail -/

structure FaultyStore where
  store : KeyStore
  outcomes : Outcomes

/-- The commands on the key go as the outcomes say; the lock is granted as before. -/
def FaultyStore.answer (key : String) (state : FaultyStore) :
    (request : FlowCall) → Option (request.Answer × FaultyStore)
  | .redisGet name =>
    if name = key then
      match state.outcomes.get with
      | .answered =>
        match state.store.record with
        | some text => some (.string text, state)
        | none => some (.null, state)
      | .failed failure => some (failure.reply, state)
      | .error text => some (.string text, state)
    else none
  | .redisSet name data milliseconds nx =>
    if nx then
      (KeyStore.answer key state.store (.redisSet name data milliseconds nx)).map fun result =>
        (result.1, { state with store := result.2 })
    else if name = key then
      some (state.outcomes.set.reply,
        if state.outcomes.set.performed then
          { state with store := { state.store with record := some data } }
        else state)
    else none
  | .redisUnlock name _ => if name = lockKeyOf key then some (state.outcomes.unlock, state) else none
  | request => (KeyStore.answer key state.store request).map fun result =>
      (result.1, { state with store := result.2 })

/-! ## What a visit comes to -/

namespace Meeting

/-- The payloads that wait. -/
def payloads : Meeting → List String
  | waiting payloads => payloads
  | traced _ => []

/-- The state after a visit: one that reads nothing takes the key for a new one. -/
def after (outcomes : Outcomes) (meeting : Meeting) (visit : Visit) : Meeting :=
  match outcomes.get with
  | .answered => if outcomes.set.performed then meeting.visit visit else meeting
  | .failed _ => if outcomes.set.performed then (waiting []).visit visit else meeting
  | .error _ => meeting

/-- The payloads that the visit hands over, each with its answer. -/
def handed (outcomes : Outcomes) (meeting : Meeting) (visit : Visit) : List (String × String) :=
  match outcomes.get with
  | .answered => meeting.released visit
  | .failed _ | .error _ => []

def resultWith (outcomes : Outcomes) (meeting : Meeting) (visit : Visit) : PictureWaitResult :=
  match outcomes.get, meeting, visit with
  | .answered, waiting _, .business _ => .wait
  | .failed _, _, .business _ => .wait
  | _, _, _ => .pass

/-- A business session that finds an answer is given it. -/
def answerRead (env : Env) (outcomes : Outcomes) (meeting : Meeting) (visit : Visit) (session : Session) :
    FlowProg Session :=
  match outcomes.get, meeting, visit with
  | .answered, traced body, .business _ =>
    raiseFault (Prod.snd <$> (getPersonResult env body).run session)
  | _, _, _ => return session

end Meeting

/-! ## The critical section -/

theorem FaultyStore.answer_sessionCall (key : String) (state : FaultyStore) (request : FlowCall)
    (session : request.isSessionCall) : state.answer key request = none := by
  cases request <;> first | rfl | cases session

/-- What `GetValueByKey` leaves in `data`. -/
def GetOutcome.value (get : GetOutcome) (record : Option String) : String :=
  match get with
  | answered => record.getD ""
  | failed _ => ""
  | error text => text

/-- The store after a `SET` of the meeting's record. -/
def Outcomes.stored (env : Env) (outcomes : Outcomes) (store : KeyStore) (later : Meeting) : KeyStore :=
  if outcomes.set.performed then { store with record := later.stored env } else store

section Critical

variable {env : Env} {key : String} {store : KeyStore} {outcomes : Outcomes} {session : Session}

theorem getValueByKey_faulty :
    (getValueByKey key).handled (FaultyStore.answer key) ⟨store, outcomes⟩ =
      .ret ((decide (outcomes.get.value store.record ≠ ""), outcomes.get.value store.record),
        ⟨store, outcomes⟩) := by
  obtain ⟨get, set, unlock⟩ := outcomes
  cases get with
  | answered =>
    cases stored : store.record with
    | none => simp [getValueByKey, handled, FaultyStore.answer, stored, GetOutcome.value]
    | some text =>
      by_cases empty : text = "" <;>
        simp [getValueByKey, handled, FaultyStore.answer, stored, GetOutcome.value, empty]
  | failed failure =>
    cases failure <;> simp [getValueByKey, handled, FaultyStore.answer, GetOutcome.value, RedisFailure.reply]
  | error text =>
    by_cases empty : text = "" <;> simp [getValueByKey, handled, FaultyStore.answer, GetOutcome.value, empty]

theorem storeRecord_faulty {later : Meeting} {record : Json} (recorded : later.record = some record) :
    ((storeRecord env key record).run session).handled (FaultyStore.answer key) ⟨store, outcomes⟩ =
      .ret (((), session), ⟨outcomes.stored env store later, outcomes⟩) := by
  have answered : FaultyStore.answer key ⟨store, outcomes⟩
      (.redisSet key (env.text.toStyledString record) pictureWaitCacheTimeout false) =
        some (outcomes.set.reply, ⟨outcomes.stored env store later, outcomes⟩) := by
    simp only [Outcomes.stored, Meeting.stored, recorded, Option.map_some]
    by_cases performed : outcomes.set.performed = true <;> simp [FaultyStore.answer, performed]
  exact handled_answered answered

theorem waiting_record (payloads : List String) (payload : String) :
    (Meeting.waiting (payloads ++ [payload])).record =
      some (businessRecord PayloadType.business (payloads ++ [payload])) := by
  cases payloads <;> rfl

/-- The first business capture of a key. -/
theorem handleWithoutKey_business_faulty (payload : String) :
    ((handleWithoutKey env key payload PayloadType.business).run session).handled (FaultyStore.answer key)
        ⟨store, outcomes⟩ =
      .ret ((.wait, session), ⟨outcomes.stored env store (.waiting [payload]), outcomes⟩) := by
  show (((storeRecord env key _ >>= fun _ => pure PictureWaitResult.wait).run session).handled _ _) = _
  have recorded : (Meeting.waiting [payload]).record =
      some (businessRecord PayloadType.business [payload]) := rfl
  rw [StateT.run_bind, handled_bind, storeRecord_faulty recorded]
  rfl

/-- A trace answer that finds nobody waiting. -/
theorem handleWithoutKey_trace_faulty (payload : String) :
    ((handleWithoutKey env key payload PayloadType.trace).run session).handled (FaultyStore.answer key)
        ⟨store, outcomes⟩ =
      .ret ((.pass, session),
        ⟨outcomes.stored env store (.traced session.traceSpaceResult), outcomes⟩) := by
  have recorded : (Meeting.traced session.traceSpaceResult).record =
      some (traceRecord PayloadType.trace session.traceSpaceResult) := rfl
  show (((storeRecord env key _ >>= fun _ => pure PictureWaitResult.pass).run session).handled _ _) = _
  rw [StateT.run_bind, handled_bind, storeRecord_faulty recorded]
  rfl

/-- A business capture joins those that wait. -/
theorem handleWithKey_waiting_business_faulty {payloads : List String} (payload : String)
    (back : ReadsBack env (businessRecord PayloadType.business payloads)) :
    ((handleWithKey env key (env.text.toStyledString (businessRecord PayloadType.business payloads))
        payload PayloadType.business).run session).handled (FaultyStore.answer key) ⟨store, outcomes⟩ =
      .ret ((.wait, session),
        ⟨outcomes.stored env store (.waiting (payloads ++ [payload])), outcomes⟩) := by
  simp only [handleWithKey, back.read, Flow.ofExcept_ok, pure_bind, businessRecord_ptype,
    businessRecord_append, businessRecord_set, business_ne_trace, if_true, if_false]
  rw [StateT.run_bind, handled_bind, storeRecord_faulty (waiting_record payloads payload)]
  rfl

/-- A trace answer hands over those that wait, whether or not its own record is stored then. -/
theorem handleWithKey_waiting_trace_faulty {payloads : List String} (payload : String)
    (back : ReadsBack env (businessRecord PayloadType.business payloads)) :
    ((handleWithKey env key (env.text.toStyledString (businessRecord PayloadType.business payloads))
        payload PayloadType.trace).run session).handled (FaultyStore.answer key) ⟨store, outcomes⟩ =
      dispatchAll env (payloads.map fun waiting => (waiting, session.traceSpaceResult)) >>= fun _ =>
        .ret ((.pass, session),
          ⟨outcomes.stored env store (.traced session.traceSpaceResult), outcomes⟩) := by
  have recorded : (Meeting.traced session.traceSpaceResult).record =
      some (traceRecord PayloadType.trace session.traceSpaceResult) := rfl
  simp only [handleWithKey, back.read, Flow.ofExcept_ok, pure_bind, businessRecord_ptype,
    businessRecord_list, business_ne_trace, business_ne_trace.symm, if_true, if_false]
  show ((Flow.ofProg _ >>= fun _ => storeRecord env key _ >>= fun _ => _).run session).handled _ _ = _
  rw [releaseWaiting_eq, run_ofProg_bind, handled_bind,
    Prog.handled_of_unanswered (dispatchAll_makes env _) _ (FaultyStore.answer_sessionCall key _), bind_assoc]
  congr 1
  funext _
  show ((storeRecord env key _ >>= fun _ => _).run session).handled _ _ = _
  rw [StateT.run_bind, handled_bind, storeRecord_faulty recorded]
  rfl

/-- A business capture reads the answer that came before it. -/
theorem handleWithKey_traced_business_faulty {body : String} (payload : String)
    (back : ReadsBack env (traceRecord PayloadType.trace body)) :
    ((handleWithKey env key (env.text.toStyledString (traceRecord PayloadType.trace body))
        payload PayloadType.business).run session).handled (FaultyStore.answer key) ⟨store, outcomes⟩ =
      raiseFault (Prod.snd <$> (getPersonResult env body).run session) >>= fun after =>
        .ret ((.pass, after), ⟨store, outcomes⟩) := by
  simp only [handleWithKey, back.read, Flow.ofExcept_ok, pure_bind, traceRecord_ptype,
    traceRecord_body, if_true]
  show handled _ ((Flow.ofSessionFn (getPersonResult env body)).run session >>= fun _ => _) _ = _
  cases ran : (getPersonResult env body).run session with
  | error fault =>
    rw [Flow.run_ofSessionFn_error ran]
    rfl
  | ok result =>
    rw [Flow.run_ofSessionFn_ok ran]
    rfl

/-- A later trace answer leaves the first one. -/
theorem handleWithKey_traced_trace_faulty {body : String} (payload : String)
    (back : ReadsBack env (traceRecord PayloadType.trace body)) :
    ((handleWithKey env key (env.text.toStyledString (traceRecord PayloadType.trace body))
        payload PayloadType.trace).run session).handled (FaultyStore.answer key) ⟨store, outcomes⟩ =
      .ret ((.pass, session), ⟨store, outcomes⟩) := by
  simp only [handleWithKey, back.read, Flow.ofExcept_ok, pure_bind, traceRecord_ptype,
    business_ne_trace.symm, if_true, if_false]
  rfl

/-- The text of an error is read as a record and rejected. -/
theorem handleWithKey_error_faulty {text : String} (rejected : env.text.reader text = .ok none)
    (payload : String) (ptype : Int) :
    ((handleWithKey env key text payload ptype).run session).handled (FaultyStore.answer key)
        ⟨store, outcomes⟩ = .ret ((.pass, session), ⟨store, outcomes⟩) := by
  simp only [handleWithKey, rejected, Flow.ofExcept_ok, pure_bind]
  rfl

theorem waitCriticalSection_empty_faulty (empty : outcomes.get.value store.record = "")
    (payload : String) (ptype : Int) :
    ((waitCriticalSection env key payload ptype).run session).handled (FaultyStore.answer key)
        ⟨store, outcomes⟩ =
      ((handleWithoutKey env key payload ptype).run session).handled (FaultyStore.answer key)
        ⟨store, outcomes⟩ := by
  show ((Flow.ofProg (getValueByKey key) >>= fun _ => _).run session).handled _ _ = _
  rw [run_ofProg_bind, handled_bind, getValueByKey_faulty]
  show handled _ (StateT.run (if _ then _ else _) session) _ = _
  rw [if_pos (.inr empty)]

theorem waitCriticalSection_found_faulty {text : String} (written : text ≠ "")
    (found : outcomes.get.value store.record = text) (payload : String) (ptype : Int) :
    ((waitCriticalSection env key payload ptype).run session).handled (FaultyStore.answer key)
        ⟨store, outcomes⟩ =
      ((handleWithKey env key text payload ptype).run session).handled (FaultyStore.answer key)
        ⟨store, outcomes⟩ := by
  show ((Flow.ofProg (getValueByKey key) >>= fun _ => _).run session).handled _ _ = _
  rw [run_ofProg_bind, handled_bind, getValueByKey_faulty, found]
  show handled _ (StateT.run (if _ then _ else _) session) _ = _
  rw [if_neg (by simp [written])]

end Critical

variable {env : Env} {key : String} {outcomes : Outcomes} {session : Session}

variable (key) in
/-- The critical section does to the record what the visit does to the meeting under the outcomes. -/
theorem waitCriticalSection_visits {payload : String} {ptype : Int} {visit : Visit} (now : Int)
    (meeting : Meeting) (brings : Brings payload session ptype visit)
    (back : ∀ record, meeting.record = some record → ReadsBack env record)
    (errorText : outcomes.ErrorText env) :
    ((waitCriticalSection env key payload ptype).run session).handled (FaultyStore.answer key)
        ⟨⟨meeting.stored env, [], now⟩, outcomes⟩ =
      dispatchAll env (meeting.handed outcomes visit) >>= fun _ =>
        meeting.answerRead env outcomes visit session >>= fun after =>
          .ret ((meeting.resultWith outcomes visit, after),
            ⟨⟨(meeting.after outcomes visit).stored env, [], now⟩, outcomes⟩) := by
  obtain ⟨get, set, unlock⟩ := outcomes
  cases get with
  | failed failure =>
    -- a command that fails reads as no record
    refine (waitCriticalSection_empty_faulty rfl payload ptype).trans ?_
    cases brings with
    | business =>
      refine (handleWithoutKey_business_faulty payload).trans ?_
      cases set <;> rfl
    | trace =>
      refine (handleWithoutKey_trace_faulty payload).trans ?_
      cases set <;> rfl
  | error text =>
    -- an error reply reads as a record with the text of the error, which is no record
    obtain ⟨written, rejected⟩ := errorText text rfl
    refine (waitCriticalSection_found_faulty written rfl payload ptype).trans ?_
    exact handleWithKey_error_faulty rejected payload ptype
  | answered =>
    cases meeting with
    | waiting payloads =>
      cases payloads with
      | nil =>
        refine (waitCriticalSection_empty_faulty rfl payload ptype).trans ?_
        cases brings with
        | business =>
          refine (handleWithoutKey_business_faulty payload).trans ?_
          cases set <;> rfl
        | trace =>
          refine (handleWithoutKey_trace_faulty payload).trans ?_
          cases set <;> rfl
      | cons first rest =>
        have kept := back _ rfl
        refine (waitCriticalSection_found_faulty kept.written rfl payload ptype).trans ?_
        cases brings with
        | business =>
          refine (handleWithKey_waiting_business_faulty payload kept).trans ?_
          cases set <;> rfl
        | trace =>
          refine (handleWithKey_waiting_trace_faulty payload kept).trans ?_
          cases set <;> rfl
    | traced body =>
      have kept := back _ rfl
      refine (waitCriticalSection_found_faulty kept.written rfl payload ptype).trans ?_
      cases brings with
      | business =>
        refine (handleWithKey_traced_business_faulty payload kept).trans ?_
        cases set <;> rfl
      | trace =>
        refine (handleWithKey_traced_trace_faulty payload kept).trans ?_
        cases set <;> rfl

/-! ## The whole of `getResultOfWait` -/

/-- The calls of an attempt at a lock. -/
def FlowCall.isLockCall : FlowCall → Prop
  | .redisSet _ _ _ nx => nx = true
  | .sleepFor _ | .now => True
  | _ => False

theorem redLock_granted_faulty (key : String) (outcomes : Outcomes) (data : String) (store : KeyStore)
    (inTime : refusedTime store.refusals < redlockAcquireTimeout) :
    ∃ now, (redLock (lockKeyOf key) data redlockAcquireTimeout redlockExpireTimeout).handled
      (FaultyStore.answer key) ⟨store, outcomes⟩ = .ret (true, ⟨⟨store.record, [], now⟩, outcomes⟩) := by
  obtain ⟨now, granted⟩ := redLock_granted key data store inTime
  refine ⟨now, ?_⟩
  have same : ∀ (state : KeyStore) request, request.isLockCall →
      FaultyStore.answer key ⟨state, outcomes⟩ request =
        (KeyStore.answer key state request).map fun result => (result.1, ⟨result.2, outcomes⟩) := by
    intro state request lockCall
    cases request with
    | redisSet name data milliseconds nx =>
      cases lockCall
      rfl
    | sleepFor _ => rfl
    | now => rfl
    | _ => cases lockCall
  have makes : (redLock (lockKeyOf key) data redlockAcquireTimeout redlockExpireTimeout).Makes
      FlowCall.isLockCall fun _ => True :=
    redLock_makes rfl trivial trivial
  have inside := handled_inside (fun state => FaultyStore.mk state outcomes) makes same store
  rw [inside, granted]
  rfl

theorem redUnlock_faulty (key data : String) (state : FaultyStore) :
    ∃ released, (redUnlock (lockKeyOf key) data).handled (FaultyStore.answer key) state =
      .ret (released, state) := by
  obtain ⟨store, get, set, unlock⟩ := state
  cases unlock with
  | integer value => exact ⟨decide (value ≠ 0), by simp [redUnlock, handled, FaultyStore.answer]⟩
  | _ => exact ⟨false, by simp [redUnlock, handled, FaultyStore.answer]⟩

/-- A visit under the outcomes: what is handed over, what the session gets, and what is stored. -/
theorem getResultOfWait_faulty (nonempty : key ≠ "") (keyed : session.kafkaData.getPicWaitKey = key)
    {node : PmPtr} (data : session.kafkaData.data = some node) {visit : Visit}
    (brings : Brings node.msg.payload session session.kafkaData.payloadType visit)
    (start : Int) {refusals : List Nat} (inTime : refusedTime refusals < redlockAcquireTimeout)
    (meeting : Meeting) (back : ∀ record, meeting.record = some record → ReadsBack env record)
    (errorText : outcomes.ErrorText env) :
    ∃ now, ((getResultOfWait env).run session).handled (FaultyStore.answer key)
        ⟨⟨meeting.stored env, refusals, start⟩, outcomes⟩ =
      dispatchAll env (meeting.handed outcomes visit) >>= fun _ =>
        meeting.answerRead env outcomes visit session >>= fun after =>
          .ret ((meeting.resultWith outcomes visit, after),
            ⟨⟨(meeting.after outcomes visit).stored env, [], now⟩, outcomes⟩) := by
  obtain ⟨now, granted⟩ := redLock_granted_faulty key outcomes session.uid
    ⟨meeting.stored env, refusals, start⟩ inTime
  have visits := waitCriticalSection_visits key now meeting brings back errorText
  refine ⟨now, ?_⟩
  unfold getResultOfWait
  rw [StateT.run_bind, StateT.run_get, pure_bind]
  dsimp only
  rw [data]
  dsimp only
  rw [keyed, if_neg nonempty]
  -- the lock, the critical section, the release of the lock
  have lockKey : "lock_" ++ key = lockKeyOf key := rfl
  rw [lockKey, run_ofProg_bind, handled_bind, granted]
  show handled _ (StateT.run (waitCriticalSection env key _ _ >>= fun _ => _) session) _ = _
  rw [StateT.run_bind, handled_bind, visits, bind_assoc]
  congr 1
  funext _
  rw [bind_assoc]
  congr 1
  funext after
  show handled _ (StateT.run (Flow.ofProg _ >>= fun _ => pure _) _) _ = _
  obtain ⟨released, unlocked⟩ := redUnlock_faulty key session.uid
    ⟨⟨(meeting.after outcomes visit).stored env, [], now⟩, outcomes⟩
  rw [run_ofProg_bind, handled_bind, unlocked]
  rfl

/-! ## The payloads that waited -/

/-- The payload that the session itself adds to the list. -/
def Meeting.added (outcomes : Outcomes) (meeting : Meeting) (visit : Visit) : List String :=
  match visit with
  | .business payload =>
    if outcomes.set.performed && meeting.resultWith outcomes visit = .wait then [payload] else []
  | .trace _ => []

/-- What becomes of the payloads that waited, entry by entry. -/
structure Meeting.Survive (outcomes : Outcomes) (meeting : Meeting) (visit : Visit) : Prop where
  /-- Each of them is still stored, in front of what the session adds, or was handed over, and not both. -/
  entries : ∃ kept, (meeting.after outcomes visit).payloads = kept ++ meeting.added outcomes visit ∧
    (kept ++ (meeting.handed outcomes visit).map Prod.fst).Perm meeting.payloads
  /-- A `GET` that fails leads to no list being overwritten. -/
  unread : ∀ failure, outcomes.get = .failed failure → meeting.payloads ≠ [] →
    meeting.after outcomes visit = meeting

/-- Nobody waits; or a `GET` that fails is followed by no `SET`; or after a `GET` that is answered, a trace
    answer is stored. -/
def Outcomes.Spare (outcomes : Outcomes) (meeting : Meeting) (visit : Visit) : Prop :=
  meeting.payloads = [] ∨
    match outcomes.get, visit with
    | .answered, .business _ => True
    | .answered, .trace _ => outcomes.set.performed = true
    | .failed _, _ => outcomes.set.performed = false
    | .error _, _ => True

/-- Where no entry is lost or doubled, their number is the same. -/
theorem Meeting.Survive.length {outcomes : Outcomes} {meeting : Meeting} {visit : Visit}
    (survives : meeting.Survive outcomes visit) :
    (meeting.after outcomes visit).payloads.length + (meeting.handed outcomes visit).length =
      meeting.payloads.length + (meeting.added outcomes visit).length := by
  obtain ⟨kept, stored, same⟩ := survives.entries
  have count := same.length_eq
  rw [List.length_append, List.length_map] at count
  rw [stored, List.length_append]
  omega

theorem survive_of_spare {outcomes : Outcomes} {meeting : Meeting} {visit : Visit}
    (spare : outcomes.Spare meeting visit) : meeting.Survive outcomes visit := by
  obtain ⟨get, set, unlock⟩ := outcomes
  cases spare with
  | inl nobody =>
    refine ⟨⟨[], ?_, ?_⟩, fun _ _ some => absurd nobody some⟩
    · cases meeting with
      | traced body =>
        cases get <;> cases visit <;> cases set <;> rfl
      | waiting payloads =>
        cases (nobody : payloads = [])
        cases get <;> cases visit <;> cases set <;> rfl
    · cases meeting with
      | traced body => cases get <;> cases visit <;> exact .nil
      | waiting payloads =>
        cases (nobody : payloads = [])
        cases get <;> cases visit <;> exact .nil
  | inr spare =>
    cases get with
    | error text =>
      refine ⟨⟨meeting.payloads, ?_, ?_⟩, fun _ impossible => by cases impossible⟩
      · cases visit <;> simp [Meeting.after, Meeting.added, Meeting.resultWith]
      · simp [Meeting.handed]
    | failed failure =>
      -- nothing is written
      have unset : set.performed = false := by cases visit <;> exact spare
      refine ⟨⟨meeting.payloads, ?_, ?_⟩, fun _ _ _ => by simp [Meeting.after, unset]⟩
      · cases visit <;> simp [Meeting.after, Meeting.added, unset]
      · simp [Meeting.handed]
    | answered =>
      refine ⟨?_, fun _ impossible => by cases impossible⟩
      cases meeting with
      | traced body =>
        refine ⟨[], ?_, ?_⟩
        · cases visit <;> cases set <;> rfl
        · cases visit <;> exact .nil
      | waiting payloads =>
        cases visit with
        | business payload =>
          refine ⟨payloads, ?_, ?_⟩
          · cases set <;> simp [Meeting.after, Meeting.added, Meeting.resultWith, Meeting.visit,
              Meeting.payloads, SetOutcome.performed]
          · simp [Meeting.handed, Meeting.released, Meeting.payloads]
        | trace body =>
          -- all of them are handed over, and none stays stored
          have stored : set.performed = true := spare
          refine ⟨[], ?_, ?_⟩
          · simp [Meeting.after, Meeting.added, Meeting.visit, Meeting.payloads, stored]
          · simp [Meeting.handed, Meeting.released, Meeting.payloads, Function.comp_def]

theorem survive_iff (outcomes : Outcomes) (meeting : Meeting) (visit : Visit) :
    meeting.Survive outcomes visit ↔ outcomes.Spare meeting visit := by
  constructor
  · intro survives
    have count := survives.length
    obtain ⟨get, set, unlock⟩ := outcomes
    cases meeting with
    | traced body => exact .inl rfl
    | waiting payloads =>
      cases payloads with
      | nil => exact .inl rfl
      | cons first rest =>
        right
        cases get with
        | error text => cases visit <;> trivial
        | answered =>
          cases visit with
          | business payload => trivial
          | trace body =>
            -- they are handed over, so a record that stays doubles them
            cases set with
            | ok | unseen => rfl
            | failed failure =>
              simp [Meeting.after, Meeting.handed, Meeting.released, Meeting.added, Meeting.payloads,
                SetOutcome.performed] at count
        | failed failure =>
          -- nobody is handed over, so a record that is written loses them
          cases visit <;> cases set with
          | failed => rfl
          | ok | unseen =>
            simp [Meeting.after, Meeting.handed, Meeting.added, Meeting.resultWith, Meeting.visit,
              Meeting.payloads, SetOutcome.performed] at count
  · exact survive_of_spare

/-- Every command on the key succeeds. -/
def noFailures : Outcomes := ⟨.answered, .ok, .integer 1⟩

theorem noFailures_errorText (env : Env) : noFailures.ErrorText env := by
  intro text error
  cases error

/-- The text layer of the fixture gives back the record of the one capture. -/
theorem captureRecord_back : ∀ record, (Meeting.waiting [captureMessage]).record = some record →
    ReadsBack meetingEnv record := by
  intro record recorded
  cases recorded
  exact meetingEnv_reads.business _ (by decide) ⟨[], rfl⟩

/-- What the outcomes make of a visit, for every record and every session that holds the lock; and
    when all that waited survives it. -/
theorem waiting_survives (nonempty : key ≠ "") (keyed : session.kafkaData.getPicWaitKey = key)
    {node : PmPtr} (data : session.kafkaData.data = some node) {visit : Visit}
    (brings : Brings node.msg.payload session session.kafkaData.payloadType visit)
    (start : Int) {refusals : List Nat} (inTime : refusedTime refusals < redlockAcquireTimeout)
    (meeting : Meeting) (back : ∀ record, meeting.record = some record → ReadsBack env record)
    (errorText : outcomes.ErrorText env) :
    (∃ now, ((getResultOfWait env).run session).handled (FaultyStore.answer key)
        ⟨⟨meeting.stored env, refusals, start⟩, outcomes⟩ =
      dispatchAll env (meeting.handed outcomes visit) >>= fun _ =>
        meeting.answerRead env outcomes visit session >>= fun after =>
          .ret ((meeting.resultWith outcomes visit, after),
            ⟨⟨(meeting.after outcomes visit).stored env, [], now⟩, outcomes⟩)) ∧
      (meeting.Survive outcomes visit ↔ outcomes.Spare meeting visit) :=
  ⟨getResultOfWait_faulty nonempty keyed data brings start inTime meeting back errorText,
    survive_iff outcomes meeting visit⟩

/-- A second capture of a picture joins the first. -/
theorem waiting_survives_captureTwice :
    (Meeting.waiting [captureMessage]).Survive noFailures (.business captureMessage) :=
  (waiting_survives (by decide : "k" ≠ "") rfl
    (rfl : (captureArrival 0).session.kafkaData.data = some captureNode)
    (.business : Brings captureMessage (captureArrival 0).session PayloadType.business _) 0
    (by decide : refusedTime [] < redlockAcquireTimeout) (.waiting [captureMessage]) captureRecord_back
    (noFailures_errorText meetingEnv)).2.mpr (.inr trivial)

set_option maxRecDepth 4000 in
/-- The `GET` times out, and the record with the payload that waited is overwritten. -/
theorem waiting_lost :
    ((getResultOfWait meetingEnv).run (captureArrival 0).session).handled (FaultyStore.answer "k")
        ⟨⟨some waitingRecord, [], 0⟩, ⟨.failed .timeout, .ok, .integer 1⟩⟩ =
      .ret ((.wait, (captureArrival 0).session),
        ⟨⟨some captureRecord, [], 0⟩, ⟨.failed .timeout, .ok, .integer 1⟩⟩) ∧
    ¬ (Meeting.waiting [businessMessage]).Survive ⟨.failed .timeout, .ok, .integer 1⟩
      (.business captureMessage) := by
  refine ⟨rfl, fun survives => ?_⟩
  have count := survives.length
  revert count
  decide

/-! ## The payload that waits -/

/-- A session that waits has added its payload to those that waited before. -/
def Meeting.WaitStored (outcomes : Outcomes) (meeting : Meeting) (payload : String) : Prop :=
  meeting.resultWith outcomes (.business payload) = .wait →
    ∃ earlier, meeting = waiting earlier ∧
      meeting.after outcomes (.business payload) = waiting (earlier ++ [payload])

/-- The `SET` is performed, and a `GET` that fails has no record to overwrite; or the session does not
    wait, because it finds an answer or the text of an error. -/
def Outcomes.KeepWait (outcomes : Outcomes) (meeting : Meeting) : Prop :=
  match outcomes.get, meeting with
  | .answered, .waiting _ => outcomes.set.performed = true
  | .answered, .traced _ => True
  | .failed _, _ => outcomes.set.performed = true ∧ meeting = .waiting []
  | .error _, _ => True

theorem waitStored_iff (outcomes : Outcomes) (meeting : Meeting) (payload : String) :
    meeting.WaitStored outcomes payload ↔ outcomes.KeepWait meeting := by
  obtain ⟨get, set, unlock⟩ := outcomes
  cases get with
  | error text => simp [Meeting.WaitStored, Outcomes.KeepWait, Meeting.resultWith]
  | answered =>
    cases meeting with
    | traced body => simp [Meeting.WaitStored, Outcomes.KeepWait, Meeting.resultWith]
    | waiting payloads =>
      cases set <;>
        simp [Meeting.WaitStored, Outcomes.KeepWait, Meeting.resultWith, Meeting.after, Meeting.visit,
          SetOutcome.performed]
  | failed failure =>
    cases meeting with
    | traced body =>
      cases set <;> simp [Meeting.WaitStored, Outcomes.KeepWait, Meeting.resultWith]
    | waiting payloads =>
      cases set <;>
        simp [Meeting.WaitStored, Outcomes.KeepWait, Meeting.resultWith, Meeting.after, Meeting.visit,
          SetOutcome.performed]

/-- What the outcomes make of a business capture, for every record; and when it is stored if it
    waits. -/
theorem wait_means_stored (nonempty : key ≠ "") (keyed : session.kafkaData.getPicWaitKey = key)
    {node : PmPtr} (data : session.kafkaData.data = some node)
    (business : session.kafkaData.payloadType = PayloadType.business)
    (start : Int) {refusals : List Nat} (inTime : refusedTime refusals < redlockAcquireTimeout)
    (meeting : Meeting) (back : ∀ record, meeting.record = some record → ReadsBack env record)
    (errorText : outcomes.ErrorText env) :
    (∃ now, ((getResultOfWait env).run session).handled (FaultyStore.answer key)
        ⟨⟨meeting.stored env, refusals, start⟩, outcomes⟩ =
      meeting.answerRead env outcomes (.business node.msg.payload) session >>= fun after =>
        .ret ((meeting.resultWith outcomes (.business node.msg.payload), after),
          ⟨⟨(meeting.after outcomes (.business node.msg.payload)).stored env, [], now⟩, outcomes⟩)) ∧
      (meeting.WaitStored outcomes node.msg.payload ↔ outcomes.KeepWait meeting) := by
  have brings : Brings node.msg.payload session session.kafkaData.payloadType
      (.business node.msg.payload) := business ▸ .business
  obtain ⟨now, visits⟩ :=
    getResultOfWait_faulty nonempty keyed data brings start inTime meeting back errorText
  refine ⟨⟨now, ?_⟩, waitStored_iff outcomes meeting node.msg.payload⟩
  -- a business capture hands nobody over
  have nobody : meeting.handed outcomes (.business node.msg.payload) = [] := by
    unfold Meeting.handed
    cases outcomes.get <;> cases meeting <;> rfl
  rw [visits, nobody]
  rfl

/-- The first capture of a picture waits in the record. -/
theorem wait_means_stored_captureAgain :
    (Meeting.waiting [captureMessage]).WaitStored noFailures captureMessage :=
  (wait_means_stored (by decide) rfl (rfl : (captureArrival 0).session.kafkaData.data = some captureNode)
    rfl 0 (by decide : refusedTime [] < redlockAcquireTimeout) (.waiting [captureMessage])
    captureRecord_back (noFailures_errorText meetingEnv)).2.mpr rfl

/-- The `SET` times out and is not performed: the session waits, and there is no record. -/
theorem wait_not_stored :
    ((getResultOfWait meetingEnv).run (captureArrival 0).session).handled (FaultyStore.answer "k")
        ⟨⟨none, [], 0⟩, ⟨.answered, .failed .timeout, .integer 1⟩⟩ =
      .ret ((.wait, (captureArrival 0).session),
        ⟨⟨none, [], 0⟩, ⟨.answered, .failed .timeout, .integer 1⟩⟩) ∧
    ¬ (Meeting.waiting []).WaitStored ⟨.answered, .failed .timeout, .integer 1⟩ captureMessage := by
  refine ⟨rfl, fun stored => ?_⟩
  obtain ⟨earlier, same, after⟩ := stored rfl
  cases same
  cases after

end XBusiness
