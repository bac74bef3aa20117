import XBusiness.Lib.Closing
import XBusiness.Workflow.Itinerary

/-! # What a picture wait does

A session in the picture wait takes the lock of its picture and reads the value of the key.  The value
decides what it does with the record before it gives the lock back.

* `WaitPlan` — it leaves the record, writes one, or releases the payloads that wait in it.
* `ValueDoes` / `handleValue_does` — the plan for each value, the result and what is left of the session.
* `getResultOfWait_run` — the calls around it.
* `getResultOfWait_makesWhere` — the rule for the calls of a picture wait, and the kinds of them in its terms.
-/

namespace XBusiness

open Interaction
open StateProg (Frames)
open SessionFn (Preserves)

/-! ## Plans -/

/-- What is left of a reply in `data` of `GetValueByKey`. -/
def RedisReply.value : RedisReply → String
  | string value => value
  | _ => ""

inductive WaitPlan where
  | keeps
  | writes (record : Json)
  | releases (waiting : List Json)

def putRecord (env : Env) (key : String) (record : Json) : FlowProg Unit := do
  let _ ← setAdvancedKeyValue key (env.text.toStyledString record) pictureWaitCacheTimeout false

/-- The payloads that wait become sessions of their own, and the answer takes their place in the record. -/
def WaitPlan.run (env : Env) (key traceResult : String) : WaitPlan → FlowProg Unit
  | keeps => return ()
  | writes record => putRecord env key record
  | releases waiting => do
    releaseWaiting env traceResult waiting
    putRecord env key (traceRecord PayloadType.trace traceResult)

/-- The value is the text of an object with this type. -/
def ReadsAs (env : Env) (value : String) (dataJson : Json) (valueType : Int) : Prop :=
  env.text.reader value = .ok (some dataJson) ∧ dataJson.member? "ptype" Json.int? = .ok (some valueType)

/-- The plan for the value of the key, the result, and what is left of the session, for a message with this
    payload and this type. -/
inductive ValueDoes (env : Env) (session : Session) (payload : String) (ptype : Int) :
    String → WaitPlan → PictureWaitResult → Session → Prop where
  | first (business : ptype = PayloadType.business) :
      ValueDoes env session payload ptype "" (.writes (businessRecord ptype [payload])) .wait session
  | answers (other : ptype ≠ PayloadType.business) :
      ValueDoes env session payload ptype "" (.writes (traceRecord ptype session.traceSpaceResult)) .pass session
  | ignores (value : String) : ValueDoes env session payload ptype value .keeps .pass session
  | reads (value body : String) (dataJson : Json) (accepted : Bool) (after : Session)
      (written : value ≠ "") (business : ptype = PayloadType.business)
      (record : ReadsAs env value dataJson PayloadType.trace)
      (answer : dataJson.member? "trace_result" Json.string? = .ok (some body))
      (ran : (getPersonResult env body).run session = .ok (accepted, after)) :
      ValueDoes env session payload ptype value .keeps .pass after
  | joins (value : String) (dataJson list : Json) (written : value ≠ "") (business : ptype = PayloadType.business)
      (record : ReadsAs env value dataJson PayloadType.business)
      (appended : (do (← dataJson.member "message_list").append (.string payload)) = .ok list) :
      ValueDoes env session payload ptype value (.writes (dataJson.set "message_list" list)) .wait session
  | releases (value : String) (dataJson : Json) (waiting : List Json) (written : value ≠ "")
      (trace : ptype = PayloadType.trace) (record : ReadsAs env value dataJson PayloadType.business)
      (listed : messageList dataJson = .ok waiting) :
      ValueDoes env session payload ptype value (.releases waiting) .pass session

/-- The two functions for a key with a value and without one. -/
def handleValue (env : Env) (key payload : String) (ptype : Int) (value : String) : Flow PictureWaitResult :=
  if value = "" then handleWithoutKey env key payload ptype else handleWithKey env key value payload ptype

section Values

variable {env : Env} {key payload : String} {ptype : Int} {session : Session}

theorem waitCriticalSection_run :
    (waitCriticalSection env key payload ptype).run session =
      .call (.redisGet key) fun reply => (handleValue env key payload ptype reply.value).run session := by
  show Prog.call _ _ = _
  congr 1
  funext reply
  -- `GetValueByKey` returns whether there is a value, and the empty one counts as none
  have found : ∀ value : String, (decide (value ≠ "") = false ∨ value = "") ↔ value = "" := by simp
  have branches : ∀ value : String,
      (if decide (value ≠ "") = false ∨ value = "" then handleWithoutKey env key payload ptype
        else handleWithKey env key value payload ptype) = handleValue env key payload ptype value := by
    intro value
    simp only [found, handleValue]
  cases reply with
  | string value => exact congrFun (branches value) session
  | _ => exact congrFun (branches "") session

/-- The function ends with an exception, or does one of the plans. -/
abbrev DoesPlan (env : Env) (key payload : String) (ptype : Int) (session : Session) (value : String)
    (function : Flow PictureWaitResult) : Prop :=
  (∃ fault, function.run session = .raise fault) ∨
    ∃ plan result after, ValueDoes env session payload ptype value plan result after ∧
      function.run session = plan.run env key session.traceSpaceResult >>= fun _ => .ret (result, after)

theorem ValueDoes.does {value : String} {plan : WaitPlan} {result : PictureWaitResult} {after : Session}
    {function : Flow PictureWaitResult} (does : ValueDoes env session payload ptype value plan result after)
    (ran : function.run session = plan.run env key session.traceSpaceResult >>= fun _ => .ret (result, after)) :
    DoesPlan env key payload ptype session value function :=
  .inr ⟨plan, result, after, does, ran⟩

/-- One case for each way through `handleWithKey`. -/
theorem handleWithKey_does {value : String} (written : value ≠ "") :
    DoesPlan env key payload ptype session value (handleWithKey env key value payload ptype) := by
  have ignored : DoesPlan env key payload ptype session value (pure .pass) := (ValueDoes.ignores value).does rfl
  unfold handleWithKey
  cases read : env.text.reader value with
  | error fault => exact .inl ⟨fault, rfl⟩
  | ok dataJson =>
    rw [Flow.ofExcept_ok, pure_bind]
    cases dataJson with
    | none => exact ignored
    | some dataJson =>
      dsimp only
      cases type : dataJson.member? "ptype" Json.int? with
      | error fault => exact .inl ⟨fault, rfl⟩
      | ok valueType =>
        rw [Flow.ofExcept_ok, pure_bind]
        cases valueType with
        | none => exact ignored
        | some valueType =>
          dsimp only
          split
          · -- a trace answer is read into the own session
            next isTrace =>
            split
            · next business =>
              cases answer : dataJson.member? "trace_result" Json.string? with
              | error fault => exact .inl ⟨fault, rfl⟩
              | ok body =>
                rw [Flow.ofExcept_ok, pure_bind]
                cases body with
                | none => exact ignored
                | some body =>
                  unfold DoesPlan
                  dsimp only
                  rw [StateT.run_bind]
                  cases ran : (getPersonResult env body).run session with
                  | error fault =>
                    rw [Flow.run_ofSessionFn_error ran]
                    exact .inl ⟨fault, rfl⟩
                  | ok result =>
                    rw [Flow.run_ofSessionFn_ok ran]
                    right
                    refine ⟨_, _, _, .reads value body dataJson result.1 result.2 written business ⟨read, ?_⟩
                      answer ran, rfl⟩
                    rw [type, isTrace]
            · exact ignored
          · split
            · -- payloads wait: another one joins them, or all are released
              next isBusiness =>
              have record : ReadsAs env value dataJson PayloadType.business := ⟨read, by rw [type, isBusiness]⟩
              split
              · next business =>
                cases appended : (do (← dataJson.member "message_list").append (.string payload)) with
                | error fault => exact .inl ⟨fault, rfl⟩
                | ok list => exact (ValueDoes.joins value dataJson list written business record appended).does rfl
              · split
                · next trace =>
                  cases listed : messageList dataJson with
                  | error fault => exact .inl ⟨fault, rfl⟩
                  | ok waiting =>
                    apply (ValueDoes.releases value dataJson waiting written trace record listed).does
                    rw [trace, Flow.ofExcept_ok, pure_bind, StateT.run_bind, StateT.run_get, pure_bind,
                      run_ofProg_bind, WaitPlan.run, bind_assoc]
                    rfl
                · exact ignored
            · exact ignored

theorem handleValue_does (value : String) :
    DoesPlan env key payload ptype session value (handleValue env key payload ptype value) := by
  unfold handleValue
  split
  · next empty =>
    subst empty
    unfold handleWithoutKey
    split
    · next business => exact (ValueDoes.first business).does rfl
    · next other => exact (ValueDoes.answers other).does rfl
  · next written => exact handleWithKey_does written

end Values

/-! ## The whole of `getResultOfWait` -/

theorem getResultOfWait_run (env : Env) (session : Session) :
    (getResultOfWait env).run session =
      match session.kafkaData.data with
      | none => .raise .undefined
      | some data =>
        let key := session.kafkaData.getPicWaitKey
        if key = "" then .ret (.pass, session)
        else redLock ("lock_" ++ key) session.uid redlockAcquireTimeout redlockExpireTimeout >>= fun locked =>
          if locked = true then
            (waitCriticalSection env key data.msg.payload session.kafkaData.payloadType).run session >>=
              fun result => redUnlock ("lock_" ++ key) session.uid >>= fun _ => .ret result
          else .ret (.pass, session) := by
  unfold getResultOfWait
  rw [StateT.run_bind, StateT.run_get, pure_bind]
  cases session.kafkaData.data with
  | none => rfl
  | some data =>
    dsimp only
    split
    · rfl
    · rw [run_ofProg_bind]
      congr 1
      funext locked
      split
      · rw [StateT.run_bind]
        rfl
      · rfl

/-! ## The calls of a picture wait -/

/-- The calls of a picture wait that are about its lock, for the session with this id. -/
structure OwnLockCalls (kind : FlowCall → Prop) (lockKey uid : String) : Prop where
  lock : kind (.redisSet lockKey uid redlockExpireTimeout true)
  sleep : kind (.sleepFor lockCheckPeriod)
  now : kind .now
  unlock : kind (.redisUnlock lockKey uid)

section Rules

variable {expected : (request : FlowCall) → request.Answer → Prop} {kind : FlowCall → Prop}
variable {env : Env} {session : Session} {post : PictureWaitResult × Session → Prop}

theorem waitCriticalSection_makesWhere {key payload : String} {ptype : Int} (get : kind (.redisGet key))
    (plans : ∀ reply, expected (.redisGet key) reply → ∀ plan result after,
      ValueDoes env session payload ptype reply.value plan result after →
        (plan.run env key session.traceSpaceResult).MakesWhere expected kind (fun _ => True) ∧
          post (result, after)) :
    ((waitCriticalSection env key payload ptype).run session).MakesWhere expected kind post := by
  rw [waitCriticalSection_run]
  refine ⟨get, fun reply wanted => ?_⟩
  dsimp only
  have does : DoesPlan env key payload ptype session reply.value (handleValue env key payload ptype reply.value) :=
    handleValue_does reply.value
  rcases does with ⟨fault, ran⟩ | ⟨plan, result, after, does, ran⟩
  · rw [ran]
    trivial
  · obtain ⟨makes, holds⟩ := plans reply wanted plan result after does
    rw [ran]
    exact makes.bind fun _ _ => holds

/-- What is to be shown of a picture wait: its calls for the lock, and its plan for every reply that is to be
    expected. -/
theorem getResultOfWait_makesWhere
    (locks : OwnLockCalls kind ("lock_" ++ session.kafkaData.getPicWaitKey) session.uid)
    (get : kind (.redisGet session.kafkaData.getPicWaitKey))
    (plans : ∀ data, session.kafkaData.data = some data →
      ∀ reply, expected (.redisGet session.kafkaData.getPicWaitKey) reply → ∀ plan result after,
        ValueDoes env session data.msg.payload session.kafkaData.payloadType reply.value plan result after →
          (plan.run env session.kafkaData.getPicWaitKey session.traceSpaceResult).MakesWhere expected kind
            (fun _ => True) ∧ post (result, after))
    (passes : post (.pass, session)) :
    ((getResultOfWait env).run session).MakesWhere expected kind post := by
  rw [getResultOfWait_run]
  cases node : session.kafkaData.data with
  | none => trivial
  | some data =>
    dsimp only
    split
    · exact passes
    · -- the lock, the section inside it, and the unlock after the result is known
      apply Prog.MakesWhere.bind
      · exact (redLock_makes locks.lock locks.sleep locks.now).expecting fun _ ofKind => ofKind
      · intro locked _
        split
        · apply (waitCriticalSection_makesWhere get (plans data node)).bind
          intro result holds
          exact ⟨locks.unlock, fun _ _ => holds⟩
        · exact passes

end Rules

/-! ### The kinds of calls -/

theorem raiseFault_makes {α : Type} {kind : FlowCall → Prop} (value : Except Fault α) :
    (raiseFault value).Makes kind fun _ => True := by
  cases value <;> trivial

theorem handleFromRedis_makes (env : Env) (payload body : String) :
    (handleFromRedis env payload body).Makes FlowCall.isSessionCall fun _ => True := by
  apply Prog.Makes.bind (raiseFault_makes _)
  intro parsed _
  cases parsed with
  | none => trivial
  | some kafkaData =>
    refine ⟨trivial, fun ref => ?_⟩
    apply Prog.Makes.bind (raiseFault_makes _)
    rintro ⟨accepted, session⟩ _
    cases accepted <;> exact ⟨trivial, fun _ => trivial⟩

theorem releaseWaiting_makes (env : Env) (traceResult : String) (waiting : List Json) :
    (releaseWaiting env traceResult waiting).Makes FlowCall.isSessionCall fun _ => True := by
  induction waiting with
  | nil => trivial
  | cons head rest inductionHypothesis =>
    cases head with
    | string payload =>
      exact (handleFromRedis_makes env payload traceResult).bind fun _ _ => inductionHypothesis
    | _ => exact inductionHypothesis

/-- The calls of a picture wait that are about its record, and those about the sessions it releases. -/
structure WaitCalls (kind : FlowCall → Prop) (key : String) : Prop where
  get : kind (.redisGet key)
  store : ∀ data milliseconds, kind (.redisSet key data milliseconds false)
  session : ∀ request, request.isSessionCall → kind request

/-- The calls of a picture wait that are about its lock. -/
structure LockCalls (kind : FlowCall → Prop) (lockKey : String) : Prop where
  lock : ∀ data milliseconds, kind (.redisSet lockKey data milliseconds true)
  sleep : kind (.sleepFor lockCheckPeriod)
  now : kind .now
  unlock : ∀ data, kind (.redisUnlock lockKey data)

/-- The same, with the sessions that are released. -/
structure ReleaseCalls (env : Env) (kind : FlowCall → Prop) (key : String) : Prop where
  get : kind (.redisGet key)
  store : ∀ data milliseconds, kind (.redisSet key data milliseconds false)
  released : ∀ traceResult waiting, (releaseWaiting env traceResult waiting).Makes kind fun _ => True

theorem WaitCalls.releasing {kind : FlowCall → Prop} {key : String} (calls : WaitCalls kind key) (env : Env) :
    ReleaseCalls env kind key where
  get := calls.get
  store := calls.store
  released traceResult waiting := (releaseWaiting_makes env traceResult waiting).mono calls.session

theorem LockCalls.own {kind : FlowCall → Prop} {lockKey : String} (locks : LockCalls kind lockKey) (uid : String) :
    OwnLockCalls kind lockKey uid where
  lock := locks.lock _ _
  sleep := locks.sleep
  now := locks.now
  unlock := locks.unlock _

/-- A plan makes the calls for its record and for the sessions that it releases. -/
theorem ReleaseCalls.plan {env : Env} {kind : FlowCall → Prop} {key : String} (calls : ReleaseCalls env kind key)
    (plan : WaitPlan) (traceResult : String) : (plan.run env key traceResult).Makes kind fun _ => True := by
  cases plan with
  | keeps => trivial
  | writes record => exact ⟨calls.store _ _, fun _ => trivial⟩
  | releases waiting =>
    apply (calls.released traceResult waiting).bind
    exact fun _ _ => ⟨calls.store _ _, fun _ => trivial⟩

section WaitFrames

variable {τ : Type} {observe : Session → τ} {kind : FlowCall → Prop} {env : Env}

/-- What is observed of a session is changed by the results of a trace answer alone. -/
theorem ValueDoes.observes {payload value : String} {ptype : Int} {plan : WaitPlan} {result : PictureWaitResult}
    {session after : Session} (does : ValueDoes env session payload ptype value plan result after)
    (own : ∀ body, (getPersonResult env body).Preserves observe) : observe after = observe session := by
  cases does with
  | reads _ body _ accepted after _ _ _ _ ran => exact own body session accepted after ran
  | first | answers | ignores | joins | releases => rfl

theorem waitCriticalSection_frames {key payload : String} {ptype : Int} (calls : WaitCalls kind key)
    (own : ∀ body, (getPersonResult env body).Preserves observe) :
    Frames kind observe (waitCriticalSection env key payload ptype) := by
  intro session
  have makes : ((waitCriticalSection env key payload ptype).run session).MakesWhere (fun _ _ => True) kind
      fun result => observe result.2 = observe session := by
    apply waitCriticalSection_makesWhere calls.get
    intro reply _ plan result after does
    exact ⟨((calls.releasing env).plan plan _).expecting fun _ ofKind => ofKind, does.observes own⟩
  exact makes.makes fun _ _ => trivial

theorem getResultOfWait_makes_of {session : Session}
    (calls : ReleaseCalls env kind session.kafkaData.getPicWaitKey)
    (locks : OwnLockCalls kind ("lock_" ++ session.kafkaData.getPicWaitKey) session.uid)
    (own : ∀ body, (getPersonResult env body).Preserves observe) :
    ((getResultOfWait env).run session).Makes kind fun result => observe result.2 = observe session := by
  have makes : ((getResultOfWait env).run session).MakesWhere (fun _ _ => True) kind
      fun result => observe result.2 = observe session := by
    apply getResultOfWait_makesWhere locks calls.get
    · intro data _ reply _ plan result after does
      exact ⟨(calls.plan plan _).expecting fun _ ofKind => ofKind, does.observes own⟩
    · rfl
  exact makes.makes fun _ _ => trivial

theorem getResultOfWait_makes {session : Session} (calls : WaitCalls kind session.kafkaData.getPicWaitKey)
    (locks : LockCalls kind ("lock_" ++ session.kafkaData.getPicWaitKey))
    (own : ∀ body, (getPersonResult env body).Preserves observe) :
    ((getResultOfWait env).run session).Makes kind fun result => observe result.2 = observe session :=
  getResultOfWait_makes_of (calls.releasing env) (locks.own session.uid) own

end WaitFrames

/-- The function fills in results of its session, whatever it does to other sessions. -/
abbrev FlowFillsOwn {α : Type} (program : Flow α) : Prop :=
  Frames (fun _ => True) Session.unfilled program

theorem getResultOfWait_fills (env : Env) : FlowFillsOwn (getResultOfWait env) := by
  intro session
  apply getResultOfWait_makes
  · exact ⟨trivial, fun _ _ => trivial, fun _ _ => trivial⟩
  · exact ⟨fun _ _ => trivial, trivial, trivial, fun _ => trivial⟩
  · exact parseTraceAnswer_fills env _

end XBusiness
