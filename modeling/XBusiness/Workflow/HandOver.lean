import XBusiness.Lib.Closing
import XBusiness.Workflow.Progress

/-! # How a thread hands its session over

A thread that works on a session makes its calls, hands the session over with one of them, and returns.
The other sessions that it pushes are new ones.

* `HandsOver` — a function is of this shape, whatever it is answered.
* `moduleProcess_handsOver` / `requestCallback_handsOver` — so are `Process` of every module and every
  callback.
* `handle_closes` — `handle` pushes nothing but the session of its message.
-/

namespace XBusiness

open Interaction

namespace FlowCall

/-- The session that a call hands over to the pool, to the HTTP client or to its end. -/
def handsOver : FlowCall → Option Session
  | pushMsg session => some session
  | sendRequest session _ _ => some session
  | final session _ => some session
  | _ => none

/-- The call hands over the session that its thread works on. -/
def passesOn (own : Option Nat) (request : FlowCall) : Prop :=
  ∃ session, request.handsOver = some session ∧ own = some session.ref

/-- The call is about other sessions, if about any; what is pushed is a new one. -/
def spares (env : Env) (own : Option Nat) : FlowCall → Prop
  | pushMsg session => own ≠ some session.ref ∧ Created env session
  | destroy session => own ≠ some session.ref
  | sendRequest _ _ _ => False
  | final _ _ => False
  | _ => True

/-- A new session gets an identity of its own. -/
def distinct (own : Option Nat) : (request : FlowCall) → request.Answer → Prop
  | makeShared _, ref => own ≠ some ref
  | _, _ => True

theorem distinct_none (request : FlowCall) (answer : request.Answer) : request.distinct none answer := by
  cases request with
  | makeShared kafkaData => exact (Option.some_ne_none _).symm
  | _ => trivial

theorem spares_of_outside {env : Env} {own : Option Nat} (request : FlowCall) (outside : request.isOutside) :
    request.spares env own := by
  cases request with
  | storeDone _ | makeShared _ | pushMsg _ | sendRequest _ _ _ | final _ _ | destroy _ => exact outside.elim
  | _ => trivial

theorem spares_of_quiet {env : Env} {own : Option Nat} (request : FlowCall) (quiet : request.isQuiet) :
    request.spares env own :=
  spares_of_outside request (isOutside_of_quiet request quiet)

end FlowCall

/-- The function is about other sessions until it hands its own one over and returns. -/
abbrev HandsOver {α : Type} (env : Env) (ref : Nat) (program : Flow α) (object : Session) : Prop :=
  (program.run object).Closes (FlowCall.distinct (some ref)) (FlowCall.spares env (some ref))
    (FlowCall.passesOn (some ref))

/-- The function leaves its own session to its caller. -/
abbrev Spares {α : Type} (env : Env) (ref : Nat) (program : Flow α) : Prop :=
  ∀ object, (program.run object).MakesWhere (FlowCall.distinct (some ref)) (FlowCall.spares env (some ref))
    fun _ => True

section HandsOver

variable {α β τ : Type} {env : Env} {ref : Nat} {object : Session} {observe : Session → τ}
  {kind : FlowCall → Prop}

theorem handsOver_get {continuation : Session → Flow β}
    (handsOver : HandsOver env ref (continuation object) object) :
    HandsOver env ref (MonadState.get >>= continuation) object :=
  handsOver

/-! ## The ends of a function -/

theorem pushMsg_handsOver (own : Own ref object.itinerary) : HandsOver env ref pushMsg object :=
  .inl ⟨⟨object, rfl, congrArg some own.same.symm⟩, fun _ => ⟨_, rfl⟩⟩

theorem final_handsOver (err : ErrCode) (own : Own ref object.itinerary) :
    HandsOver env ref (final err) object := by
  have unfinished : object.isFinished = false := own.unfinished
  rw [HandsOver, final_run, unfinished]
  exact .inl ⟨⟨object, rfl, congrArg some own.same.symm⟩, fun _ => ⟨_, rfl⟩⟩

theorem pushOrFinal_handsOver (own : Own ref object.itinerary) : HandsOver env ref pushOrFinal object := by
  apply handsOver_get
  split
  · exact pushMsg_handsOver own
  · exact final_handsOver .success own

end HandsOver

/-! ## `handleFromRedis` and the picture wait -/

section Spares

variable {α β : Type} {env : Env} {ref : Nat}

theorem Spares.bind {program : Flow α} {continuation : α → Flow β} (spares : Spares env ref program)
    (sparesRest : ∀ value, Spares env ref (continuation value)) : Spares env ref (program >>= continuation) :=
  fun object => (spares object).bind fun result _ => sparesRest result.1 result.2

theorem spares_pure {value : α} : Spares env ref (pure value : Flow α) := fun _ => trivial

/-- A new session is pushed for a waiting payload, or destroyed. -/
theorem handleFromRedis_spares (env : Env) (payload picResult : String) :
    (handleFromRedis env payload picResult).MakesWhere (FlowCall.distinct (some ref))
      (FlowCall.spares env (some ref)) fun _ => True := by
  unfold handleFromRedis
  cases parsed : parseMessage env none payload with
  | error fault => trivial
  | ok result =>
    cases result with
    | none => trivial
    | some kafkaData =>
      refine ⟨trivial, fun made fresh => ?_⟩
      cases read : (getPersonResult env picResult).run (.make env made kafkaData) with
      | error fault =>
        show (raiseFault _ >>= _ : FlowProg Bool).MakesWhere _ _ _
        rw [read]
        trivial
      | ok result =>
        obtain ⟨accepted, session⟩ := result
        have same : session.ref = made :=
          congrArg (·.entry.1) (parseTraceAnswer_preserves env _ picResult _ _ _ read)
        have other : some ref ≠ some session.ref := same ▸ fresh
        show (raiseFault _ >>= _ : FlowProg Bool).MakesWhere _ _ _
        rw [read]
        cases accepted with
        | true => exact ⟨⟨other, .fromRedis made payload picResult kafkaData session parsed read⟩, fun _ _ => trivial⟩
        | false => exact ⟨other, fun _ _ => trivial⟩

theorem releaseWaiting_spares (env : Env) (traceResult : String) (waiting : List Json) :
    (releaseWaiting env traceResult waiting).MakesWhere (FlowCall.distinct (some ref))
      (FlowCall.spares env (some ref)) fun _ => True := by
  induction waiting with
  | nil => trivial
  | cons element rest inductionHypothesis =>
    cases element with
    | string payload => exact (handleFromRedis_spares env payload traceResult).bind fun _ _ => inductionHypothesis
    | _ => exact inductionHypothesis

theorem waitPlan_spares (env : Env) (key traceResult : String) (plan : WaitPlan) :
    (plan.run env key traceResult).MakesWhere (FlowCall.distinct (some ref)) (FlowCall.spares env (some ref))
      fun _ => True := by
  have writes : ∀ record, (putRecord env key record).MakesWhere (FlowCall.distinct (some ref))
      (FlowCall.spares env (some ref)) fun _ => True := fun _ => ⟨trivial, fun _ _ => trivial⟩
  cases plan with
  | keeps => trivial
  | writes record => exact writes record
  | releases waiting => exact (releaseWaiting_spares env traceResult waiting).bind fun _ _ => writes _

theorem getResultOfWait_spares (env : Env) : Spares env ref (getResultOfWait env) := by
  intro object
  apply getResultOfWait_makesWhere
  · exact ⟨trivial, trivial, trivial, trivial⟩
  · trivial
  · exact fun _ _ _ _ plan _ _ _ => ⟨waitPlan_spares env _ _ plan, trivial⟩
  · trivial

end Spares

/-! ## The modules and the callbacks -/

section Modules

variable {env : Env} {ref : Nat} {object : Session}

/-- With each of the four endings the thread hands its session over. -/
theorem ending_handsOver (ending : Ending) (own : Own ref object.itinerary) :
    HandsOver env ref ending.run object := by
  cases ending with
  | passes => exact pushOrFinal_handsOver own
  | again => exact pushMsg_handsOver own
  | fails err => exact final_handsOver err own
  | asks procType request => exact .inl ⟨⟨_, rfl, congrArg some own.same.symm⟩, fun _ => ⟨_, rfl⟩⟩

theorem moduleBody_spares (env : Env) (procType : ProcType) (object : Session) :
    ((moduleBody env procType).run object).MakesWhere (FlowCall.distinct (some ref))
      (FlowCall.spares env (some ref)) fun result => ModuleDoes env object procType result.1 result.2 := by
  by_cases wait : procType = .picWait
  · subst wait
    have spares : Spares env ref (moduleBody env .picWait) := by
      apply (getResultOfWait_spares env).bind
      intro result
      cases result <;> exact spares_pure
    exact (spares object).and_makes (moduleBody_does env .picWait object)
  · apply (moduleBody_does env procType object).expecting
    exact fun request calls => FlowCall.spares_of_quiet request (ProcType.quiet_of_calls wait request calls)

theorem moduleProcess_handsOver (procType : ProcType) (own : Own ref object.itinerary) :
    HandsOver env ref (moduleProcess env procType) object := by
  rw [moduleProcess_eq]
  apply (moduleBody_spares env procType object).closes
  rintro ⟨ending, after⟩ does
  exact ending_handsOver ending (own.of_standing (standing_of_bearing does.bearing))

theorem sessionProcess_handsOver (own : Own ref object.itinerary) :
    HandsOver env ref (sessionProcess env) object := by
  apply handsOver_get
  split
  · exact final_handsOver .procTerminate own
  · exact moduleProcess_handsOver _ ⟨own.same, own.unfinished⟩

theorem requestCallback_handsOver (procType : ProcType) (response : Option HttpResponse)
    (own : Own ref object.itinerary) :
    HandsOver env ref (requestCallback env procType response) object := by
  unfold HandsOver
  rcases requestCallback_does env procType response object with ⟨fault, ran⟩ | ⟨ending, after, does, ran⟩
  · rw [ran]
    trivial
  · rw [ran]
    exact ending_handsOver ending (own.of_standing does.standing)

end Modules

/-- `handle` pushes the session that it makes for its message. -/
theorem handle_closes (env : Env) (data : PmPtr) :
    (handle env data).Closes (FlowCall.distinct none) (FlowCall.spares env none) (FlowCall.passesOn none) := by
  unfold handle
  cases parsed : parseMessage env (some data) data.msg.payload with
  | error fault => trivial
  | ok result =>
    cases result with
    | none => exact .inr ⟨trivial, fun _ _ => trivial⟩
    | some kafkaData =>
      refine .inr ⟨trivial, fun made _ => .inr ⟨⟨(Option.some_ne_none _).symm, ?_⟩, fun _ _ => trivial⟩⟩
      exact .fromKafka made data kafkaData parsed

end XBusiness
