import XBusiness.Workflow.Alike
import XBusiness.Workflow.Ownership

/-! # Sessions that differ in where their data comes from

A session made from Kafka and one made from the same payload in Redis have different data
pointers and sources.  The modules after the picture wait look at neither: run on two such
sessions they make the same calls, but for the sessions they pass on and the times they write.

* `Twins` — the sessions, and `Together` — which calls of theirs stand side by side.
* `twinKinship` — twins are kin.
* `course_alike` — the whole course of the session, from module to module.
-/

namespace XBusiness

open Interaction

/-- The data with another source. -/
def BaseData.relink (self : BaseData) (src : Source) (data : Option PmPtr) : BaseData :=
  { self with src := src, data := data }

/-- The session as another object, with data from another source. -/
def Session.relink (session : Session) (ref : Nat) (src : Source) (data : Option PmPtr) : Session :=
  { session with ref := ref, kafkaData := session.kafkaData.relink src data }

/-- The sessions differ in where their data comes from, and have the picture wait behind them. -/
structure Twins (first second : Session) : Prop where
  relinked : ∃ ref src data, second = first.relink ref src data
  waited : ProcType.picWait ∉ first.procChain

/-- Calls side by side: the same call with the same answer, two readings of the clock, the same
    update at two times, and the same step with twins. -/
inductive Together : Coupling FlowCall FlowCall.Answer where
  | plain (request : FlowCall) (isPlain : request.isPlain) : Together request request Eq
  | time : Together .time .time fun _ _ => True
  | updateOne (collection : String) (filter : Filter) (set other : Document)
      (alike : ClockAlike set other) :
      Together (.updateOne collection filter set) (.updateOne collection filter other) Eq
  | pushMsg (session other : Session) (twins : Twins session other) :
      Together (.pushMsg session) (.pushMsg other) Eq
  | sendRequest (session other : Session) (procType : ProcType) (request : RequestInfo)
      (later : procType ≠ .picWait) (twins : Twins session other) :
      Together (.sendRequest session procType request) (.sendRequest other procType request) Eq
  | final (session other : Session) (err : ErrCode) (twins : Twins session other) :
      Together (.final session err) (.final other err) Eq

/-! ## Twins are kin -/

theorem vary_contents (session : Session) (ref : Nat) (src : Source) (data : Option PmPtr) :
    session.vary { session.contents with ref := ref, src := src, data := data } = session.relink ref src data :=
  rfl

/-- The contents of a twin: the members without a constructor are the same. -/
structure TwinContents (session : Session) (contents : Contents) : Prop where
  timestamp : contents.timestamp = session.kafkaData.ipc.timestamp
  similar : contents.similar = session.personResult.similar
  saved : contents.saved = session.saveMongoData
  waited : ProcType.picWait ∉ session.procChain

theorem TwinContents.twins {session : Session} {contents : Contents} (twin : TwinContents session contents) :
    Twins session (session.vary contents) := by
  refine ⟨⟨contents.ref, contents.src, contents.data, ?_⟩, twin.waited⟩
  obtain ⟨ref, src, data, timestamp, similar, saved⟩ := contents
  obtain ⟨rfl, rfl, rfl, _⟩ := twin
  rfl

/-- The kinship of twins. -/
def twinKinship : Kinship where
  coupling := Together
  allowed := TwinContents
  reads _ := True
  neutral kept twin := by
    have same := congrArg Session.Marks.contents kept.marks
    exact ⟨twin.timestamp.trans (congrArg Contents.timestamp same).symm,
      twin.similar.trans (congrArg Contents.similar same).symm,
      twin.saved.trans (congrArg Contents.saved same).symm, kept.waited twin.waited⟩
  saved _ twin := ⟨twin.timestamp, twin.similar, rfl, twin.waited⟩
  scored _ twin same _ := ⟨twin.timestamp, (congrArg _ twin.similar).trans same.symm, twin.saved, twin.waited⟩
  plain isPlain := .plain _ isPlain
  time := .time
  updateOne collection filter _ _ alike := .updateOne collection filter _ _ alike
  pushMsg twin := ⟨Eq, .pushMsg _ _ twin.twins⟩
  sendRequest request later twin := ⟨Eq, .sendRequest _ _ _ request later twin.twins⟩
  final err twin := .final _ _ err twin.twins

theorem kin_iff_twins {session other : Session} : twinKinship.kin session other ↔ Twins session other := by
  constructor
  · rintro ⟨contents, rfl, twin⟩
    exact TwinContents.twins twin
  · rintro ⟨⟨ref, src, data, rfl⟩, waited⟩
    exact ⟨_, (vary_contents session ref src data).symm, ⟨rfl, rfl, rfl, waited⟩⟩

theorem sessionProcess_twins (env : Env) : Alike twinKinship (sessionProcess env) (sessionProcess env) := by
  apply alike_at
  intro session contents twin
  apply sessionProcess_at env twin
  · exact fun isWait => twin.waited (List.mem_of_head? isWait)
  · exact fun _ _ => ⟨fun _ _ => twin.timestamp, fun _ _ => twin.timestamp, fun _ _ => twin.similar⟩

theorem requestCallback_twins (env : Env) {procType : ProcType} (later : procType ≠ .picWait)
    (response : Option HttpResponse) :
    Alike twinKinship (requestCallback env procType response) (requestCallback env procType response) :=
  requestCallback_alike env later fun _ _ _ _ _ _ _ => trivial

/-! ## The course of a session -/

/-- The calls by which a session is passed on. -/
def Pending.watch (pending : Pending) : FlowCall → Pending
  | .pushMsg session => queued session
  | .sendRequest session procType request => requested session procType request
  | .final _ _ => ended
  | _ => pending

/-- The next steps of the session, with the responses to its requests: each step is `Process` of
    the session or the callback of a request. -/
def course (env : Env) (respond : Nat → RequestInfo → Option HttpResponse) :
    Nat → Pending → FlowProg Pending
  | 0, pending => return pending
  | _ + 1, .ended => return .ended
  | steps + 1, .queued session => do
    let (_, pending) ← ((sessionProcess env).run session).observed Pending.watch .ended
    course env respond steps pending
  | steps + 1, .requested session procType request => do
    let (_, pending) ← ((requestCallback env procType (respond steps request)).run session).observed
      Pending.watch .ended
    course env respond steps pending

/-- The pool has twins, at the same point. -/
inductive PendingTwins : Pending → Pending → Prop where
  | queued (session other : Session) (twins : Twins session other) :
      PendingTwins (.queued session) (.queued other)
  | requested (session other : Session) (procType : ProcType) (request : RequestInfo)
      (later : procType ≠ .picWait) (twins : Twins session other) :
      PendingTwins (.requested session procType request) (.requested other procType request)
  | ended : PendingTwins .ended .ended

theorem PendingTwins.watch {pending other : Pending} {first second : FlowCall}
    {answers : first.Answer → second.Answer → Prop} (together : Together first second answers)
    (twins : PendingTwins pending other) : PendingTwins (pending.watch first) (other.watch second) := by
  cases together with
  | plain _ isPlain => cases first <;> first | exact twins | cases isPlain
  | time => exact twins
  | updateOne => exact twins
  | pushMsg session other same => exact .queued session other same
  | sendRequest session other procType request later same =>
    exact .requested session other procType request later same
  | final => exact .ended

theorem observed_twins {α : Type} {program : Flow α} (alike : Alike twinKinship program program)
    {session other : Session} (twins : Twins session other) :
    Prog.Coupled Together (fun result resultSecond => PendingTwins result.2 resultSecond.2)
      ((program.run session).observed Pending.watch .ended)
      ((program.run other).observed Pending.watch .ended) := by
  have coupled := alike session other (kin_iff_twins.mpr twins)
  refine (Prog.Coupled.observed coupled ?_ PendingTwins.ended).mono fun _ _ kept => kept.2
  intro pending otherPending first second answers _ _ together _ same
  exact same.watch together

/-- Twins run through the same course. -/
theorem course_alike (env : Env) (respond : Nat → RequestInfo → Option HttpResponse) (steps : Nat)
    {pending other : Pending} (twins : PendingTwins pending other) :
    Prog.Coupled Together PendingTwins (course env respond steps pending) (course env respond steps other) := by
  induction steps generalizing pending other with
  | zero => exact .ret twins
  | succ steps inductionHypothesis =>
    cases twins with
    | ended => exact .ret .ended
    | queued session other same =>
      apply (observed_twins (sessionProcess_twins env) same).bind
      intro result resultSecond same
      exact inductionHypothesis same
    | requested session other procType request later same =>
      apply (observed_twins (requestCallback_twins env later _) same).bind
      intro result resultSecond same
      exact inductionHypothesis same

/-! ## What a run sends out -/

/-- The records that are handed to the Kafka producer. -/
def recordsOf (calls : List FlowCall) : List (String × String) :=
  calls.filterMap fun
    | .produce topic data => some (topic, data)
    | _ => none

structure Update where
  collection : String
  filter : Filter
  set : Document

/-- The updates of Mongo. -/
def updatesOf (calls : List FlowCall) : List Update :=
  calls.filterMap fun
    | .updateOne collection filter set => some ⟨collection, filter, set⟩
    | _ => none

/-- The same document in the same collection is set to the same fields, up to the clock. -/
structure UpdateAlike (first second : Update) : Prop where
  collection : first.collection = second.collection
  filter : first.filter = second.filter
  set : ClockAlike first.set second.set

/-- The calls of two runs, side by side. -/
abbrev SideBySide (first second : List FlowCall) : Prop :=
  List.Forall₂ (fun call other => ∃ answers, Together call other answers) first second

theorem SideBySide.records {first second : List FlowCall} (sideBySide : SideBySide first second) :
    recordsOf first = recordsOf second := by
  induction sideBySide with
  | nil => rfl
  | cons together _ inductionHypothesis =>
    obtain ⟨answers, together⟩ := together
    simp only [recordsOf, List.filterMap_cons] at inductionHypothesis ⊢
    cases together <;> simp only [inductionHypothesis]

theorem SideBySide.updates {first second : List FlowCall} (sideBySide : SideBySide first second) :
    List.Forall₂ UpdateAlike (updatesOf first) (updatesOf second) := by
  induction sideBySide with
  | nil => exact .nil
  | @cons request other _ _ together _ inductionHypothesis =>
    obtain ⟨answers, together⟩ := together
    cases together with
    | updateOne collection filter set other alike =>
      exact .cons ⟨rfl, rfl, alike⟩ inductionHypothesis
    | plain _ isPlain => cases request <;> first | exact inductionHypothesis | cases isPlain
    | _ => exact inductionHypothesis

/-- The runs get the same answers, call by call, to what stands side by side. -/
def AnswersAgree (first second : Nat → ∀ request : FlowCall, request.Answer) : Prop :=
  ∀ index request other answers, Together request other answers →
    answers (first index request) (second index other)

end XBusiness
