import XBusiness.Lib.Coupling
import XBusiness.Workflow.Endings

/-! # Sessions that the modules cannot tell apart

Two sessions made of one text may differ in which objects they are, in where their data comes
from, and in the members that no constructor initialises.  A `Kinship` says which of them stand
side by side and which calls of theirs do.  The modules after the picture wait, run on two such
sessions, make their calls side by side, as long as what they put into a request, a document or a
record is the same.

* `Contents`, `Session.vary` — what the sessions may differ in.
* `Kinship` — the sessions and the calls; `Alike` — the functions that keep to it.
* `moduleProcess_at`, `requestCallback_alike` — the modules and the callbacks.
-/

namespace XBusiness

open Interaction
open XBusiness.Flow (call)

/-! ## What may differ -/

/-- The identity of a session, the origin of its data, and the members without a constructor. -/
structure Contents where
  ref : Nat
  src : Source
  data : Option PmPtr
  timestamp : Int
  similar : Rat
  saved : SaveMongoData

def BaseData.vary (self : BaseData) (contents : Contents) : BaseData :=
  { self with
    src := contents.src
    data := contents.data
    ipc := { self.ipc with timestamp := contents.timestamp } }

namespace Session

def contents (session : Session) : Contents where
  ref := session.ref
  src := session.kafkaData.src
  data := session.kafkaData.data
  timestamp := session.kafkaData.ipc.timestamp
  similar := session.personResult.similar
  saved := session.saveMongoData

/-- The session with other contents.  The urls to save have a constructor. -/
def vary (session : Session) (contents : Contents) : Session :=
  { session with
    ref := contents.ref
    kafkaData := session.kafkaData.vary contents
    personResult := { session.personResult with similar := contents.similar }
    saveMongoData := { contents.saved with urls := session.saveMongoData.urls } }

/-- The contents, and what decides which of them have been assigned and which are written. -/
structure Marks where
  contents : Contents
  dataClass : DataClass
  totalJv : Json
  msgType : Int
  attributes : List PersonResultAttribute

def marks (session : Session) : Marks where
  contents := session.contents
  dataClass := session.kafkaData.dataClass
  totalJv := session.kafkaData.totalJv
  msgType := session.kafkaData.event.msgType
  attributes := session.personResult.personAttributes

/-- The documents and the records of the session have the score in them. -/
def writesScore (session : Session) : Bool :=
  match session.kafkaData.dataClass with
  | .business | .xiashunBusiness => session.kafkaData.event.msgType = 2
  | .capture | .xiashunCapture => true
  | .screenshot => false

end Session

/-- The change leaves the marks, and no picture wait is added. -/
structure Neutral (session after : Session) : Prop where
  marks : after.marks = session.marks
  waited : .picWait ∉ session.procChain → .picWait ∉ after.procChain

theorem writesScore_of_marks {session after : Session} (marks : after.marks = session.marks) :
    after.writesScore = session.writesScore := by
  have sameClass : after.kafkaData.dataClass = session.kafkaData.dataClass :=
    congrArg Session.Marks.dataClass marks
  have sameType : after.kafkaData.event.msgType = session.kafkaData.event.msgType :=
    congrArg Session.Marks.msgType marks
  rw [Session.writesScore, Session.writesScore, sameClass, sameType]

/-! ## Updates up to the clock -/

/-- The fields of a document that hold the time of the update. -/
def clockFields : List String := ["created_time", "updated_time"]

/-- The documents have the same fields, with the same values but for those of the clock. -/
def ClockAlike (first second : Document) : Prop :=
  List.Forall₂ (fun field other => field = other ∨ field.1 = other.1 ∧ field.1 ∈ clockFields) first second

theorem clockAlike_refl (document : Document) : ClockAlike document document :=
  List.forall₂_same.mpr fun _ _ => .inl rfl

theorem ClockAlike.append {first second head other : Document} (alike : ClockAlike first second)
    (alikeRest : ClockAlike head other) : ClockAlike (first ++ head) (second ++ other) :=
  List.rel_append alike alikeRest

/-! ## Kinship -/

/-- The calls that the modules after the picture wait make without a session or a clock. -/
def FlowCall.isPlain : FlowCall → Prop
  | tryAcquire | findOne _ _ | topicHandle _ | produce _ _ | poll _ => True
  | _ => False

/-- The similarity that the person of an answer has. -/
def scoreOf (person : Json) : Option Rat := (person.find? "slimilar").bind Json.double?

/-- The sessions that stand side by side, as the contents that a session may be varied with, and the
    calls that do; `reads` is what trace answers may give as the similarity. -/
structure Kinship where
  coupling : Coupling FlowCall FlowCall.Answer
  allowed : Session → Contents → Prop
  reads : Option Rat → Prop
  neutral : ∀ {session after contents}, Neutral session after → allowed session contents → allowed after contents
  saved : ∀ {session contents} data, allowed session contents →
    allowed { session with saveMongoData := data } { contents with saved := data }
  scored : ∀ {session contents} {result : PersonResult} {score : Option Rat}, reads score →
    allowed session contents → result.similar = score.getD session.personResult.similar → result.personAttributes ≠ [] →
    allowed { session with personResult := result } { contents with similar := score.getD contents.similar }
  plain : ∀ {request : FlowCall}, request.isPlain → coupling request request Eq
  time : coupling .time .time fun _ _ => True
  updateOne : ∀ collection filter {set other}, ClockAlike set other →
    coupling (.updateOne collection filter set) (.updateOne collection filter other) Eq
  pushMsg : ∀ {session contents}, allowed session contents →
    ∃ answers, coupling (.pushMsg session) (.pushMsg (session.vary contents)) answers
  sendRequest : ∀ {session contents procType} request, procType ≠ .picWait → allowed session contents →
    ∃ answers, coupling (.sendRequest session procType request)
      (.sendRequest (session.vary contents) procType request) answers
  final : ∀ {session contents} err, allowed session contents →
    coupling (.final session err) (.final (session.vary contents) err) Eq

namespace Kinship

def kin (kinship : Kinship) (session other : Session) : Prop :=
  ∃ contents, other = session.vary contents ∧ kinship.allowed session contents

/-- The kinship that also keeps a relation of the contents to the session. -/
def sharpen (kinship : Kinship) (extra : Session → Contents → Prop)
    (neutral : ∀ {session after contents}, Neutral session after → extra session contents → extra after contents)
    (saved : ∀ {session contents} data, extra session contents →
      extra { session with saveMongoData := data } { contents with saved := data })
    (scored : ∀ {session contents} {result : PersonResult} {score : Option Rat}, extra session contents →
      result.similar = score.getD session.personResult.similar →
      extra { session with personResult := result } { contents with similar := score.getD contents.similar }) :
    Kinship where
  coupling := kinship.coupling
  allowed session contents := kinship.allowed session contents ∧ extra session contents
  reads := kinship.reads
  neutral kept allowed := ⟨kinship.neutral kept allowed.1, neutral kept allowed.2⟩
  saved data allowed := ⟨kinship.saved data allowed.1, saved data allowed.2⟩
  scored isRead allowed same read := ⟨kinship.scored isRead allowed.1 same read, scored allowed.2 same⟩
  plain := kinship.plain
  time := kinship.time
  updateOne := kinship.updateOne
  pushMsg allowed := kinship.pushMsg allowed.1
  sendRequest request later allowed := kinship.sendRequest request later allowed.1
  final err allowed := kinship.final err allowed.1

/-- The kin whose data is of a class. -/
def ofClass (kinship : Kinship) (dataClass : DataClass) : Kinship :=
  kinship.sharpen (fun session _ => session.kafkaData.dataClass = dataClass)
    (fun neutral isClass => (congrArg Session.Marks.dataClass neutral.marks).trans isClass)
    (fun _ isClass => isClass) (fun isClass _ => isClass)

/-- The kin that write the same score. -/
def sameScore (kinship : Kinship) : Kinship :=
  kinship.sharpen (fun session contents => session.writesScore = true →
      contents.similar = session.personResult.similar)
    (fun neutral same writes =>
      (same (writesScore_of_marks neutral.marks ▸ writes)).trans
        (congrArg (fun marks => marks.contents.similar) neutral.marks).symm)
    (fun _ same => same) (fun same isRead writes => (congrArg _ (same writes)).trans isRead.symm)

/-- The kin that write the same time of a screenshot. -/
def sameTime (kinship : Kinship) : Kinship :=
  kinship.sharpen (fun session contents => session.kafkaData.dataClass = .screenshot →
      contents.timestamp = session.kafkaData.ipc.timestamp)
    (fun neutral same isScreenshot =>
      (same ((congrArg Session.Marks.dataClass neutral.marks).symm.trans isScreenshot)).trans
        (congrArg (fun marks => marks.contents.timestamp) neutral.marks).symm)
    (fun _ same => same) (fun same _ => same)

end Kinship

/-- The functions make calls that stand side by side, and leave kin. -/
abbrev AlikeWith {α β : Type} (kinship : Kinship) (values : α → β → Prop) (program : Flow α)
    (second : Flow β) : Prop :=
  StateProg.Coupled kinship.coupling kinship.kin values program second

abbrev Alike {α : Type} (kinship : Kinship) (program second : Flow α) : Prop :=
  AlikeWith kinship Eq program second

/-- The same from a session and its variation on. -/
abbrev AlikeAt {α β : Type} (kinship : Kinship) (session : Session) (contents : Contents)
    (values : α → β → Prop) (program : Flow α) (second : Flow β) : Prop :=
  Prog.Coupled kinship.coupling
    (fun result resultSecond => values result.1 resultSecond.1 ∧ kinship.kin result.2 resultSecond.2)
    (program.run session) (second.run (session.vary contents))

/-! ## Rules -/

section Rules

variable {α β γ δ : Type} {kinship : Kinship} {values : α → β → Prop} {session : Session} {contents : Contents}

theorem kin_vary (allowed : kinship.allowed session contents) :
    kinship.kin session (session.vary contents) :=
  ⟨contents, rfl, allowed⟩

theorem alike_at {program : Flow α} {second : Flow β}
    (alikeAt : ∀ session contents, kinship.allowed session contents →
      AlikeAt kinship session contents values program second) :
    AlikeWith kinship values program second := by
  rintro session _ ⟨contents, rfl, allowed⟩
  exact alikeAt session contents allowed

theorem at_alike {program : Flow α} {second : Flow β} (allowed : kinship.allowed session contents)
    (alike : AlikeWith kinship values program second) :
    AlikeAt kinship session contents values program second :=
  alike session (session.vary contents) (kin_vary allowed)

theorem at_bind {middle : γ → δ → Prop} {program : Flow γ} {second : Flow δ} {continuation : γ → Flow α}
    {continuationSecond : δ → Flow β} (alikeAt : AlikeAt kinship session contents middle program second)
    (alikeRest : ∀ value other, middle value other →
      AlikeWith kinship values (continuation value) (continuationSecond other)) :
    AlikeAt kinship session contents values (program >>= continuation) (second >>= continuationSecond) :=
  Prog.Coupled.bind alikeAt fun result resultSecond returned =>
    alikeRest result.1 resultSecond.1 returned.1 result.2 resultSecond.2 returned.2

theorem at_get {continuation : Session → Flow α} {continuationSecond : Session → Flow β}
    (alikeAt : AlikeAt kinship session contents values (continuation session)
      (continuationSecond (session.vary contents))) :
    AlikeAt kinship session contents values (get >>= continuation) (get >>= continuationSecond) :=
  alikeAt

theorem alike_get {continuation : Session → Flow α} {continuationSecond : Session → Flow β}
    (alikeAt : ∀ session contents, kinship.allowed session contents →
      AlikeAt kinship session contents values (continuation session)
        (continuationSecond (session.vary contents))) :
    AlikeWith kinship values (get >>= continuation) (get >>= continuationSecond) :=
  alike_at alikeAt

theorem alike_bind {program second : Flow γ} {continuation : γ → Flow α} {continuationSecond : γ → Flow β}
    (alike : Alike kinship program second)
    (alikeRest : ∀ value, AlikeWith kinship values (continuation value) (continuationSecond value)) :
    AlikeWith kinship values (program >>= continuation) (second >>= continuationSecond) := by
  apply StateProg.Coupled.bind alike
  rintro value _ rfl
  exact alikeRest value

theorem alike_map {program second : Flow γ} (alike : Alike kinship program second) (function : γ → α) :
    Alike kinship (function <$> program) (function <$> second) := by
  rw [map_eq_pure_bind, map_eq_pure_bind]
  exact alike_bind alike fun _ => .pure rfl

theorem alike_pure (value : α) : Alike kinship (pure value : Flow α) (pure value) := .pure rfl

theorem at_pure (allowed : kinship.allowed session contents) (value : α) :
    AlikeAt kinship session contents Eq (pure value : Flow α) (pure value) :=
  at_alike allowed (alike_pure value)

theorem at_of_sharpen {extra : Session → Contents → Prop} {neutral saved scored} {program : Flow α}
    {second : Flow β}
    (alikeAt : AlikeAt (kinship.sharpen extra neutral saved scored) session contents values program second) :
    AlikeAt kinship session contents values program second := by
  apply alikeAt.mono
  rintro result _ ⟨same, after, isVaried, allowed⟩
  exact ⟨same, after, isVaried, allowed.1⟩

/-- A change of the session read before, and the same change of its variation. -/
theorem at_modify {change changeSecond : Session → Session} (after : Contents)
    (varied : changeSecond (session.vary contents) = (change session).vary after)
    {continuation : PUnit → Flow α} {continuationSecond : PUnit → Flow β}
    (alikeRest : AlikeAt kinship (change session) after values (continuation ⟨⟩) (continuationSecond ⟨⟩)) :
    AlikeAt kinship session contents values (modify change >>= continuation)
      (modify changeSecond >>= continuationSecond) := by
  show Prog.Coupled kinship.coupling _ ((continuation ⟨⟩).run (change session))
    ((continuationSecond ⟨⟩).run (changeSecond (session.vary contents)))
  rw [varied]
  exact alikeRest

/-- A change that does the same to every session, whatever its contents. -/
theorem alike_modify {change : Session → Session} (neutral : ∀ session, Neutral session (change session))
    (varied : ∀ session contents, change (session.vary contents) = (change session).vary contents) :
    Alike kinship (modify change : Flow PUnit) (modify change) := by
  apply StateProg.Coupled.modify
  rintro session _ ⟨contents, rfl, allowed⟩
  exact ⟨contents, varied session contents, kinship.neutral (neutral session) allowed⟩

theorem alike_together {first second : FlowCall} {answers : first.Answer → second.Answer → Prop}
    (together : kinship.coupling first second answers) : AlikeWith kinship answers (call first) (call second) :=
  .lift (.call together fun _ _ related => .ret related)

theorem at_together {first second : FlowCall} {answers : first.Answer → second.Answer → Prop}
    (allowed : kinship.allowed session contents) (together : kinship.coupling first second answers) :
    AlikeAt kinship session contents answers (call first) (call second) :=
  at_alike allowed (alike_together together)

theorem alike_call {request : FlowCall} (isPlain : request.isPlain) :
    Alike kinship (call request) (call request) :=
  alike_together (kinship.plain isPlain)

theorem alike_ofExcept (value : Except Fault α) :
    Alike kinship (Flow.ofExcept value) (Flow.ofExcept value) := by
  cases value with
  | ok value => exact .pure rfl
  | error fault => exact .lift (.raise fault)

theorem alike_ofProg {program : FlowProg α} (makes : program.Makes FlowCall.isPlain fun _ => True) :
    Alike kinship (Flow.ofProg program) (Flow.ofProg program) :=
  .lift (.refl makes fun _ => kinship.plain)

theorem at_ite {condition : Prop} [Decidable condition] {first second : Flow α} {other otherSecond : Flow β}
    (pos : condition → AlikeAt kinship session contents values first other)
    (neg : ¬condition → AlikeAt kinship session contents values second otherSecond) :
    AlikeAt kinship session contents values (if condition then first else second)
      (if condition then other else otherSecond) := by
  by_cases holds : condition
  · rw [if_pos holds, if_pos holds]
    exact pos holds
  · rw [if_neg holds, if_neg holds]
    exact neg holds

theorem alike_ite {condition : Prop} [Decidable condition] {first second : Flow α} {other otherSecond : Flow β}
    (pos : condition → AlikeWith kinship values first other)
    (neg : ¬condition → AlikeWith kinship values second otherSecond) :
    AlikeWith kinship values (if condition then first else second)
      (if condition then other else otherSecond) := by
  apply alike_at
  intro session contents allowed
  exact at_ite (fun holds => at_alike allowed (pos holds)) fun holds => at_alike allowed (neg holds)

/-- A change that leaves all of the marks, as most do. -/
theorem neutral_of_marks {after : Session} (marks : after.marks = session.marks)
    (chain : after.procChain = session.procChain) : Neutral session after :=
  ⟨marks, fun waited => chain ▸ waited⟩

end Rules

/-! ## The end of a module -/

section Modules

variable {kinship : Kinship} {session : Session} {contents : Contents}

theorem pushMsg_alike : Alike kinship pushMsg pushMsg := by
  apply alike_get
  intro session contents allowed
  obtain ⟨answers, together⟩ := kinship.pushMsg allowed
  exact (at_together allowed together).mono fun _ _ kept => ⟨rfl, kept.2⟩

theorem final_alike (err : ErrCode) : Alike kinship (final err) (final err) := by
  apply alike_get
  intro session contents allowed
  apply at_ite
  · intro _
    exact at_pure allowed _
  · intro _
    have neutral : Neutral session { session with isFinished := true } := neutral_of_marks rfl rfl
    have finished := kinship.neutral neutral allowed
    apply at_modify contents rfl
    exact at_together finished (kinship.final err allowed)

theorem pushOrFinal_alike : Alike kinship pushOrFinal pushOrFinal := by
  have next : Alike kinship hasNextProcessor hasNextProcessor := by
    apply alike_get
    intro session contents allowed
    exact at_pure allowed _
  apply alike_bind next
  intro hasNext
  cases hasNext with
  | true => exact pushMsg_alike
  | false => exact final_alike .success

theorem ending_alike (ending : Ending)
    (asks : ∀ procType request, ending = .asks procType request → procType ≠ .picWait) :
    Alike kinship ending.run ending.run := by
  cases ending with
  | passes => exact pushOrFinal_alike
  | again => exact pushMsg_alike
  | fails err => exact final_alike err
  | asks procType request =>
    refine alike_bind (alike_modify (fun _ => neutral_of_marks rfl rfl) fun _ _ => rfl) fun _ => ?_
    apply alike_get
    intro session contents allowed
    obtain ⟨answers, together⟩ := kinship.sendRequest request (asks procType request rfl) allowed
    exact (at_together allowed together).mono fun _ _ kept => ⟨rfl, kept.2⟩

/-! ## `GetPluginModule` -/

theorem repairProcChain_alike : Alike kinship repairProcChain repairProcChain := by
  apply alike_get
  intro session contents allowed
  apply at_ite
  · intro _
    apply at_alike allowed
    refine alike_modify (fun session => ⟨rfl, fun waited => ?_⟩) fun _ _ => rfl
    simp [waited]
  · intro _
    exact at_pure allowed _

theorem getInfoByAppId_alike : Alike kinship getInfoByAppId getInfoByAppId := by
  refine alike_bind (alike_call trivial) fun acquired => ?_
  cases acquired with
  | false => exact alike_pure _
  | true =>
    apply alike_get
    intro session contents allowed
    apply at_alike allowed
    refine alike_bind (alike_call trivial) fun answer => ?_
    cases answer with
    | notFound => exact alike_pure _
    | exception => exact alike_pure _
    | found view =>
      dsimp only [Session.vary, BaseData.vary]
      cases readPlugin session.kafkaData.plugin view with
      | none => exact alike_pure _
      | some result =>
        obtain ⟨plugin, repair⟩ := result
        refine alike_bind (alike_modify (fun _ => neutral_of_marks rfl rfl) fun _ _ => rfl) fun _ => ?_
        cases repair with
        | false => exact alike_pure _
        | true => exact alike_bind repairProcChain_alike fun _ => alike_pure _

/-! ## `BusinessSave` -/

theorem switchFaceSet_alike : Alike kinship switchFaceSetIdBySetName switchFaceSetIdBySetName := by
  apply alike_get
  intro session contents allowed
  apply at_ite
  · intro _
    exact at_pure allowed _
  · intro _
    apply at_alike allowed
    refine alike_bind (alike_call trivial) fun acquired => ?_
    cases acquired with
    | false => exact alike_pure _
    | true =>
      refine alike_bind (alike_call trivial) fun answer => ?_
      cases answer with
      | notFound => exact alike_pure _
      | exception => exact alike_pure _
      | found view =>
        dsimp only
        cases Bson.getOid (view.lookup "_id") with
        | none => exact alike_pure _
        | some facesetId =>
          refine alike_bind (alike_modify (fun _ => neutral_of_marks rfl rfl) fun _ _ => rfl) fun _ => ?_
          cases Bson.getUtf8 (view.lookup "faceset_type") with
          | none => exact alike_pure _
          | some setType =>
            refine alike_bind (alike_modify (fun _ => neutral_of_marks rfl rfl) fun _ _ => rfl) fun _ => ?_
            exact alike_pure _

/-- Where the score is written, it is the same. -/
def Kinship.SameScore (kinship : Kinship) : Prop :=
  ∀ session contents, kinship.allowed session contents → session.writesScore = true →
    contents.similar = session.personResult.similar

/-- The time of a screenshot is the same. -/
def Kinship.SameTime (kinship : Kinship) : Prop :=
  ∀ session contents, kinship.allowed session contents → session.kafkaData.dataClass = .screenshot →
    contents.timestamp = session.kafkaData.ipc.timestamp

/-- The `$set` document at two times. -/
theorem userEventFields_alike (data : SaveMongoData)
    (score : data.msgType = 2 → contents.similar = session.personResult.similar)
    (currentTime otherTime : String) :
    ClockAlike (userEventFields session data currentTime)
      (userEventFields (session.vary contents) data otherTime) := by
  have times : ClockAlike [("created_time", .utf8 currentTime), ("updated_time", .utf8 currentTime)]
      [("created_time", .utf8 otherTime), ("updated_time", .utf8 otherTime)] :=
    .cons (.inr ⟨rfl, by simp [clockFields]⟩) (.cons (.inr ⟨rfl, by simp [clockFields]⟩) .nil)
  obtain ⟨ref, src, node, timestamp, similar, saved⟩ := contents
  unfold userEventFields
  dsimp only
  split
  · next isCapture =>
    cases score isCapture
    exact (((clockAlike_refl _).append times).append (clockAlike_refl _)).append (clockAlike_refl _)
  · split
    · exact (clockAlike_refl _).append times
    · exact (clockAlike_refl _).append times

/-- The data to save is of type 2 only where the score is written. -/
theorem getSaveMongoData_score {urls : List String} {saved : SaveMongoData}
    (made : getSaveMongoData session.kafkaData urls = .ok (some saved)) (isCapture : saved.msgType = 2) :
    session.writesScore = true := by
  unfold getSaveMongoData at made
  unfold Session.writesScore
  split at made
  · next isClass =>
    cases made
    simp only [isClass]
    exact decide_eq_true isCapture
  · next isClass =>
    cases made
    simp only [isClass]
    exact decide_eq_true isCapture
  · next isClass => simp only [isClass]
  · cases made
  · cases made

theorem saveReplay_alike (saved : SaveMongoData) {fields other : Document} (alike : ClockAlike fields other) :
    Alike kinship (saveReplay session saved fields) (saveReplay (session.vary contents) saved other) := by
  have upsert : ∀ {fields other : Document}, ClockAlike fields other →
      Alike kinship (upsertUserEvent session saved fields)
        (upsertUserEvent (session.vary contents) saved other) := by
    intro fields other alike
    have together := kinship.updateOne (userEventCollection session) (userEventFilter session saved) alike
    exact alike_together together
  apply alike_ite
  · intro _
    refine alike_bind (alike_call trivial) fun answer => ?_
    cases answer with
    | found _ => exact alike_pure _
    | exception => exact alike_pure _
    | notFound => exact upsert (alike.append (clockAlike_refl _))
  · intro _
    exact upsert alike

theorem saveBusinessMongo_alike (score : kinship.SameScore) :
    Alike kinship saveBusinessMongo saveBusinessMongo := by
  apply alike_bind switchFaceSet_alike
  intro switched
  cases switched with
  | false => exact alike_pure _
  | true =>
    refine alike_bind (alike_call trivial) fun acquired => ?_
    cases acquired with
    | false => exact alike_pure _
    | true =>
      apply alike_get
      intro session contents allowed
      show AlikeAt kinship session contents Eq
        (Flow.ofExcept (getSaveMongoData session.kafkaData session.saveMongoData.urls) >>= fun _ => _)
        (Flow.ofExcept (getSaveMongoData session.kafkaData session.saveMongoData.urls) >>= fun _ => _)
      cases made : getSaveMongoData session.kafkaData session.saveMongoData.urls with
      | error fault => exact .raise fault
      | ok saved =>
        rw [Flow.ofExcept_ok, pure_bind, pure_bind]
        cases saved with
        | none => exact at_pure allowed _
        | some saved =>
          -- from here on both sessions hold what is to be saved
          have savedBoth := kinship.saved saved allowed
          apply at_modify { contents with saved := saved } rfl
          refine at_bind (at_together savedBoth kinship.time) fun current other _ => ?_
          have fields := userEventFields_alike saved
            (fun isCapture => score session contents allowed (getSaveMongoData_score made isCapture))
            (utcTime current) (utcTime other)
          -- data of type 1 look for a document of type 2 before the update
          apply alike_ite
          · intro _
            refine alike_bind (alike_call trivial) fun answer => ?_
            cases answer with
            | found _ => exact alike_pure _
            | exception => exact alike_pure _
            | notFound => exact saveReplay_alike saved fields
          · intro _
            exact saveReplay_alike saved fields

/-! ## `OutPutKafkaModule` -/

/-- The session with other contents, but the same similarity. -/
theorem vary_similar (same : contents.similar = session.personResult.similar) :
    (session.vary contents).personResult = session.personResult := by
  obtain ⟨ref, src, node, timestamp, similar, saved⟩ := contents
  cases same
  rfl

theorem makeBusinessKafkaRequest_vary (env : Env)
    (score : session.kafkaData.event.msgType = 2 → contents.similar = session.personResult.similar) :
    makeBusinessKafkaRequest env (session.vary contents) = makeBusinessKafkaRequest env session := by
  by_cases isCapture : session.kafkaData.event.msgType = 2
  · unfold makeBusinessKafkaRequest
    rw [vary_similar (score isCapture)]
    rfl
  · have isCaptureOther : (session.vary contents).kafkaData.event.msgType ≠ 2 := isCapture
    unfold makeBusinessKafkaRequest
    dsimp only
    rw [if_neg isCapture, if_neg isCaptureOther]
    rfl

theorem makeXiashunCaptureKafkaRequest_vary (env : Env)
    (score : contents.similar = session.personResult.similar) :
    makeXiashunCaptureKafkaRequest env (session.vary contents) = makeXiashunCaptureKafkaRequest env session := by
  unfold makeXiashunCaptureKafkaRequest
  rw [vary_similar score]
  rfl

theorem makeScreenshootKafkaRequest_vary (env : Env)
    (time : contents.timestamp = session.kafkaData.ipc.timestamp) :
    makeScreenshootKafkaRequest env (session.vary contents).kafkaData =
      makeScreenshootKafkaRequest env session.kafkaData := by
  obtain ⟨ref, src, node, timestamp, similar, saved⟩ := contents
  cases time
  rfl

theorem makeCaptureKafkaRequest_alike (env : Env) (score : kinship.SameScore)
    (isCapture : ∀ session contents, kinship.allowed session contents → session.kafkaData.dataClass = .capture) :
    Alike kinship (makeCaptureKafkaRequest env) (makeCaptureKafkaRequest env) := by
  apply alike_bind switchFaceSet_alike
  intro switched
  cases switched with
  | false => exact alike_pure _
  | true =>
    apply alike_get
    intro session contents allowed
    have writes : session.writesScore = true := by
      simp only [Session.writesScore, isCapture session contents allowed]
    rw [vary_similar (score session contents allowed writes)]
    apply at_alike allowed
    dsimp only [Session.vary, BaseData.vary]
    cases session.kafkaData.capture.person.faces with
    | nil => exact alike_ofExcept _
    | cons face rest =>
      refine alike_bind (alike_ofExcept _) fun eventTime => ?_
      apply alike_ite
      · intro _
        exact alike_pure _
      · intro _
        exact alike_pure _

theorem makeKafkaRequest_alike (env : Env) (score : kinship.SameScore) (time : kinship.SameTime) :
    Alike kinship (makeKafkaRequest env) (makeKafkaRequest env) := by
  apply alike_get
  intro session contents allowed
  have sameClass : (session.vary contents).kafkaData.dataClass = session.kafkaData.dataClass := rfl
  rw [sameClass]
  have same := score session contents allowed
  unfold Session.writesScore at same
  cases isClass : session.kafkaData.dataClass with
  | business =>
    simp only [isClass] at same
    rw [makeBusinessKafkaRequest_vary env fun isCapture => same (decide_eq_true isCapture)]
    exact at_pure allowed _
  | capture =>
    -- the class stays while the face set is looked up
    have captures : Alike (kinship.ofClass .capture) (makeCaptureKafkaRequest env) (makeCaptureKafkaRequest env) :=
      makeCaptureKafkaRequest_alike env (fun _ _ allowed => score _ _ allowed.1) fun _ _ allowed => allowed.2
    exact at_bind (at_of_sharpen (at_alike ⟨allowed, isClass⟩ captures)) fun _ _ same => same ▸ alike_pure _
  | xiashunCapture =>
    simp only [isClass] at same
    rw [makeXiashunCaptureKafkaRequest_vary env (same trivial)]
    exact at_alike allowed (alike_bind (alike_ofExcept _) fun _ => alike_pure _)
  | screenshot =>
    rw [makeScreenshootKafkaRequest_vary env (time session contents allowed isClass)]
    exact at_pure allowed _
  | xiashunBusiness => exact at_pure allowed _

theorem outputKafkaBody_alike (env : Env) (score : kinship.SameScore) (time : kinship.SameTime) :
    Alike kinship (moduleBody env .outputKafka) (moduleBody env .outputKafka) := by
  apply alike_bind (makeKafkaRequest_alike env score time)
  intro records
  cases records with
  | none => exact alike_pure _
  | some records =>
    apply alike_get
    intro session contents allowed
    apply at_alike allowed
    apply alike_ite
    · intro _
      exact alike_pure _
    · intro _
      apply alike_map
      apply alike_ofProg
      apply (pushAllToKafka_makes records).mono
      intro request producer
      cases request <;> first | exact trivial | cases producer

/-! ## The requests -/

theorem setUrlIndex_vary (self : BaseData) (contents : Contents) (index : Nat) :
    (self.vary contents).setUrlIndex index = (self.setUrlIndex index).vary contents := by
  obtain ⟨dataClass⟩ := self
  cases dataClass <;> rfl

theorem setUrlIndex_neutral (session : Session) (index : Nat) :
    Neutral session { session with kafkaData := session.kafkaData.setUrlIndex index } := by
  have marks : { session with kafkaData := session.kafkaData.setUrlIndex index }.marks = session.marks := by
    obtain ⟨ref, ⟨dataClass⟩⟩ := session
    cases dataClass <;> rfl
  exact neutral_of_marks marks rfl

theorem getNextUrl_vary (self : BaseData) (contents : Contents) :
    (self.vary contents).getNextUrl = (self.getNextUrl.1, self.getNextUrl.2.vary contents) := by
  have next : (self.vary contents).captureFaces[(self.vary contents).urlIndex]? =
      self.captureFaces[self.urlIndex]? := rfl
  unfold BaseData.getNextUrl
  rw [next]
  cases self.captureFaces[self.urlIndex]? with
  | none => rfl
  | some face => exact congrArg (Prod.mk face.url) (setUrlIndex_vary self contents _)

theorem getNextUrl_neutral (session : Session) (url : String) :
    Neutral session { session with
      currentDownloadUrl := url, kafkaData := session.kafkaData.getNextUrl.2 } := by
  have marks : ∀ kafkaData : BaseData, Neutral session { session with kafkaData := kafkaData } →
      Neutral session { session with currentDownloadUrl := url, kafkaData := kafkaData } :=
    fun _ neutral => ⟨neutral.marks, neutral.waited⟩
  apply marks
  unfold BaseData.getNextUrl
  split
  · exact setUrlIndex_neutral session _
  · exact neutral_of_marks rfl rfl

theorem makeDownloadRequest_alike (env : Env) :
    Alike kinship (makeDownloadRequest env) (makeDownloadRequest env) := by
  apply alike_get
  intro session contents allowed
  apply at_ite
  · intro _
    exact at_pure allowed _
  · intro _
    have next : (session.vary contents).kafkaData.getNextUrl =
        (session.kafkaData.getNextUrl.1, session.kafkaData.getNextUrl.2.vary contents) :=
      getNextUrl_vary session.kafkaData contents
    have neutral := getNextUrl_neutral session session.kafkaData.getNextUrl.1
    rw [next]
    generalize session.kafkaData.getNextUrl = taken at neutral ⊢
    obtain ⟨url, kafkaData⟩ := taken
    have takenBoth := kinship.neutral neutral allowed
    apply at_modify contents rfl
    apply at_alike takenBoth
    apply alike_ite
    · intro _
      exact alike_pure _
    · intro _
      cases splitUri url with
      | none => exact alike_pure _
      | some parts =>
        cases env.conf.getValue "s3proxy" "path" with
        | none => exact alike_pure _
        | some path => exact alike_pure _

theorem imageEntries_vary (self : BaseData) (contents : Contents) (index : Nat) (images : List ImageInfo) :
    imageEntries (self.vary contents) index images = imageEntries self index images := by
  induction images generalizing index with
  | nil => rfl
  | cons image rest inductionHypothesis =>
    rw [imageEntries, imageEntries, inductionHypothesis]
    rfl

/-- The time goes into the request, unless there are no images. -/
theorem traceSpaceBody_at (env : Env) (allowed : kinship.allowed session contents)
    (time : session.images ≠ [] → contents.timestamp = session.kafkaData.ipc.timestamp) :
    AlikeAt kinship session contents Eq (moduleBody env .traceSpace) (moduleBody env .traceSpace) := by
  apply at_get
  apply at_ite
  · intro _
    exact at_pure allowed _
  · intro images
    have entries : imageEntries (session.vary contents).kafkaData 0 (session.vary contents).images =
        imageEntries session.kafkaData 0 session.images := imageEntries_vary _ contents 0 _
    rw [entries]
    obtain ⟨ref, src, node, timestamp, similar, saved⟩ := contents
    cases time images
    exact at_alike allowed (alike_bind (alike_ofExcept _) fun _ => alike_pure _)

theorem makeGenerateUrlRequest_alike (env : Env) :
    Alike kinship (makeGenerateUrlRequest env) (makeGenerateUrlRequest env) := by
  apply alike_get
  intro session contents allowed
  have faces : getGenerateUrlData (session.vary contents).kafkaData =
      getGenerateUrlData session.kafkaData := rfl
  have person : (session.vary contents).personResult.url = session.personResult.url := rfl
  apply at_alike allowed
  dsimp only
  rw [faces, person]
  generalize getGenerateUrlData session.kafkaData = faces
  generalize (if session.personResult.url ≠ "" then _ else _) = person
  cases faces with
  | none => exact alike_pure _
  | some faces =>
    cases person with
    | none => exact alike_pure _
    | some person =>
      dsimp only
      cases env.conf.getValue "s3proxy" "gen_url_path" with
      | none => exact alike_pure _
      | some path => exact alike_pure _

/-! ## The answer of the trace-space service -/

/-- The error codes that `getPersonResult` lets through, and those of `ProcTraceSpaceResponse`. -/
def personCodes (code : Int) : Bool := code = 0

def traceCodes (code : Int) : Bool := code = 0 || code = -10041

/-- The person that is read of an answer, where its error code is let through. -/
def personOf (accepts : Int → Bool) (bodyJv : Json) : Option Json :=
  if ((bodyJv.find? "error_code").bind Json.int?).any accepts then
    ((bodyJv.find? "result").bind Json.object?).bind fun result =>
      ((result.find? "track_result").bind Json.object?).bind fun _ =>
        (result.find? "person_result").bind Json.object?
  else none

/-- What the answer gives as the similarity of its person may be read. -/
def Kinship.ReadsFrom (kinship : Kinship) (env : Env) (accepts : Int → Bool) (body : String) : Prop :=
  ∀ bodyJv person, env.text.parseJson body = some bodyJv → personOf accepts bodyJv = some person →
    kinship.reads (scoreOf person)

/-- The person is read alike, but for the similarity that is kept without a new one. -/
theorem parsePersonResult_similar {person : Json} (has : person.hasMembers = true) (result : PersonResult)
    (similar : Rat) :
    parsePersonResult person { result with similar := similar } =
      (fun read => { read with similar := (scoreOf person).getD similar }) <$> parsePersonResult person result := by
  unfold parsePersonResult
  simp only [Json.memberD_eq has]
  generalize ((person.find? "attribute").bind Json.array?).getD [] = attributeJvs
  show (attributeJvs.mapM parseAttribute >>= _) = (_ <$> (attributeJvs.mapM parseAttribute >>= _))
  cases attributeJvs.mapM parseAttribute with
  | error fault => rfl
  | ok attributes => rfl

/-- A person that is read has at least the attribute `manual_age`. -/
theorem parsePersonResult_attributes (person : Json) (result : PersonResult) :
    Returns (fun read => read.personAttributes ≠ []) (parsePersonResult person result) := by
  iterate 9 (apply Returns.bind; intro _)
  rename_i attributes
  apply Returns.pure
  intro none
  simp only [List.append_eq_nil_iff] at none
  obtain ⟨⟨_, noAttributes⟩, noAge⟩ := none
  rw [noAttributes] at noAge
  cases noAge

section Functions

variable {α γ : Type}

/-- A function of the handler that does the same to kin. -/
abbrev AlikeFn (kinship : Kinship) (function : SessionFn α) : Prop :=
  Alike kinship (Flow.ofSessionFn function) (Flow.ofSessionFn function)

theorem fn_pure (value : α) : AlikeFn kinship (pure value) := alike_pure value

theorem fn_lift (value : Except Fault α) : AlikeFn kinship (liftM value : SessionFn α) := by
  rw [AlikeFn, Flow.ofSessionFn_lift]
  exact alike_ofExcept value

theorem fn_ok {value : γ} {continuation : γ → SessionFn α} (alike : AlikeFn kinship (continuation value)) :
    AlikeFn kinship ((liftM (Except.ok value : Except Fault γ) : SessionFn γ) >>= continuation) := alike

theorem fn_bind {function : SessionFn γ} {continuation : γ → SessionFn α} (alike : AlikeFn kinship function)
    (alikeRest : ∀ value, AlikeFn kinship (continuation value)) : AlikeFn kinship (function >>= continuation) := by
  rw [AlikeFn, Flow.ofSessionFn_bind]
  exact alike_bind alike alikeRest

theorem fn_modify {change : Session → Session} (neutral : ∀ session, Neutral session (change session))
    (varied : ∀ session contents, change (session.vary contents) = (change session).vary contents) :
    AlikeFn kinship (modify change : SessionFn PUnit) :=
  alike_modify neutral varied

/-- A function that reads what does not depend on the contents. -/
theorem fn_get {continuation : Session → SessionFn α}
    (same : ∀ session contents, continuation (session.vary contents) = continuation session)
    (alike : ∀ session, AlikeFn kinship (continuation session)) :
    AlikeFn kinship (get >>= continuation) := by
  rw [AlikeFn, Flow.ofSessionFn_bind]
  apply alike_get
  intro session contents allowed
  rw [same]
  exact at_alike allowed (alike session)

end Functions

/-- The person of an answer goes to the session. -/
theorem readPerson_alike {person : Json} (has : person.hasMembers = true) (reads : kinship.reads (scoreOf person)) :
    AlikeFn kinship (do
      let personResult ← parsePersonResult person (← get).personResult
      modify fun session => { session with personResult := personResult }
      return true) := by
  rw [AlikeFn, Flow.ofSessionFn_bind]
  apply alike_get
  intro session contents allowed
  have varied := parsePersonResult_similar has session.personResult contents.similar
  have kept := parsePersonResult_similar has session.personResult session.personResult.similar
  show AlikeAt kinship session contents Eq
    (Flow.ofSessionFn (liftM (parsePersonResult person session.personResult) >>= fun _ => _))
    (Flow.ofSessionFn (liftM (parsePersonResult person { session.personResult with similar := contents.similar }) >>=
      fun _ => _))
  rw [varied, Flow.ofSessionFn_bind, Flow.ofSessionFn_bind, Flow.ofSessionFn_lift, Flow.ofSessionFn_lift]
  cases parsed : parsePersonResult person session.personResult with
  | error fault => exact .raise fault
  | ok result =>
    rw [parsed] at kept
    have similar : result.similar = (scoreOf person).getD session.personResult.similar :=
      congrArg PersonResult.similar (Except.ok.inj kept)
    have both := kinship.scored reads allowed similar (parsePersonResult_attributes person _ _ parsed)
    show AlikeAt kinship session contents Eq
      (modify (fun session => { session with personResult := result }) >>= fun _ => pure true)
      (modify (fun session => { session with
        personResult := { result with similar := (scoreOf person).getD contents.similar } }) >>= fun _ => pure true)
    apply at_modify { contents with similar := (scoreOf person).getD contents.similar } rfl
    exact at_pure both true

/-- What the service reads of an answer that it accepts. -/
theorem parseTraceAnswer_alike (env : Env) (accepts : Int → Bool) {body : String}
    (reads : kinship.ReadsFrom env accepts body) : AlikeFn kinship (parseTraceAnswer env accepts body) := by
  unfold parseTraceAnswer
  cases parsed : env.text.parseJson body with
  | none => exact fn_pure _
  | some bodyJv =>
    have hasBody := JsonText.hasMembers_of_parseJson parsed
    simp only [Json.member?_eq hasBody]
    apply fn_ok
    cases isCode : (bodyJv.find? "error_code").bind Json.int? with
    | none => exact fn_pure _
    | some errorCode =>
      dsimp only
      by_cases accepted : accepts errorCode = true
      · rw [if_pos accepted]
        apply fn_ok
        cases isResult : (bodyJv.find? "result").bind Json.object? with
        | none => exact fn_pure _
        | some result =>
          have hasResult := Json.hasMembers_of_object isResult
          simp only [Json.member?_eq hasResult]
          apply fn_ok
          cases isTrack : (result.find? "track_result").bind Json.object? with
          | none => exact fn_pure _
          | some track =>
            -- the track is in, the person may still be missing
            refine fn_get (fun _ _ => rfl) fun session => fn_bind (fn_lift _) fun trackResult => ?_
            refine fn_bind (fn_modify (fun _ => neutral_of_marks rfl rfl) fun _ _ => rfl) fun _ => ?_
            apply fn_ok
            cases isPerson : (result.find? "person_result").bind Json.object? with
            | none => exact fn_pure _
            | some person =>
              have names : personOf accepts bodyJv = some person := by
                simp [personOf, isCode, accepted, isResult, isTrack, isPerson]
              exact readPerson_alike (Json.hasMembers_of_object isPerson) (reads bodyJv person parsed names)
      · rw [if_neg accepted]
        exact fn_pure _

/-! ## The responses -/

theorem procTraceSpaceResponse_alike (env : Env) {response : HttpResponse}
    (reads : kinship.ReadsFrom env traceCodes response.content) : AlikeFn kinship (procTraceSpaceResponse env response) := by
  unfold procTraceSpaceResponse
  split
  · refine fn_bind (parseTraceAnswer_alike env _ reads) fun accepted => ?_
    split
    · exact fn_bind (fn_modify (fun _ => neutral_of_marks rfl rfl) fun _ _ => rfl) fun _ => fn_pure _
    · exact fn_pure _
  · exact fn_pure _

theorem procImageResponse_alike (response : HttpResponse) : AlikeFn kinship (procImageResponse response) := by
  have next : ∀ value : PUnit, AlikeFn kinship (do
      if (← get).kafkaData.hasNextUrl then
        modify fun session => { session with procChain := .downloadImage :: session.procChain }
      return true) := by
    intro _
    refine fn_get (fun _ _ => rfl) fun session => ?_
    split
    · refine fn_bind (fn_modify (fun session => ⟨rfl, fun waited => ?_⟩) fun _ _ => rfl) fun _ => fn_pure _
      simp [waited]
    · exact fn_pure _
  unfold procImageResponse
  split
  · split
    · exact fn_bind (fn_modify (fun _ => neutral_of_marks rfl rfl) fun _ _ => rfl) next
    · exact next ⟨⟩
  · exact fn_pure _

theorem setCaptureFaces_vary (self : BaseData) (contents : Contents) (faces : List CaptureFace) :
    (self.vary contents).setCaptureFaces faces = (self.setCaptureFaces faces).vary contents := by
  obtain ⟨dataClass⟩ := self
  cases dataClass <;> rfl

theorem setCaptureFaces_neutral (session : Session) (faces : List CaptureFace) :
    Neutral session { session with kafkaData := session.kafkaData.setCaptureFaces faces } := by
  have marks : { session with kafkaData := session.kafkaData.setCaptureFaces faces }.marks = session.marks := by
    obtain ⟨ref, ⟨dataClass⟩⟩ := session
    cases dataClass <;> rfl
  exact neutral_of_marks marks rfl

/-- `GetGenUrl` for a class with faces. -/
theorem getGenUrl_alike (bodyJv : Json) : AlikeFn kinship (getGenUrl bodyJv) := by
  refine fn_get (fun _ _ => rfl) fun session => ?_
  dsimp only
  split
  · exact fn_pure _
  · exact fn_pure _
  -- the classes that have faces
  all_goals
    refine fn_bind (fn_lift _) fun resultlist => fn_bind (fn_lift _) fun result => ?_
    refine fn_bind (fn_modify (fun session => setCaptureFaces_neutral session _) fun session contents => ?_) fun _ => ?_
    · show ({ session.vary contents with
          kafkaData := (session.kafkaData.vary contents).setCaptureFaces result.2 } : Session) = _
      rw [setCaptureFaces_vary]
      rfl
    · split
      · split
        · refine fn_bind (fn_lift _) fun read => ?_
          split
          · exact fn_pure _
          · split
            · exact fn_bind (fn_modify (fun _ => neutral_of_marks rfl rfl) fun _ _ => rfl) fun _ => fn_pure _
            · exact fn_pure _
        · exact fn_pure _
      · exact fn_pure _

theorem procGenerateUrlResponse_alike (env : Env) (response : HttpResponse) :
    AlikeFn kinship (procGenerateUrlResponse env response) := by
  unfold procGenerateUrlResponse
  split
  · split
    · split
      · exact fn_pure _
      · refine fn_bind (fn_lift _) fun results => ?_
        split
        · exact fn_pure _
        · refine fn_get (fun _ _ => rfl) fun session => ?_
          dsimp only
          generalize session.kafkaData.getUrlCount + _ = urlCount
          split
          · exact fn_pure _
          · exact getGenUrl_alike _
    · exact fn_pure _
  · exact fn_pure _

theorem procHandlerResponse_alike (env : Env) (procType : ProcType) {response : HttpResponse}
    (reads : procType = .traceSpace → kinship.ReadsFrom env traceCodes response.content) :
    AlikeFn kinship (procHandlerResponse env procType response) := by
  cases procType with
  | downloadImage => exact procImageResponse_alike response
  | traceSpace => exact procTraceSpaceResponse_alike env (reads rfl)
  | generateUrl => exact procGenerateUrlResponse_alike env response
  | outputKafka | picWait | businessSave | getPlugin => exact fn_pure _

/-! ## The modules and the callbacks -/

theorem httpErrorProcess_alike {moduleType : ProcType} (later : moduleType ≠ .picWait) :
    Alike kinship (httpErrorProcess moduleType) (httpErrorProcess moduleType) := by
  -- the part behind the cursor, which both kinds of requests end with
  have retry : Alike kinship (do
      let session ← get
      if 0 < session.httpRetryTime then
        modify fun session => { session with httpRetryTime := session.httpRetryTime - 1 }
        addChain moduleType
        pushMsg
      else
        final .httpConnError : Flow Unit) (do
      let session ← get
      if 0 < session.httpRetryTime then
        modify fun session => { session with httpRetryTime := session.httpRetryTime - 1 }
        addChain moduleType
        pushMsg
      else
        final .httpConnError) := by
    apply alike_get
    intro session contents allowed
    apply at_alike allowed
    apply alike_ite
    · intro _
      refine alike_bind (alike_modify (fun _ => neutral_of_marks rfl rfl) fun _ _ => rfl) fun _ => ?_
      refine alike_bind (alike_modify (fun session => ⟨rfl, fun waited => ?_⟩) fun _ _ => rfl) fun _ => pushMsg_alike
      simp [waited, later.symm]
    · intro _
      exact final_alike .httpConnError
  unfold httpErrorProcess
  apply alike_ite
  · intro _
    refine alike_bind (alike_modify (fun session => setUrlIndex_neutral session _) fun session contents => ?_)
      fun _ => retry
    show ({ session.vary contents with kafkaData := (session.kafkaData.vary contents).retreatUrl } : Session) = _
    rw [show (session.kafkaData.vary contents).retreatUrl = session.kafkaData.retreatUrl.vary contents from
      setUrlIndex_vary session.kafkaData contents _]
    rfl
  · intro _
    exact retry

theorem requestCallback_alike (env : Env) {moduleType : ProcType} (later : moduleType ≠ .picWait)
    {response : Option HttpResponse}
    (reads : ∀ answer, response = some answer → moduleType = .traceSpace →
      kinship.ReadsFrom env traceCodes answer.content) :
    Alike kinship (requestCallback env moduleType response) (requestCallback env moduleType response) := by
  cases response with
  | none => exact httpErrorProcess_alike later
  | some response =>
    apply alike_bind (procHandlerResponse_alike env moduleType (reads response rfl))
    intro accepted
    cases accepted with
    | true => exact pushOrFinal_alike
    | false => exact final_alike .procTerminate

/-- Where a module writes a member that no constructor initialises, it is the same in kin. -/
structure WritesSame (session : Session) (contents : Contents) (proc : ProcType) : Prop where
  request : proc = .traceSpace → session.images ≠ [] →
    contents.timestamp = session.kafkaData.ipc.timestamp
  screenshot : proc = .outputKafka → session.kafkaData.dataClass = .screenshot →
    contents.timestamp = session.kafkaData.ipc.timestamp
  score : proc = .businessSave ∨ proc = .outputKafka → session.writesScore = true →
    contents.similar = session.personResult.similar

theorem moduleBody_at (env : Env) {proc : ProcType} (later : proc ≠ .picWait)
    (allowed : kinship.allowed session contents) (same : WritesSame session contents proc) :
    AlikeAt kinship session contents Eq (moduleBody env proc) (moduleBody env proc) := by
  cases proc with
  | downloadImage => exact at_alike allowed (alike_map (makeDownloadRequest_alike env) _)
  | traceSpace => exact traceSpaceBody_at env allowed (same.request rfl)
  | generateUrl => exact at_alike allowed (alike_map (makeGenerateUrlRequest_alike env) _)
  | getPlugin => exact at_alike allowed (alike_map getInfoByAppId_alike _)
  | picWait => exact absurd rfl later
  | businessSave =>
    have saves : Alike kinship.sameScore saveBusinessMongo saveBusinessMongo :=
      saveBusinessMongo_alike fun _ _ allowed => allowed.2
    exact at_of_sharpen (at_alike ⟨allowed, same.score (.inl rfl)⟩ (alike_map saves _))
  | outputKafka =>
    have outputs : Alike kinship.sameScore.sameTime (moduleBody env .outputKafka) (moduleBody env .outputKafka) :=
      outputKafkaBody_alike env (fun _ _ allowed => allowed.1.2) fun _ _ allowed => allowed.2
    exact at_of_sharpen
      (at_of_sharpen (at_alike ⟨⟨allowed, same.score (.inr rfl)⟩, same.screenshot rfl⟩ outputs))

theorem moduleProcess_at (env : Env) {proc : ProcType} (later : proc ≠ .picWait)
    (allowed : kinship.allowed session contents) (same : WritesSame session contents proc) :
    AlikeAt kinship session contents Eq (moduleProcess env proc) (moduleProcess env proc) := by
  rw [moduleProcess_eq]
  apply Prog.Coupled.bind ((moduleBody_at env later allowed same).and_makes (moduleBody_does env proc session))
  rintro ⟨ending, after⟩ ⟨_, afterSecond⟩ ⟨⟨rfl, kin⟩, does⟩
  refine ending_alike ending ?_ after afterSecond kin
  -- only the modules with a request ask
  rintro _ request rfl
  cases does with
  | asks => exact later

/-- The session that `Session::Process` gives to the module of the step. -/
theorem popped_neutral {proc : ProcType} {rest : List ProcType} (chain : session.procChain = proc :: rest) :
    Neutral session { session with procChain := rest } := by
  refine ⟨rfl, fun waited member => waited ?_⟩
  rw [chain]
  exact List.mem_cons_of_mem _ member

/-- Steps of kin, in two services, are alike where the modules of the step are. -/
theorem sessionProcess_of_module {env other : Env} (allowed : kinship.allowed session contents)
    (modules : ∀ proc rest, session.procChain = proc :: rest →
      kinship.allowed { session with procChain := rest } contents →
      AlikeAt kinship { session with procChain := rest } contents Eq (moduleProcess env proc)
        (moduleProcess other proc)) :
    AlikeAt kinship session contents Eq (sessionProcess env) (sessionProcess other) := by
  apply at_get
  have sameChain : (session.vary contents).procChain = session.procChain := rfl
  rw [sameChain]
  cases chain : session.procChain with
  | nil => exact at_alike allowed (final_alike .procTerminate)
  | cons proc rest =>
    have popped := kinship.neutral (popped_neutral chain) allowed
    apply at_modify contents rfl
    exact modules proc rest chain popped

/-- A step of a session whose next module is not the picture wait. -/
theorem sessionProcess_at (env : Env) (allowed : kinship.allowed session contents)
    (later : session.procChain.head? ≠ some .picWait)
    (same : ∀ proc, session.procChain.head? = some proc → WritesSame session contents proc) :
    AlikeAt kinship session contents Eq (sessionProcess env) (sessionProcess env) := by
  apply sessionProcess_of_module allowed
  intro proc rest chain popped
  rw [chain] at later same
  have written := same proc rfl
  apply moduleProcess_at env _ popped
  · exact ⟨written.request, written.screenshot, written.score⟩
  · exact fun isWait => later (congrArg some isWait)

end Modules

end XBusiness
