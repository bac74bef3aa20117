import XBusiness.Workflow.Downloads

/-! # The records of the output

`OutPutKafkaModule::Process` asks the data class for its records and enqueues them one after the other.

* `output_delivers` — exactly when a step that succeeds has enqueued one record for every topic.
* `output_loses` — a face set that is not found ends in success without a record.
-/

namespace XBusiness

open Interaction

/-! ## What a run of the output leaves -/

/-- What has become of the session. -/
inductive OutputEnd where
  | pushed
  | finalised (err : ErrCode)
  deriving DecidableEq, Repr

/-- The topics of the records that were enqueued, in order, and the end of the step. -/
structure Output where
  topics : List String := []
  ended : Option OutputEnd := none
  deriving DecidableEq, Repr

def Output.after (output : Output) : (request : FlowCall) → request.Answer → Output
  | .produce topic _, .enqueued => { output with topics := output.topics ++ [topic] }
  | .pushMsg _, _ => { output with ended := some .pushed }
  | .final _ err, _ => { output with ended := some (.finalised err) }
  | _, _ => output

/-- The session was pushed on, or finalised with `kSuccess`. -/
def Output.succeeds (output : Output) : Prop :=
  output.ended = some .pushed ∨ output.ended = some (.finalised .success)

/-- The topics of a data class, with those of the plugin when it is enabled: for a screenshot one for each
    task that wants it. -/
def BaseData.targetTopics (env : Env) (self : BaseData) : List String :=
  let plugin := if self.plugin.enable then self.plugin.topiclist else []
  match self.dataClass with
  | .capture => if self.plugin.enable then plugin else [sectionTopic env "common_capture"]
  | .business => plugin ++ [sectionTopic env "business_capture"]
  | .xiashunCapture => [sectionTopic env "business_capture"]
  | .screenshot =>
    (self.taskArry.filter fun task => task.type = screenshotRequest && task.extra ≠ "city").map fun _ =>
      sectionTopic env "screenshot"
  | .xiashunBusiness => []

/-- The step ends, with a record for every topic or in `kKafkaError`. -/
def Delivers (env : Env) (session : Session) (answer : Nat → (request : FlowCall) → request.Answer) : Prop :=
  ∃ output after,
    ((outputKafkaProcess env).run session).followed Output.after answer 0 {} = .ok (output, after) ∧
      (output.succeeds → output.topics = session.kafkaData.targetTopics env) ∧
      (¬output.succeeds → output.ended = some (.finalised .kafkaError))

/-- Replayed data that the plugin does not want. -/
def Session.isSuppressed (session : Session) : Bool :=
  session.kafkaData.getReplay = 1 ∧ session.kafkaData.plugin.replayPushFlag = 0

/-! ## The producer -/

abbrev outputContract : Contract Output FlowCall FlowCall.Answer :=
  .alone (fun _ _ => True) fun output request answer after => after = output.after request answer

/-- The program raises nothing. -/
abbrev Delivering {α : Type} (post : Output → α → Prop) (program : FlowProg α) (output : Output) : Prop :=
  program.Safe outputContract (fun _ => False) post output

theorem produceTries_delivering (topic data : String) (tries : Nat) (output : Output) :
    Delivering (fun later enqueued => later =
        { output with topics := output.topics ++ if enqueued then [topic] else [] })
      (produceTries topic data tries) output := by
  induction tries with
  | zero =>
    rintro _ rfl
    simp
  | succ tries inductionHypothesis =>
    rintro _ rfl
    refine ⟨trivial, ?_⟩
    rintro result _ rfl
    cases result with
    | enqueued =>
      rintro _ rfl
      rfl
    | failed =>
      rintro _ rfl
      simp [Output.after]
    | queueFull =>
      rintro _ rfl
      refine ⟨trivial, ?_⟩
      rintro _ _ rfl
      exact inductionHypothesis

theorem pushDataToKafka_delivering (record : KafkaOutputInfo) (output : Output) :
    Delivering (fun later enqueued => later =
        { output with topics := output.topics ++ if enqueued then [record.topic] else [] })
      (pushDataToKafka record) output := by
  rintro _ rfl
  refine ⟨trivial, ?_⟩
  rintro handle _ rfl
  cases handle with
  | false =>
    rintro _ rfl
    simp
  | true =>
    show Delivering _ (produceTries record.topic record.data 3 >>= _) _
    apply Prog.Safe.bind
    apply (produceTries_delivering record.topic record.data 3 _).mono
    rintro later enqueued rfl _ rfl
    refine ⟨trivial, ?_⟩
    rintro _ _ rfl _ rfl
    rfl

/-- Where the loop returns true, it has enqueued a record for every entry. -/
theorem pushAllToKafka_delivering (records : List KafkaOutputInfo) (output : Output) :
    Delivering (fun later enqueued =>
        (enqueued = true → later.topics = output.topics ++ records.map KafkaOutputInfo.topic) ∧
          (enqueued = false → records ≠ []))
      (pushAllToKafka records) output := by
  induction records generalizing output with
  | nil =>
    rintro _ rfl
    simp
  | cons record rest inductionHypothesis =>
    apply Prog.Safe.bind
    apply (pushDataToKafka_delivering record output).mono
    rintro later enqueued rfl
    cases enqueued with
    | false =>
      rintro _ rfl
      simp
    | true =>
      apply (inductionHypothesis _).mono
      rintro last all ⟨topics, _⟩
      refine ⟨fun done => ?_, fun _ => List.cons_ne_nil _ _⟩
      rw [topics done]
      simp

/-! ## The end of the step -/

abbrev FlowDelivering {α : Type} (post : Output → α → Session → Prop) (program : Flow α) (output : Output)
    (object : Session) : Prop :=
  StateProg.Safe outputContract (fun _ => False) post program output object

section Ends

variable {output : Output} {object : Session}

theorem final_delivering (output : Output) (err : ErrCode) (unfinished : object.isFinished = false) :
    FlowDelivering (fun later _ _ => later = { output with ended := some (.finalised err) }) (final err)
      output object := by
  apply StateProg.Safe.get
  rw [unfinished]
  rintro _ rfl
  refine ⟨trivial, ?_⟩
  rintro _ _ rfl _ rfl
  rfl

theorem pushOrFinal_delivering (output : Output) (unfinished : object.isFinished = false) :
    FlowDelivering (fun later _ _ => later.succeeds ∧ later.topics = output.topics) pushOrFinal output
      object := by
  apply StateProg.Safe.get
  split
  · apply StateProg.Safe.get
    rintro _ rfl
    refine ⟨trivial, ?_⟩
    rintro _ _ rfl _ rfl
    exact ⟨.inl rfl, rfl⟩
  · apply (final_delivering _ .success unfinished).mono
    rintro later _ _ rfl
    exact ⟨.inr rfl, rfl⟩

/-- What the step does with the records: all of them are enqueued, or it ends in `kKafkaError`. -/
theorem records_delivering (records : List KafkaOutputInfo) (unfinished : object.isFinished = false)
    (wanted : object.isSuppressed = false) :
    FlowDelivering (fun later _ _ =>
        later.succeeds ∧ later.topics = output.topics ++ records.map KafkaOutputInfo.topic ∨
        records ≠ [] ∧ later.ended = some (.finalised .kafkaError))
      (do
        let data := (← get).kafkaData
        if data.getReplay = 1 ∧ data.plugin.replayPushFlag = 0 then
          pushOrFinal
        else if ← Flow.ofProg (pushAllToKafka records) then
          pushOrFinal
        else
          final .kafkaError) output object := by
  apply StateProg.Safe.get
  rw [if_neg (of_decide_eq_false wanted)]
  apply StateProg.Safe.lift
  apply (pushAllToKafka_delivering records output).mono
  rintro later enqueued ⟨topics, nonempty⟩
  cases enqueued with
  | true =>
    apply (pushOrFinal_delivering _ unfinished).mono
    rintro last _ _ ⟨succeeds, same⟩
    exact .inl ⟨succeeds, same.trans (topics rfl)⟩
  | false =>
    apply (final_delivering _ .kafkaError unfinished).mono
    rintro last _ _ rfl
    exact .inr ⟨nonempty rfl, rfl⟩

end Ends

/-! ## The records of a data class -/

/-- What `SwitchFaceSetIdBySetName` returns when it makes the first calls of the step. -/
def Session.faceSetFound (session : Session) (answer : Nat → (request : FlowCall) → request.Answer) : Bool :=
  session.personResult.setName = "" ||
    answer 0 .tryAcquire &&
      match answer 1 (.findOne "faceset" [("set_name", .eq (.utf8 session.personResult.setName))]) with
      | .found view =>
        (Bson.getOid (view.lookup "_id")).isSome && (Bson.getUtf8 (view.lookup "faceset_type")).isSome
      | .notFound | .exception => false

/-- The data of the class makes a record for every topic: a business capture has a url, a capture has a
    face with a time that can be converted and its face set is found, or no topic is wanted. -/
def OutputReady (env : Env) (session : Session) (answer : Nat → (request : FlowCall) → request.Answer) : Prop :=
  let self := session.kafkaData
  match self.dataClass with
  | .business => self.event.msgType = 2 → self.event.captureUris ≠ []
  | .capture =>
    if session.faceSetFound answer then
      ∃ face, self.capture.person.faces.head? = some face ∧
        (face.systm < 2000000000 → -2 ^ 63 ≤ face.systm * 1000)
    else self.targetTopics env = []
  | .xiashunCapture => self.capture.person.faces ≠ []
  | .screenshot | .xiashunBusiness => True

section Records

variable {env : Env} {session after : Session} {answer : Nat → (request : FlowCall) → request.Answer}
  {output : Output}

/-- The run goes on with the answer to its next call. -/
theorem followedTo_call {α : Type} (request : FlowCall) (continuation : request.Answer → Flow α) (index : Nat) :
    ((Flow.call request >>= continuation).run session).followedTo Output.after answer index output =
      ((continuation (answer index request)).run session).followedTo Output.after answer (index + 1)
        (output.after request (answer index request)) := rfl

theorem switchFaceSet_followedTo (session : Session) (answer : Nat → (request : FlowCall) → request.Answer)
    (output : Output) : ∃ next after,
    (switchFaceSetIdBySetName.run session).followedTo Output.after answer 0 output =
        .ok (next, output, session.faceSetFound answer, after) ∧
      after.kafkaData = session.kafkaData ∧ after.isFinished = session.isFinished := by
  rw [Session.faceSetFound]
  simp only [switchFaceSetIdBySetName, StateT.run_bind, StateT.run_get, Prog.pure_eq, Prog.ret_bind]
  by_cases none : session.personResult.setName = ""
  · rw [if_pos none]
    simp only [none, decide_true, Bool.true_or]
    exact ⟨0, session, rfl, rfl, rfl⟩
  · rw [if_neg none, followedTo_call]
    simp only [none, decide_false, Bool.false_or]
    cases acquired : answer 0 FlowCall.tryAcquire with
    | false => exact ⟨1, session, rfl, rfl, rfl⟩
    | true =>
      rw [if_pos rfl, followedTo_call]
      cases answered : answer 1
          (.findOne "faceset" [("set_name", .eq (.utf8 session.personResult.setName))]) with
      | notFound => exact ⟨2, session, rfl, rfl, rfl⟩
      | exception => exact ⟨2, session, rfl, rfl, rfl⟩
      | found view =>
        dsimp only
        cases Bson.getOid (view.lookup "_id") with
        | none => exact ⟨2, session, rfl, rfl, rfl⟩
        | some facesetId =>
          dsimp only
          cases Bson.getUtf8 (view.lookup "faceset_type") with
          | none => exact ⟨2, _, rfl, rfl, rfl⟩
          | some setType => exact ⟨2, _, rfl, rfl, rfl⟩

/-- The step succeeds or fails as its records do. -/
theorem delivers_iff_records {records : List KafkaOutputInfo} {next : Nat}
    (ran : ((makeKafkaRequest env).run session).followedTo Output.after answer 0 {} =
      .ok (next, {}, some records, after))
    (unfinished : after.isFinished = false) (wanted : after.isSuppressed = false)
    (complete : records ≠ [] → records.map KafkaOutputInfo.topic = session.kafkaData.targetTopics env) :
    Delivers env session answer ↔ records.map KafkaOutputInfo.topic = session.kafkaData.targetTopics env := by
  obtain ⟨output, last, followed, ends⟩ :=
    (records_delivering records unfinished wanted).followed_ok answer next
  have whole : ((outputKafkaProcess env).run session).followed Output.after answer 0 {} = .ok (output, last) := by
    rw [outputKafkaProcess, StateT.run_bind, Prog.followed_bind ran]
    exact followed
  constructor
  · rintro ⟨other, _, same, succeeds, _⟩
    rw [whole] at same
    cases same
    obtain ⟨success, topics⟩ | ⟨nonempty, _⟩ := ends
    · exact (topics.symm.trans (succeeds success)).symm ▸ rfl
    · exact complete nonempty
  · intro topics
    refine ⟨output, last, whole, ?_⟩
    obtain ⟨success, sent⟩ | ⟨_, failed⟩ := ends
    · exact ⟨fun _ => sent.trans topics, fun not => absurd success not⟩
    · refine ⟨fun success => ?_, fun _ => failed⟩
      rw [Output.succeeds, failed] at success
      simp at success

/-- The records of a business capture go to every topic, or there are none. -/
theorem makeBusinessKafkaRequest_topics (env : Env) (isBusiness : session.kafkaData.dataClass = .business) :
    (makeBusinessKafkaRequest env session).map KafkaOutputInfo.topic =
      if session.kafkaData.event.msgType = 2 ∧ session.kafkaData.event.captureUris = [] then []
      else session.kafkaData.targetTopics env := by
  have send : ∀ data, ((if session.kafkaData.plugin.enable then session.kafkaData.plugin.topiclist else []).map
        (fun topic => KafkaOutputInfo.mk topic data) ++
          [KafkaOutputInfo.mk (sectionTopic env "business_capture") data]).map KafkaOutputInfo.topic =
      session.kafkaData.targetTopics env := by
    intro data
    simp [BaseData.targetTopics, isBusiness, Function.comp_def]
  rw [makeBusinessKafkaRequest]
  by_cases one : session.kafkaData.event.msgType = 1
  · have notTwo : ¬ session.kafkaData.event.msgType = 2 := by omega
    simp only [if_pos one, notTwo, false_and, if_false]
    exact send _
  · by_cases two : session.kafkaData.event.msgType = 2
    · simp only [two, true_and]
      cases uris : session.kafkaData.event.captureUris with
      | nil => simp
      | cons face rest =>
        rw [if_neg (List.cons_ne_nil face rest)]
        exact send _
    · simp only [if_neg one, two, false_and, if_false]
      exact send _

theorem targetTopics_business_ne_nil (isBusiness : session.kafkaData.dataClass = .business) :
    session.kafkaData.targetTopics env ≠ [] := by
  simp [BaseData.targetTopics, isBusiness]

/-- A capture without a face, or with a time that cannot be converted, is undefined. -/
def Session.faceReady (session : Session) : Prop :=
  ∃ face, session.kafkaData.capture.person.faces.head? = some face ∧
    (face.systm < 2000000000 → -2 ^ 63 ≤ face.systm * 1000)

theorem checkSystm (systm : Int) :
    (if systm < 2000000000 then checkInt64 (systm * 1000) else .ok systm) =
      if systm < 2000000000 → -2 ^ 63 ≤ systm * 1000 then
        .ok (if systm < 2000000000 then systm * 1000 else systm)
      else .error .undefined := by
  by_cases small : systm < 2000000000
  · simp only [if_pos small, checkInt64]
    by_cases bound : -2 ^ 63 ≤ systm * 1000
    · rw [if_pos ⟨bound, by omega⟩, if_pos fun _ => bound]
    · rw [if_neg fun both => bound both.1, if_neg fun holds => bound (holds small)]
  · rw [if_neg small, if_neg small, if_pos fun isSmall => absurd isSmall small]

/-- The records of a capture: none where the face set is not found. -/
theorem makeCapture_followedTo (env : Env) (answer : Nat → (request : FlowCall) → request.Answer)
    (isCapture : session.kafkaData.dataClass = .capture) : ∃ next after,
    after.kafkaData = session.kafkaData ∧ after.isFinished = session.isFinished ∧
      (session.faceSetFound answer = false →
        ((makeKafkaRequest env).run session).followedTo Output.after answer 0 {} =
          .ok (next, {}, some [], after)) ∧
      (session.faceSetFound answer = true → ¬session.faceReady →
        ((makeKafkaRequest env).run session).followedTo Output.after answer 0 {} = .error .undefined) ∧
      (session.faceSetFound answer = true → session.faceReady →
        ∃ records, ((makeKafkaRequest env).run session).followedTo Output.after answer 0 {} =
            .ok (next, {}, some records, after) ∧
          records.map KafkaOutputInfo.topic = session.kafkaData.targetTopics env) := by
  obtain ⟨next, after, switched, sameData, sameEnd⟩ :=
    switchFaceSet_followedTo session answer {}
  -- the face set is looked up first, for every capture
  have begins : (makeKafkaRequest env).run session =
      (do return some (← makeCaptureKafkaRequest env) : Flow _).run session := by
    rw [makeKafkaRequest]
    simp only [StateT.run_bind, StateT.run_get, Prog.pure_eq, Prog.ret_bind, isCapture]
  refine ⟨next, after, sameData, sameEnd, ?_, ?_, ?_⟩
  · intro lost
    rw [begins, makeCaptureKafkaRequest]
    simp only [StateT.run_bind, bind_assoc]
    rw [Prog.followedTo_bind switched]
    rw [lost, if_neg (by simp)]
    rfl
  · intro found notReady
    rw [begins, makeCaptureKafkaRequest]
    simp only [StateT.run_bind, bind_assoc]
    rw [Prog.followedTo_bind switched]
    simp only [found, if_true, StateT.run_bind, StateT.run_get, Prog.pure_eq, Prog.ret_bind, sameData]
    cases faces : session.kafkaData.capture.person.faces with
    | nil => rfl
    | cons face rest =>
      -- the time of the first face, made milliseconds, overflows
      have late : ¬(face.systm < 2000000000 → -2 ^ 63 ≤ face.systm * 1000) :=
        fun holds => notReady ⟨face, by rw [faces]; rfl, holds⟩
      simp only [checkSystm, if_neg late]
      rfl
  · rintro found ⟨face, first, early⟩
    obtain ⟨rest, faces⟩ := List.head?_eq_some_iff.mp first
    rw [begins, makeCaptureKafkaRequest]
    simp only [StateT.run_bind, bind_assoc]
    rw [Prog.followedTo_bind switched]
    simp only [found, if_true, StateT.run_bind, StateT.run_get, Prog.pure_eq, Prog.ret_bind, sameData]
    simp only [faces, checkSystm, if_pos early, Flow.ofExcept_ok]
    by_cases enable : session.kafkaData.plugin.enable = true
    · simp only [StateT.run_bind, StateT.run_pure, Prog.pure_eq, Prog.ret_bind, enable, if_true]
      refine ⟨_, rfl, ?_⟩
      simp [BaseData.targetTopics, isCapture, enable, Function.comp_def]
    · simp only [StateT.run_bind, StateT.run_pure, Prog.pure_eq, Prog.ret_bind, if_neg enable]
      refine ⟨_, rfl, ?_⟩
      simp [BaseData.targetTopics, isCapture, enable]

/-- A step that raises a fault delivers nothing. -/
theorem not_delivers (raised : ((makeKafkaRequest env).run session).followedTo Output.after answer 0 {} =
    .error .undefined) : ¬Delivers env session answer := by
  rintro ⟨output, last, followed, -⟩
  rw [outputKafkaProcess, StateT.run_bind, Prog.followed_bind_error raised] at followed
  cases followed

end Records

/-! ## Class by class -/

section Classes

variable {env : Env} {session : Session} {answer : Nat → (request : FlowCall) → request.Answer}

theorem delivers_business (isClass : session.kafkaData.dataClass = .business)
    (unfinished : session.isFinished = false) (wanted : session.isSuppressed = false) :
    Delivers env session answer ↔
      (session.kafkaData.event.msgType = 2 → session.kafkaData.event.captureUris ≠ []) := by
  have ran : (makeKafkaRequest env).run session =
      .ret (some (makeBusinessKafkaRequest env session), session) := by
    rw [makeKafkaRequest]
    simp only [StateT.run_bind, StateT.run_get, Prog.pure_eq, Prog.ret_bind, isClass]
    rfl
  have topics := makeBusinessKafkaRequest_topics env isClass
  have complete : makeBusinessKafkaRequest env session ≠ [] →
      (makeBusinessKafkaRequest env session).map KafkaOutputInfo.topic = session.kafkaData.targetTopics env := by
    intro nonempty
    split at topics
    · exact absurd (List.map_eq_nil_iff.mp topics) nonempty
    · exact topics
  rw [delivers_iff_records (by rw [ran]; rfl) unfinished wanted complete, topics]
  split
  · next lacks =>
    have some : session.kafkaData.targetTopics env ≠ [] := targetTopics_business_ne_nil isClass
    exact ⟨fun same => absurd same.symm some, fun ready => absurd lacks.2 (ready lacks.1)⟩
  · next has => exact ⟨fun _ two none => has ⟨two, none⟩, fun _ => rfl⟩

theorem delivers_capture (isClass : session.kafkaData.dataClass = .capture)
    (unfinished : session.isFinished = false) (wanted : session.isSuppressed = false) :
    Delivers env session answer ↔
      if session.faceSetFound answer then session.faceReady else session.kafkaData.targetTopics env = [] := by
  obtain ⟨next, after, sameData, sameEnd, lost, unready, ready⟩ :=
    makeCapture_followedTo env answer isClass
  have unfinished : after.isFinished = false := sameEnd.trans unfinished
  have wanted : after.isSuppressed = false := by
    rw [Session.isSuppressed, sameData]
    exact wanted
  cases found : session.faceSetFound answer with
  | false =>
    rw [delivers_iff_records (lost found) unfinished wanted (fun some => absurd rfl some), if_neg (by simp)]
    exact eq_comm
  | true =>
    rw [if_pos rfl]
    by_cases faceReady : session.faceReady
    · obtain ⟨records, ran, topics⟩ := ready found faceReady
      rw [delivers_iff_records ran unfinished wanted fun _ => topics]
      exact iff_of_true topics faceReady
    · exact iff_of_false (not_delivers (unready found faceReady)) faceReady

theorem delivers_xiashunCapture (isClass : session.kafkaData.dataClass = .xiashunCapture)
    (unfinished : session.isFinished = false) (wanted : session.isSuppressed = false) :
    Delivers env session answer ↔ session.kafkaData.capture.person.faces ≠ [] := by
  have ran : (makeKafkaRequest env).run session =
      (do return some (← Flow.ofExcept (makeXiashunCaptureKafkaRequest env session)) : Flow _).run session := by
    rw [makeKafkaRequest]
    simp only [StateT.run_bind, StateT.run_get, Prog.pure_eq, Prog.ret_bind, isClass]
  rw [makeXiashunCaptureKafkaRequest] at ran
  cases faces : session.kafkaData.capture.person.faces with
  | nil =>
    apply iff_of_false _ (fun some => some rfl)
    apply not_delivers
    rw [ran, faces]
    rfl
  | cons face rest =>
    rw [faces] at ran
    have topics : ∀ data, [KafkaOutputInfo.mk (sectionTopic env "business_capture") data].map
        KafkaOutputInfo.topic = session.kafkaData.targetTopics env := by
      intro data
      simp [BaseData.targetTopics, isClass]
    rw [delivers_iff_records (by rw [ran]; rfl) unfinished wanted fun _ => topics _]
    exact iff_of_true (topics _) (List.cons_ne_nil face rest)

theorem delivers_screenshot (isClass : session.kafkaData.dataClass = .screenshot)
    (unfinished : session.isFinished = false) (wanted : session.isSuppressed = false) :
    Delivers env session answer := by
  have ran : (makeKafkaRequest env).run session =
      .ret (some (makeScreenshootKafkaRequest env session.kafkaData), session) := by
    rw [makeKafkaRequest]
    simp only [StateT.run_bind, StateT.run_get, Prog.pure_eq, Prog.ret_bind, isClass]
    rfl
  have topics : (makeScreenshootKafkaRequest env session.kafkaData).map KafkaOutputInfo.topic =
      session.kafkaData.targetTopics env := by
    simp [makeScreenshootKafkaRequest, BaseData.targetTopics, isClass, Function.comp_def]
  rwa [delivers_iff_records (by rw [ran]; rfl) unfinished wanted fun _ => topics]

/-- `PreHandler::makeKafkaRequest` returns false. -/
theorem delivers_xiashunBusiness (isClass : session.kafkaData.dataClass = .xiashunBusiness)
    (unfinished : session.isFinished = false) : Delivers env session answer := by
  have ran : (makeKafkaRequest env).run session = .ret (none, session) := by
    rw [makeKafkaRequest]
    simp only [StateT.run_bind, StateT.run_get, Prog.pure_eq, Prog.ret_bind, isClass]
    rfl
  obtain ⟨output, last, followed, ended⟩ :=
    (final_delivering {} .kafkaError unfinished).followed_ok answer 0
  have failed : output.ended = some (.finalised .kafkaError) := by rw [ended]
  refine ⟨output, last, ?_, ?_, fun _ => failed⟩
  · rw [outputKafkaProcess, StateT.run_bind, ran]
    exact followed
  · intro success
    rw [Output.succeeds, failed] at success
    simp at success

end Classes

/-- For a session that is not finished and no suppressed replay, whatever it carries and whatever Mongo and
    the producer answer: the step ends with a record for every topic or in `kKafkaError` exactly when the
    data of the session is ready. -/
theorem output_delivers (env : Env) (session : Session)
    (answer : Nat → (request : FlowCall) → request.Answer) (unfinished : session.isFinished = false)
    (wanted : session.isSuppressed = false) :
    Delivers env session answer ↔ OutputReady env session answer := by
  cases isClass : session.kafkaData.dataClass with
  | business =>
    simp only [OutputReady, isClass]
    exact delivers_business isClass unfinished wanted
  | capture =>
    simp only [OutputReady, isClass]
    exact delivers_capture isClass unfinished wanted
  | xiashunCapture =>
    simp only [OutputReady, isClass]
    exact delivers_xiashunCapture isClass unfinished wanted
  | screenshot =>
    simp only [OutputReady, isClass]
    exact iff_of_true (delivers_screenshot isClass unfinished wanted) trivial
  | xiashunBusiness =>
    simp only [OutputReady, isClass]
    exact iff_of_true (delivers_xiashunBusiness isClass unfinished) trivial

/-- The session of a capture after some moments. -/
def captureSession (env : Env) (moments : List Moment) : Option Session :=
  ((courseMachine env (.make env 0 facesData)).run (courseMachine env (.make env 0 facesData)).start moments).bind
    fun course => course.pending.session?

set_option maxRecDepth 8000 in
theorem output_delivers_face :
    ∃ session, captureSession facesEnv momentsToOutput = some session ∧ session.procChain = [.outputKafka] ∧
      Delivers facesEnv { session with procChain := [] } fun _ => FlowCall.succeed :=
  ⟨_, rfl, rfl, (output_delivers facesEnv _ _ rfl rfl).mpr ⟨_, rfl, by decide⟩⟩

/-- An answer that puts the person into the face set `s`. -/
def lostAnswer : String :=
  "\x7b\"error_code\":0,\"result\":\x7b\"person_result\":\x7b\"id\":\"p\",\"set_name\":\"s\"\x7d,\"track_result\":\x7b\x7d\x7d\x7d"

/-- The environment in which a text is read as a document. -/
def Env.reading (env : Env) (input : String) (json : Json) : Env where
  text := { env.text with
    charReader := fun other => if other = input then .ok (some json) else env.text.charReader other }
  conf := env.conf
  uninit := env.uninit

def lostEnv : Env :=
  facesEnv.reading lostAnswer (.object [("error_code", .int 0),
    ("result", .object [("person_result", .object [("id", .string "p"), ("set_name", .string "s")]),
      ("track_result", .object [])])])

def momentsToLoss : List Moment :=
  downloadMoments [some ⟨"200 OK", "x"⟩, some ⟨"200 OK", "y"⟩] ++
    [⟨fun _ => FlowCall.succeed, some ⟨"200 OK", lostAnswer⟩⟩, ⟨fun _ => FlowCall.succeed, none⟩,
      ⟨fun _ => FlowCall.succeed, none⟩, ⟨fun _ => FlowCall.succeed, some ⟨"200 OK", ""⟩⟩]

set_option maxRecDepth 8000 in
/-- The face set is not found: the session is finalised with `kSuccess`, and its topic has no record. -/
theorem output_loses :
    ∃ session, captureSession lostEnv momentsToLoss = some session ∧ session.procChain = [.outputKafka] ∧
      session.isFinished = false ∧ session.isSuppressed = false ∧
      session.kafkaData.targetTopics lostEnv = ["/"] ∧
      (((outputKafkaProcess lostEnv).run { session with procChain := [] }).followed Output.after
        (fun _ => FlowCall.succeed) 0 {}).map Prod.fst =
          .ok { topics := [], ended := some (.finalised .success) } ∧
      ¬Delivers lostEnv { session with procChain := [] } fun _ => FlowCall.succeed := by
  refine ⟨_, rfl, rfl, rfl, rfl, rfl, rfl, ?_⟩
  rintro ⟨output, after, ran, succeeds, -⟩
  cases ran
  cases succeeds (.inr rfl)

end XBusiness
