import XBusiness.Data.ParseFaults
import XBusiness.Workflow.Course
import XBusiness.Workflow.Rendezvous

/-! # Every course ends, in the order of its chain

* `Created` — the sessions that `handle` and `handleFromRedis` hand to the pool.
* `session_ends` — a session ends within a number of modules that is known when it is made:
  retries, urls and modules that are left never grow together.
* `chain_in_order` — its chain is always a rest of the first one, with at most one module put back
  in front and the output that `GetPlugin` has added behind.
-/

namespace XBusiness

open Interaction

/-! ## The sessions of the pool -/

/-- A session that is made for a message from Kafka, or for a message from Redis with an answer of
    the trace space that is accepted. -/
inductive Created (env : Env) : Session → Prop where
  | fromKafka (ref : Nat) (data : PmPtr) (kafkaData : BaseData)
      (parsed : parseMessage env (some data) data.msg.payload = .ok (some kafkaData)) :
      Created env (.make env ref kafkaData)
  | fromRedis (ref : Nat) (payload picResult : String) (kafkaData : BaseData) (session : Session)
      (parsed : parseMessage env none payload = .ok (some kafkaData))
      (accepted : (getPersonResult env picResult).run (.make env ref kafkaData) = .ok (true, session)) :
      Created env session

theorem Created.itinerary {env : Env} {session : Session} (created : Created env session) :
    ∃ ref data payload kafkaData, parseMessage env data payload = .ok (some kafkaData) ∧
      session.itinerary = (Session.make env ref kafkaData).itinerary := by
  cases created with
  | fromKafka ref data kafkaData parsed => exact ⟨ref, _, _, kafkaData, parsed, rfl⟩
  | fromRedis ref payload picResult kafkaData session parsed accepted =>
    exact ⟨ref, _, _, kafkaData, parsed, parseTraceAnswer_preserves env _ picResult _ _ _ accepted⟩

theorem makeProcessChain_nodup (self : BaseData) : (makeProcessChain self).Nodup := by
  unfold makeProcessChain businessChain
  split
  · split
    · split <;> decide
    · decide
  all_goals decide

/-- What every step leaves: the session is not finished, in the queue it has something left to do,
    and requests are those of the HTTP modules. -/
structure Underway (pending : Pending) : Prop where
  unfinished : ∀ session, pending.session? = some session → session.itinerary.isFinished = false
  more : ∀ session, pending = .queued session → session.procChain ≠ []
  http : ∀ session procType request, pending = .requested session procType request → procType.isHttp = true

theorem underway_queued {session : Session} (unfinished : session.itinerary.isFinished = false)
    (more : session.procChain ≠ []) : Underway (.queued session) where
  unfinished _ same := by cases same; exact unfinished
  more _ same := by cases same; exact more
  http _ _ _ impossible := by cases impossible

theorem underway_ended : Underway .ended where
  unfinished _ impossible := by cases impossible
  more _ impossible := by cases impossible
  http _ _ _ impossible := by cases impossible

theorem Processed.underway {procType : ProcType} {itinerary : Itinerary} {added : List ProcType}
    {pending : Pending} (processed : Processed procType itinerary added pending)
    (unfinished : itinerary.isFinished = false) : Underway pending := by
  cases processed with
  | ended => exact underway_ended
  | passed session plain more same => exact underway_queued (by rw [same]; exact unfinished) more
  | requested session request http url same =>
    refine ⟨?_, ?_, ?_⟩
    · rintro _ ⟨⟩
      rw [same]
      unfold Itinerary.requesting
      split <;> exact unfinished
    · intro _ impossible
      cases impossible
    · rintro _ _ _ ⟨⟩
      exact http

theorem procChain_of_itinerary {session : Session} {itinerary : Itinerary}
    (same : session.itinerary = itinerary) : session.procChain = itinerary.procChain :=
  congrArg Itinerary.procChain same

theorem Answered.underway {procType : ProcType} {itinerary : Itinerary} {pending : Pending}
    (answered : Answered procType itinerary pending) (unfinished : itinerary.isFinished = false) :
    Underway pending := by
  cases answered with
  | ended => exact underway_ended
  | accepted session more same => exact underway_queued (by rw [same]; exact unfinished) more
  | next session download more same =>
    apply underway_queued
    · rw [same]
      exact unfinished
    · rw [procChain_of_itinerary same]
      simp
  | retried session left same =>
    apply underway_queued
    · rw [same]
      exact unfinished
    · rw [procChain_of_itinerary same]
      simp [Itinerary.retrying]

theorem Moves.underway {course next : Course} (moves : Moves course next)
    (underway : Underway course.pending) : Underway next.pending := by
  cases moves with
  | rests => exact underway
  | stops => exact underway_ended
  | processed session procType rest executed subscribed found pending chain finds processed =>
    exact processed.underway (underway.unfinished session rfl)
  | answered session procType request executed subscribed pending answered =>
    exact answered.underway (underway.unfinished session rfl)

theorem Created.underway {env : Env} {session : Session} (created : Created env session) :
    Underway (.queued session) := by
  obtain ⟨ref, data, payload, kafkaData, parsed, same⟩ := created.itinerary
  apply underway_queued
  · rw [same]
    rfl
  · rw [procChain_of_itinerary same]
    show makeProcessChain kafkaData ≠ []
    unfold makeProcessChain businessChain
    split
    · split
      · split <;> simp
      · simp
    all_goals simp

/-! ## Every course ends -/

/-- The modules that a session may still execute: those of its chain, one for each retry, one for
    the output that `GetPlugin` may add, and the downloads of the further urls. -/
def Itinerary.stepsLeft (itinerary : Itinerary) (urlsLeft : Nat) : Nat :=
  itinerary.procChain.length + itinerary.httpRetryTime + itinerary.procChain.count .getPlugin + urlsLeft

/-- The urls that may be downloaded after the one of the next download. -/
def Itinerary.urlsLeft (itinerary : Itinerary) : Nat :=
  if .downloadImage ∈ itinerary.procChain then itinerary.urlCount - 1 - itinerary.urlIndex else 0

def Pending.stepsLeft : Pending → Nat
  | queued session => session.itinerary.stepsLeft session.itinerary.urlsLeft
  | requested session procType _ =>
    if procType = .downloadImage then
      session.itinerary.stepsLeft (session.itinerary.urlCount - session.itinerary.urlIndex)
    else
      session.itinerary.stepsLeft session.itinerary.urlsLeft
  | ended => 0

/-- What is taken from the chain or added to it does not bring urls back. -/
theorem urlsLeft_le {itinerary other : Itinerary}
    (kept : .downloadImage ∈ itinerary.procChain → .downloadImage ∈ other.procChain)
    (index : itinerary.urlIndex = other.urlIndex) (count : itinerary.urlCount = other.urlCount) :
    itinerary.urlsLeft ≤ other.urlsLeft := by
  unfold Itinerary.urlsLeft
  rw [index, count]
  by_cases member : .downloadImage ∈ itinerary.procChain
  · rw [if_pos member, if_pos (kept member)]
  · rw [if_neg member]
    exact Nat.zero_le _

/-- A module takes one of the steps that are left. -/
theorem Processed.stepsLeft {procType : ProcType} {session : Session} {rest : List ProcType} {found : Bool}
    {pending : Pending} (chain : session.procChain = procType :: rest)
    (finds : found = true → procType = .getPlugin)
    (processed : Processed procType { session.itinerary with procChain := rest } (addedOutput found)
      pending) :
    pending.stepsLeft + 1 ≤ (Pending.queued session).stepsLeft := by
  have before : session.itinerary.procChain = procType :: rest := chain
  cases processed with
  | ended =>
    simp only [Pending.stepsLeft, Itinerary.stepsLeft, before, List.length_cons]
    omega
  | passed next plain more same =>
    have urls : next.itinerary.urlsLeft ≤ session.itinerary.urlsLeft := by
      apply urlsLeft_le
      · rw [same, before]
        cases found <;> simp_all [addedOutput]
      · rw [same]
      · rw [same]
    have retries : next.itinerary.httpRetryTime = session.itinerary.httpRetryTime := by rw [same]
    have after : next.itinerary.procChain = rest ++ addedOutput found := by rw [same]
    simp only [Pending.stepsLeft, Itinerary.stepsLeft, before, after, retries, List.length_append,
      List.length_cons, List.count_append, List.count_cons]
    cases found with
    | false =>
      simp only [addedOutput, Bool.false_eq_true, if_false, List.length_nil, List.count_nil]
      omega
    | true =>
      -- the output takes the place of the plugin
      cases finds rfl
      simp only [addedOutput, if_true, List.length_cons, List.length_nil, beq_self_eq_true]
      have other : List.count ProcType.getPlugin [ProcType.outputKafka] = 0 := rfl
      omega
  | requested next request http url same =>
    by_cases download : procType = .downloadImage
    · subst download
      have inside := url rfl
      have urls : session.itinerary.urlsLeft =
          session.itinerary.urlCount - 1 - session.itinerary.urlIndex := by
        simp [Itinerary.urlsLeft, before]
      simp only [Itinerary.requesting, if_true] at same
      simp only [Pending.stepsLeft, if_true, same, Itinerary.stepsLeft, before, urls, List.length_cons,
        List.count_cons] at inside ⊢
      omega
    · simp only [Itinerary.requesting, if_neg download] at same
      have urls : next.itinerary.urlsLeft ≤ session.itinerary.urlsLeft := by
        apply urlsLeft_le
        · rw [same, before]
          exact List.mem_cons_of_mem _
        · rw [same]
        · rw [same]
      simp only [Pending.stepsLeft, if_neg download]
      simp only [same, Itinerary.stepsLeft, before, List.length_cons, List.count_cons] at urls ⊢
      omega

/-- A response leaves as many steps as before, or fewer. -/
theorem Answered.stepsLeft {procType : ProcType} {session : Session} {request : RequestInfo}
    {pending : Pending} (plugin : procType ≠ .getPlugin) (answered : Answered procType session.itinerary pending) :
    pending.stepsLeft ≤ (Pending.requested session procType request).stepsLeft := by
  cases answered with
  | ended => exact Nat.zero_le _
  | accepted next more same =>
    by_cases download : procType = .downloadImage
    · -- the queue counts no more urls than were counted while the download was requested
      have urls : session.itinerary.urlsLeft ≤ session.itinerary.urlCount - session.itinerary.urlIndex := by
        unfold Itinerary.urlsLeft
        split <;> omega
      simp only [Pending.stepsLeft, if_pos download, same, Itinerary.stepsLeft]
      omega
    · simp only [Pending.stepsLeft, if_neg download, same]
      exact Nat.le_refl _
  | next next download more same =>
    simp only [Pending.stepsLeft, if_pos download, same, Itinerary.stepsLeft, Itinerary.urlsLeft,
      List.mem_cons, true_or, if_true, List.length_cons, List.count_cons]
    have other : (ProcType.downloadImage == ProcType.getPlugin) = false := rfl
    simp only [other, Bool.false_eq_true, if_false]
    omega
  | retried next left same =>
    have other : (procType == ProcType.getPlugin) = false := beq_false_of_ne plugin
    by_cases download : procType = .downloadImage
    · subst download
      simp only [Pending.stepsLeft, if_true, same, Itinerary.retrying, Itinerary.stepsLeft,
        Itinerary.urlsLeft, List.mem_cons, true_or, List.length_cons, List.count_cons, other,
        Bool.false_eq_true, if_false]
      omega
    · -- a retry is paid for by the retry time
      have urls : next.itinerary.urlsLeft ≤ session.itinerary.urlsLeft := by
        apply urlsLeft_le
        · rw [same]
          intro member
          cases member with
          | head => exact absurd rfl download
          | tail _ member => exact member
        · rw [same]
          simp [Itinerary.retrying, download]
        · rw [same]
          rfl
      simp only [Pending.stepsLeft, if_neg download]
      simp only [same, Itinerary.retrying, Itinerary.stepsLeft, List.length_cons, List.count_cons, other,
        Bool.false_eq_true, if_false] at urls ⊢
      omega

theorem Moves.stepsLeft {course next : Course} (moves : Moves course next)
    (underway : Underway course.pending) :
    next.executed.length + next.pending.stepsLeft ≤ course.executed.length + course.pending.stepsLeft := by
  cases moves with
  | rests => exact Nat.le_refl _
  | stops => simp [Pending.stepsLeft]
  | processed session procType rest executed subscribed found pending chain finds processed =>
    have left := processed.stepsLeft chain fun isFound => (finds isFound).1
    simp only [List.length_cons]
    omega
  | answered session procType request executed subscribed pending answered =>
    have plugin : procType ≠ .getPlugin := by
      rintro rfl
      cases underway.http session .getPlugin request rfl
    have left : pending.stepsLeft ≤ (Pending.requested session procType request).stepsLeft :=
      answered.stepsLeft plugin
    dsimp only
    omega

/-- The steps that are left, with the callback of a request as a step of its own. -/
def Course.rank (course : Course) : Nat :=
  match course.pending with
  | .queued _ => 2 * course.pending.stepsLeft
  | .requested _ _ _ => 2 * course.pending.stepsLeft + 1
  | .ended => 0

theorem Moves.rank {course next : Course} (moves : Moves course next) (underway : Underway course.pending)
    (unfinished : course.pending ≠ .ended) : next.pending = .ended ∨ next.rank < course.rank := by
  cases moves with
  | rests => exact absurd rfl unfinished
  | stops => exact .inl rfl
  | processed session procType rest executed subscribed found pending chain finds processed =>
    have left := processed.stepsLeft chain fun isFound => (finds isFound).1
    cases pending with
    | ended => exact .inl rfl
    | queued next =>
      right
      simp only [Course.rank]
      omega
    | requested next other request =>
      right
      simp only [Course.rank]
      omega
  | answered session procType request executed subscribed pending answered =>
    have plugin : procType ≠ .getPlugin := by
      rintro rfl
      cases underway.http session .getPlugin request rfl
    have left : pending.stepsLeft ≤ (Pending.requested session procType request).stepsLeft :=
      answered.stepsLeft plugin
    cases answered with
    | ended => exact .inl rfl
    | accepted | next | retried =>
      right
      simp only [Course.rank]
      omega

theorem courseStep_underway {env : Env} {course next : Course} {moment : Moment}
    (underway : Underway course.pending) (stepped : course.step env moment = some next) :
    Underway next.pending :=
  (course_moves underway.unfinished stepped).underway underway

theorem courseStep_ended {env : Env} (course : Course) (moment : Moment) (next : Course)
    (ended : course.pending = .ended) (stepped : course.step env moment = some next) :
    next.pending = .ended := by
  unfold Course.step at stepped
  rw [ended] at stepped
  cases stepped
  exact ended

theorem rank_pos {course : Course} (underway : Underway course.pending)
    (unfinished : course.pending ≠ .ended) : 0 < course.rank := by
  obtain ⟨pending, executed, subscribed⟩ := course
  cases pending with
  | ended => exact absurd rfl unfinished
  | queued session =>
    have more : 0 < session.itinerary.procChain.length :=
      List.length_pos_of_ne_nil (underway.more session rfl)
    simp only [Course.rank, Pending.stepsLeft, Itinerary.stepsLeft]
    omega
  | requested session procType request =>
    simp only [Course.rank]
    omega

/-- The configured number of retries, which is not negative, or the default one. -/
def configuredRetries (env : Env) : Nat :=
  match env.conf.getIntValue "common" "httpretrytime" with
  | some times => times.toNat
  | none => 3

/-- The modules that a session may execute: its chain, the urls after the first one, the retries,
    and an output. -/
def stepBound (env : Env) (session : Session) : Nat :=
  session.procChain.length + (session.kafkaData.getUrlCount - 1) + configuredRetries env + 1

theorem Created.stepsLeft {env : Env} {session : Session} (created : Created env session)
    (configured : ∀ times, env.conf.getIntValue "common" "httpretrytime" = some times → 0 ≤ times) :
    (Pending.queued session).stepsLeft ≤ stepBound env session := by
  obtain ⟨ref, data, payload, kafkaData, parsed, same⟩ := created.itinerary
  have retries : session.itinerary.httpRetryTime ≤ configuredRetries env := by
    rw [same]
    simp only [Session.itinerary, Session.make, configuredRetries]
    cases conf : env.conf.getIntValue "common" "httpretrytime" with
    | none => exact Nat.le_refl _
    | some times =>
      have positive := configured times conf
      dsimp only
      omega
  have plugin : session.itinerary.procChain.count .getPlugin ≤ 1 := by
    rw [same]
    exact List.nodup_iff_count.mp (makeProcessChain_nodup kafkaData) _
  have urls : session.itinerary.urlsLeft ≤ session.itinerary.urlCount - 1 := by
    unfold Itinerary.urlsLeft
    split <;> omega
  have length : session.itinerary.procChain.length = session.procChain.length := rfl
  have count : session.itinerary.urlCount = session.kafkaData.getUrlCount := rfl
  simp only [Pending.stepsLeft, Itinerary.stepsLeft, stepBound]
  omega

/-- The induction over a course: what the moves of a course that is underway keep. -/
theorem Created.invariant {env : Env} {session : Session} {course : Course} {property : Course → Prop}
    (created : Created env session) (start : property ⟨.queued session, [], false⟩)
    (kept : ∀ before next, Underway before.pending → Moves before next → property before → property next)
    (reachable : (courseMachine env session).Reachable course) : Underway course.pending ∧ property course := by
  refine @Machine.Reachable.invariant _ _ _ (fun course => Underway course.pending ∧ property course)
    ⟨created.underway, start⟩ ?_ _ reachable
  rintro before moment next ⟨underway, holds⟩ stepped
  have moves := course_moves underway.unfinished stepped
  exact ⟨moves.underway underway, kept before next underway moves holds⟩

theorem underway_of_reachable {env : Env} {session : Session} {course : Course} (created : Created env session)
    (reachable : (courseMachine env session).Reachable course) : Underway course.pending :=
  (@Created.invariant _ _ _ (fun _ => True) created trivial (fun _ _ _ _ _ => trivial) reachable).1

/-- What was executed and what is left stay below the bound. -/
theorem stepsLeft_of_reachable {env : Env} {session : Session} {course : Course} (created : Created env session)
    (configured : ∀ times, env.conf.getIntValue "common" "httpretrytime" = some times → 0 ≤ times)
    (reachable : (courseMachine env session).Reachable course) :
    course.executed.length + course.pending.stepsLeft ≤ stepBound env session := by
  refine (@Created.invariant _ _ _ (fun course =>
    course.executed.length + course.pending.stepsLeft ≤ stepBound env session) created ?_ ?_ reachable).2
  · simpa using created.stepsLeft configured
  · exact fun before next underway moves left => (moves.stepsLeft underway).trans left

/-- Whatever is answered, a session executes a bounded number of modules, and it has ended when the
    pool has made twice as many steps for it. -/
theorem session_ends (env : Env) (session : Session) (created : Created env session)
    (configured : ∀ times, env.conf.getIntValue "common" "httpretrytime" = some times → 0 ≤ times)
    (moments : List Moment) (course : Course)
    (ran : (courseMachine env session).run (courseMachine env session).start moments = some course) :
    course.executed.length ≤ stepBound env session ∧
      (2 * stepBound env session ≤ moments.length → course.pending = .ended) := by
  have start := created.stepsLeft configured
  constructor
  · have left := stepsLeft_of_reachable created configured ⟨moments, ran⟩
    omega
  · exact fun enough => @Machine.done_of_rank Course Moment (courseMachine env session)
      (fun course => Underway course.pending) (fun course => course.pending = .ended) Course.rank
      (fun _ _ _ underway stepped => courseStep_underway underway stepped) courseStep_ended
      (fun _ _ _ underway unfinished stepped =>
        (course_moves underway.unfinished stepped).rank underway unfinished)
      (fun _ underway unfinished => rank_pos underway unfinished) _ _ _ created.underway ran
      ((Nat.mul_le_mul_left 2 start).trans enough)

/-- The trace answer is there already, everything succeeds, and nothing answers the requests. -/
def tracedMoment : Moment where
  answer _ request :=
    match request with
    | .redisGet _ => .string answerRecord
    | request => request.succeed
  response := none

theorem capture_created : Created meetingEnv (.make meetingEnv 0 captureData) :=
  .fromKafka 0 captureNode captureData parse_captureMessage

/-- The modules of the capture then, the last one first: the urls are asked for until no retry is
    left. -/
def captureModules : List ProcType :=
  [.generateUrl, .generateUrl, .generateUrl, .generateUrl, .businessSave, .getPlugin, .picWait]

set_option maxRecDepth 16000 in
theorem capture_runs :
    (courseMachine meetingEnv (.make meetingEnv 0 captureData)).run
      (courseMachine meetingEnv (.make meetingEnv 0 captureData)).start (List.replicate 11 tracedMoment) =
      some ⟨.ended, captureModules, false⟩ := rfl

theorem session_ends_capture : captureModules.length ≤ 9 :=
  (session_ends meetingEnv _ capture_created (by intro times impossible; cases impossible) _ _
    capture_runs).1

/-! ## The order of the chain -/

/-- The first list is the second one with modules of the HTTP kind repeated in their places. -/
inductive Repeats : List ProcType → List ProcType → Prop where
  | nil : Repeats [] []
  | step (procType : ProcType) {executed done : List ProcType} (repeats : Repeats executed done) :
      Repeats (procType :: executed) (procType :: done)
  | again (procType : ProcType) {executed done : List ProcType} (http : procType.isHttp = true)
      (repeats : Repeats (procType :: executed) done) : Repeats (procType :: procType :: executed) done

theorem Repeats.head {executed done : List ProcType} (repeats : Repeats executed done) :
    executed.head? = done.head? := by
  induction repeats with
  | nil => rfl
  | step => rfl
  | again procType http repeats inductionHypothesis => exact inductionHypothesis

theorem Repeats.count {executed done : List ProcType} (repeats : Repeats executed done) {procType : ProcType}
    (plain : procType.isHttp = false) : executed.count procType = done.count procType := by
  induction repeats with
  | nil => rfl
  | step next repeats inductionHypothesis => rw [List.count_cons, List.count_cons, inductionHypothesis]
  | @again next executed done http repeats inductionHypothesis =>
    have other : (next == procType) = false := by
      apply beq_false_of_ne
      rintro rfl
      rw [http] at plain
      cases plain
    rw [List.count_cons, inductionHypothesis, other]
    rfl

/-- The rest of the first chain after the module that was executed last. -/
def remaining (initial : List ProcType) : Option ProcType → List ProcType
  | none => initial
  | some last => (initial.dropWhile (· ≠ last)).tail

theorem remaining_split {initial done rest : List ProcType} (nodup : initial.Nodup)
    (split : initial = done.reverse ++ rest) : remaining initial done.head? = rest := by
  cases done with
  | nil => exact split
  | cons last earlier =>
    rw [List.reverse_cons, List.append_assoc, List.singleton_append] at split
    subst split
    have before : ∀ procType ∈ earlier.reverse, (decide (procType ≠ last)) = true := by
      intro procType member
      have disjoint := (List.nodup_append.mp nodup).2.2
      exact decide_eq_true (disjoint procType member last List.mem_cons_self)
    show (List.dropWhile _ _).tail = rest
    rw [List.dropWhile_append_of_pos before, List.dropWhile_cons_of_neg (by simp)]
    rfl

/-- The chain with a module put back in front: none, or the HTTP module that was executed last. -/
def Course.PutBack (course : Course) (again : List ProcType) : Prop :=
  again = [] ∨ ∃ procType, course.executed.head? = some procType ∧ procType.isHttp = true ∧ again = [procType]

/-- The modules are executed in the order of the first chain. -/
structure Course.InOrder (initial : List ProcType) (course : Course) : Prop where
  /-- Between two steps the chain is the rest of the first one, after at most one module that is put
      back, and before the output that `GetPlugin` has added. -/
  chain : ∀ session, course.pending.session? = some session → ∃ again, course.PutBack again ∧
    session.procChain = again ++ remaining initial course.executed.head? ++ addedOutput course.subscribed
  /-- No module is skipped or comes before its turn. -/
  order : ∃ done rest, initial ++ addedOutput course.subscribed = done.reverse ++ rest ∧
    Repeats course.executed done
  once : ∀ procType : ProcType, procType.isHttp = false → course.executed.count procType ≤ 1

/-- What every step keeps: the modules that were executed and the rest of the first chain. -/
inductive OnRoute (initial : List ProcType) (datatype : Int) : Course → Prop where
  | ended (executed done rest : List ProcType) (subscribed : Bool)
      (split : initial ++ addedOutput subscribed = done.reverse ++ rest) (repeats : Repeats executed done)
      (found : subscribed = true → .outputKafka ∉ initial) :
      OnRoute initial datatype ⟨.ended, executed, subscribed⟩
  | queued (session : Session) (executed done rest again : List ProcType) (subscribed : Bool)
      (split : initial = done.reverse ++ rest) (repeats : Repeats executed done)
      (found : subscribed = true → .getPlugin ∈ done ∧ .outputKafka ∉ initial)
      (same : session.itinerary.datatype = datatype)
      (putBack : Course.PutBack ⟨.queued session, executed, subscribed⟩ again)
      (chain : session.procChain = again ++ rest ++ addedOutput subscribed) :
      OnRoute initial datatype ⟨.queued session, executed, subscribed⟩
  | requested (session : Session) (procType : ProcType) (request : RequestInfo)
      (executed done rest : List ProcType) (subscribed : Bool)
      (split : initial = done.reverse ++ rest) (repeats : Repeats executed done)
      (found : subscribed = true → .getPlugin ∈ done ∧ .outputKafka ∉ initial)
      (same : session.itinerary.datatype = datatype)
      (last : executed.head? = some procType) (http : procType.isHttp = true)
      (chain : session.procChain = rest ++ addedOutput subscribed) :
      OnRoute initial datatype ⟨.requested session procType request, executed, subscribed⟩

section OnRoute

variable {initial : List ProcType} {datatype : Int}

theorem itinerary_requesting (itinerary : Itinerary) (procType : ProcType) :
    (itinerary.requesting procType).procChain = itinerary.procChain ∧
      (itinerary.requesting procType).datatype = itinerary.datatype := by
  unfold Itinerary.requesting
  split <;> exact ⟨rfl, rfl⟩

/-- A course may end at every module of its way. -/
theorem OnRoute.ends {executed done rest : List ProcType} {subscribed : Bool}
    (split : initial = done.reverse ++ rest) (repeats : Repeats executed done)
    (isFound : subscribed = true → .getPlugin ∈ done ∧ .outputKafka ∉ initial) :
    OnRoute initial datatype ⟨.ended, executed, subscribed⟩ := by
  apply OnRoute.ended executed done (rest ++ addedOutput subscribed) subscribed
  · rw [split, List.append_assoc]
  · exact repeats
  · exact fun isTrue => (isFound isTrue).2

/-- A module with a request is not the one that finds the plugin. -/
theorem notFound_of_http {procType : ProcType} {found : Bool} (plugin : found = true → procType = .getPlugin)
    (http : procType.isHttp = true) : found = false := by
  cases found with
  | false => rfl
  | true =>
    cases plugin rfl
    cases http

/-- A module that is the next one of the chain, or is executed again. -/
theorem Processed.onRoute {session : Session} {procType : ProcType}
    {chain executed done rest : List ProcType} {found subscribed : Bool} {pending : Pending}
    (processed : Processed procType { session.itinerary with procChain := chain } (addedOutput found) pending)
    (split : initial = done.reverse ++ rest) (repeats : Repeats executed done)
    (isFound : subscribed = true → .getPlugin ∈ done ∧ .outputKafka ∉ initial)
    (same : session.itinerary.datatype = datatype) (last : executed.head? = some procType)
    (plugin : found = true → procType = .getPlugin)
    (after : chain ++ addedOutput found = rest ++ addedOutput subscribed) :
    OnRoute initial datatype ⟨pending, executed, subscribed⟩ := by
  cases processed with
  | ended => exact .ends split repeats isFound
  | passed next plain more kept =>
    apply OnRoute.queued next executed done rest [] subscribed split repeats isFound
    · rw [kept]
      exact same
    · exact .inl rfl
    · rw [procChain_of_itinerary kept]
      exact after
  | requested next request http url kept =>
    have notFound : found = false := notFound_of_http plugin http
    obtain ⟨kept_chain, kept_datatype⟩ :=
      itinerary_requesting { session.itinerary with procChain := chain } procType
    apply OnRoute.requested next procType request executed done rest subscribed split repeats isFound
    · rw [kept, kept_datatype]
      exact same
    · exact last
    · exact http
    · rw [procChain_of_itinerary kept, kept_chain, ← after, notFound]
      simp [addedOutput]

/-- A callback goes on behind the module of its request, or puts that module back. -/
theorem Answered.onRoute {session : Session} {procType : ProcType} {executed done rest : List ProcType}
    {subscribed : Bool} {pending : Pending} (answered : Answered procType session.itinerary pending)
    (split : initial = done.reverse ++ rest) (repeats : Repeats executed done)
    (isFound : subscribed = true → .getPlugin ∈ done ∧ .outputKafka ∉ initial)
    (same : session.itinerary.datatype = datatype) (last : executed.head? = some procType)
    (http : procType.isHttp = true) (chain : session.procChain = rest ++ addedOutput subscribed) :
    OnRoute initial datatype ⟨pending, executed, subscribed⟩ := by
  cases answered with
  | ended => exact .ends split repeats isFound
  | accepted next more kept =>
    apply OnRoute.queued next executed done rest [] subscribed split repeats isFound
    · rw [kept]
      exact same
    · exact .inl rfl
    · rw [procChain_of_itinerary kept]
      exact chain
  | next next download more kept =>
    apply OnRoute.queued next executed done rest [procType] subscribed split repeats isFound
    · rw [kept]
      exact same
    · exact .inr ⟨procType, last, http, rfl⟩
    · rw [procChain_of_itinerary kept, download]
      exact congrArg (ProcType.downloadImage :: ·) chain
  | retried next left kept =>
    apply OnRoute.queued next executed done rest [procType] subscribed split repeats isFound
    · rw [kept]
      exact same
    · exact .inr ⟨procType, last, http, rfl⟩
    · rw [procChain_of_itinerary kept]
      exact congrArg (procType :: ·) chain

/-- The plugin is looked up once, so nothing was added before it. -/
theorem notSubscribed_of_getPlugin {done rest : List ProcType} {subscribed : Bool} (nodup : initial.Nodup)
    (split : initial = done.reverse ++ .getPlugin :: rest) (earlier : subscribed = true → .getPlugin ∈ done) :
    subscribed = false := by
  cases subscribed with
  | false => rfl
  | true =>
    rw [split] at nodup
    have disjoint := (List.nodup_append.mp nodup).2.2
    exact absurd rfl
      (disjoint .getPlugin (List.mem_reverse.mpr (earlier rfl)) .getPlugin List.mem_cons_self)

/-- The next module of the first chain is executed. -/
theorem Processed.onRoute_next {session : Session} {procType : ProcType} {executed done rest : List ProcType}
    {found subscribed : Bool} {pending : Pending} (nodup : initial.Nodup)
    (output : .getPlugin ∈ initial → datatype = 2 ∨ datatype = 3 → .outputKafka ∉ initial)
    (processed : Processed procType { session.itinerary with procChain := rest ++ addedOutput subscribed }
      (addedOutput found) pending)
    (split : initial = done.reverse ++ procType :: rest) (repeats : Repeats executed done)
    (isFound : subscribed = true → .getPlugin ∈ done ∧ .outputKafka ∉ initial)
    (same : session.itinerary.datatype = datatype)
    (finds : found = true → procType = .getPlugin ∧
      (session.itinerary.datatype = 2 ∨ session.itinerary.datatype = 3)) :
    OnRoute initial datatype ⟨pending, procType :: executed, subscribed || found⟩ := by
  have plugin := fun isTrue => (finds isTrue).1
  have splitNext : initial = (procType :: done).reverse ++ rest := by simp [split]
  have isFoundNext : (subscribed || found) = true →
      .getPlugin ∈ procType :: done ∧ .outputKafka ∉ initial := by
    intro isTrue
    cases subscribed with
    | true => exact ⟨List.mem_cons_of_mem _ (isFound rfl).1, (isFound rfl).2⟩
    | false =>
      obtain ⟨isPlugin, isDatatype⟩ := finds isTrue
      have member : ProcType.getPlugin ∈ initial := by simp [split, isPlugin]
      rw [same] at isDatatype
      exact ⟨by simp [isPlugin], output member isDatatype⟩
  apply processed.onRoute splitNext (.step procType repeats) isFoundNext same rfl plugin
  -- the output is added at most once
  cases found with
  | false => simp [addedOutput]
  | true =>
    cases plugin rfl
    have notBefore : subscribed = false :=
      notSubscribed_of_getPlugin nodup split fun isTrue => (isFound isTrue).1
    simp [addedOutput, notBefore]

/-- The output that was added is executed, and there is nothing behind it. -/
theorem Processed.onRoute_added {session : Session} {executed done : List ProcType} {found : Bool}
    {pending : Pending}
    (processed : Processed .outputKafka { session.itinerary with procChain := [] } (addedOutput found) pending)
    (split : initial = done.reverse) (repeats : Repeats executed done) (notOutput : .outputKafka ∉ initial)
    (plugin : found = true → ProcType.outputKafka = .getPlugin) :
    OnRoute initial datatype ⟨pending, .outputKafka :: executed, true⟩ := by
  have notFound : found = false := by
    cases found with
    | false => rfl
    | true => cases plugin rfl
  subst notFound
  cases processed with
  | ended =>
    apply OnRoute.ended _ (.outputKafka :: done) [] true
    · rw [split]
      simp [addedOutput]
    · exact .step _ repeats
    · exact fun _ => notOutput
  | passed next plain more kept =>
    rw [procChain_of_itinerary kept] at more
    exact absurd rfl more
  | requested next request http => cases http

theorem Moves.onRoute {course next : Course} (nodup : initial.Nodup)
    (output : .getPlugin ∈ initial → datatype = 2 ∨ datatype = 3 → .outputKafka ∉ initial)
    (moves : Moves course next) (onRoute : OnRoute initial datatype course) :
    OnRoute initial datatype next := by
  cases moves with
  | rests => exact onRoute
  | stops session executed subscribed empty =>
    cases onRoute with
    | queued _ _ done rest again _ split repeats found same putBack chain => exact .ends split repeats found
  | answered session procType request executed subscribed pending answered =>
    cases onRoute with
    | requested _ _ _ _ done rest _ split repeats found same last http chain =>
      exact answered.onRoute split repeats found same last http chain
  | processed session procType chain executed subscribed isFound pending before finds processed =>
    cases onRoute with
    | queued _ _ done rest again _ split repeats found same putBack whole =>
      rw [before] at whole
      have plugin := fun isTrue => (finds isTrue).1
      rcases putBack with rfl | ⟨module, last, http, rfl⟩
      · cases rest with
        | nil =>
          -- the chain is at the output that was added
          cases subscribed with
          | false => cases whole
          | true =>
            cases whole
            rw [List.append_nil] at split
            exact processed.onRoute_added split repeats (found rfl).2 plugin
        | cons head rest =>
          obtain ⟨rfl, rfl⟩ := List.cons.inj whole
          exact processed.onRoute_next nodup output split repeats found same finds
      · -- the module that was put back is executed again
        obtain ⟨rfl, rfl⟩ := List.cons.inj whole
        have notFound : isFound = false := notFound_of_http plugin http
        subst notFound
        rw [Bool.or_false]
        obtain ⟨earlier, rfl⟩ := List.head?_eq_some_iff.mp last
        apply processed.onRoute split (.again procType http repeats) found same rfl plugin
        simp [addedOutput]

theorem nodup_addedOutput (nodup : initial.Nodup) {subscribed : Bool}
    (found : subscribed = true → .outputKafka ∉ initial) : (initial ++ addedOutput subscribed).Nodup := by
  cases subscribed with
  | false => simpa [addedOutput] using nodup
  | true =>
    refine List.nodup_append.mpr ⟨nodup, by simp [addedOutput], ?_⟩
    intro procType member _ added
    cases List.mem_singleton.mp added
    rintro rfl
    exact found rfl member

theorem OnRoute.inOrder {course : Course} (nodup : initial.Nodup) (onRoute : OnRoute initial datatype course) :
    course.InOrder initial := by
  -- the modules that were executed are the first ones of a chain without repetitions
  have ordered : ∃ done rest, initial ++ addedOutput course.subscribed = done.reverse ++ rest ∧
      Repeats course.executed done ∧ (course.subscribed = true → .outputKafka ∉ initial) := by
    cases onRoute with
    | ended executed done rest subscribed split repeats found => exact ⟨done, rest, split, repeats, found⟩
    | queued session executed done rest again subscribed split repeats found =>
      exact ⟨done, rest ++ addedOutput subscribed, by rw [split, List.append_assoc], repeats,
        fun isTrue => (found isTrue).2⟩
    | requested session procType request executed done rest subscribed split repeats found =>
      exact ⟨done, rest ++ addedOutput subscribed, by rw [split, List.append_assoc], repeats,
        fun isTrue => (found isTrue).2⟩
  obtain ⟨done, rest, splitAll, repeatsAll, foundAll⟩ := ordered
  refine ⟨?_, ⟨done, rest, splitAll, repeatsAll⟩, ?_⟩
  · intro session isPending
    cases onRoute with
    | ended => cases isPending
    | queued _ executed done rest again subscribed split repeats found same putBack chain =>
      cases isPending
      refine ⟨again, putBack, ?_⟩
      rw [chain, repeats.head, remaining_split nodup split]
    | requested _ procType request executed done rest subscribed split repeats found same last http chain =>
      cases isPending
      refine ⟨[], .inl rfl, ?_⟩
      rw [chain, repeats.head, remaining_split nodup split]
      rfl
  · intro procType plain
    have whole := nodup_addedOutput nodup foundAll
    rw [splitAll] at whole
    have atMost := List.nodup_iff_count.mp whole procType
    rw [List.count_append, List.count_reverse] at atMost
    rw [repeatsAll.count plain]
    omega

end OnRoute

/-! ## The data type of the plugin -/

/-- Where the plugin is looked up, a data type that an output is added for belongs to a chain
    without one. -/
def OutputOnce (kafkaData : BaseData) : Prop :=
  .getPlugin ∈ makeProcessChain kafkaData →
    kafkaData.plugin.datatype = 2 ∨ kafkaData.plugin.datatype = 3 → .outputKafka ∉ makeProcessChain kafkaData

def MadeOnce (made : Option BaseData) : Prop := ∀ kafkaData, made = some kafkaData → OutputOnce kafkaData

theorem madeOnce_none : MadeOnce none := by
  intro kafkaData impossible
  cases impossible

theorem readDatatype_returns (plugin : PluginInfo) (msgType : Option Int) :
    Returns (fun datatype => datatype = (msgType.map (· + 2)).getD plugin.datatype)
      (readDatatype plugin msgType) := by
  cases msgType with
  | none => exact .pure rfl
  | some msgType =>
    intro datatype read
    simp only [readDatatype, checkInt] at read
    split at read
    · cases read
      rfl
    · cases read

/-- The data type of an event is 4 where its chain ends in an output. -/
theorem parseBusinessEvent_outputOnce {self : BaseData} (business : self.dataClass = .business)
    (msgType : self.event.msgType = 0) (payloadJv : Json) :
    Returns MadeOnce (parseBusinessEvent self payloadJv) := by
  apply Returns.bind
  intro eventJv
  cases eventJv with
  | none => exact .pure madeOnce_none
  | some eventJv =>
    iterate 8 (apply Returns.bind; intro _)
    rename_i msgType?
    refine Returns.bind_of (readDatatype_returns self.plugin msgType?) fun datatype same => ?_
    iterate 4 (apply Returns.bind; intro _)
    apply Returns.pure
    rintro _ ⟨⟩ _ isDatatype
    have notCapture : msgType?.getD self.event.msgType ≠ MsgType.businessCapture := by
      cases msgType? with
      | none => simp [msgType, MsgType.businessCapture]
      | some msgType =>
        simp only [same, Option.map_some, Option.getD_some] at isDatatype
        simp only [Option.getD_some, MsgType.businessCapture]
        omega
    simp [makeProcessChain, business, businessChain, notCapture]

theorem parse_outputOnce (env : Env) {self : BaseData} (msgType : self.event.msgType = 0) :
    Returns MadeOnce (self.parse env) := by
  cases isClass : self.dataClass with
  | business =>
    have parses : self.parse env = parseWith env parseBusinessEvent self := by
      simp only [BaseData.parse, isClass, parseBusiness]
    rw [parses]
    apply parseWith_returns env madeOnce_none
    intro msgId ipc payloadJv
    have business : ({ self with msgId := msgId, ipc := ipc } : BaseData).dataClass = .business := isClass
    exact parseBusinessEvent_outputOnce business msgType payloadJv
  | capture =>
    have parses : self.parse env = parseCaptureData env self := by simp only [BaseData.parse, isClass]
    rw [parses]
    apply Returns.bind
    intro parsed
    cases parsed with
    | none => exact .pure madeOnce_none
    | some parsed =>
      apply Returns.pure
      rintro _ ⟨⟩ _ isDatatype
      simp at isDatatype
  | screenshot | xiashunBusiness | xiashunCapture =>
    -- the chains of the other classes do not look the plugin up
    intro made ran kafkaData same member
    have origin := parse_origin env self made ran kafkaData same
    have sameClass : kafkaData.dataClass = self.dataClass := congrArg Prod.fst origin
    simp [makeProcessChain, sameClass, isClass] at member

theorem parseData_msgType (env : Env) (data : Option PmPtr) (payload : String) :
    Returns (fun made => ∀ self, made = some self → self.event.msgType = 0) (parseData env data payload) := by
  rintro _ ran self rfl
  obtain ⟨totalJv, dataJv, payloadType, dataClass, -, -, -, -, rfl⟩ := parseData_reads ran
  rfl

theorem parseMessage_outputOnce (env : Env) (data : Option PmPtr) (payload : String) :
    Returns MadeOnce (parseMessage env data payload) := by
  refine Returns.bind_of (parseData_msgType env data payload) fun made msgType => ?_
  cases made with
  | none => exact .pure madeOnce_none
  | some made => exact parse_outputOnce env (msgType made rfl)

theorem Created.onRoute {env : Env} {session : Session} (created : Created env session) :
    session.procChain.Nodup ∧
      (.getPlugin ∈ session.procChain → session.itinerary.datatype = 2 ∨ session.itinerary.datatype = 3 →
        .outputKafka ∉ session.procChain) := by
  obtain ⟨ref, data, payload, kafkaData, parsed, same⟩ := created.itinerary
  have chain : session.procChain = makeProcessChain kafkaData := procChain_of_itinerary same
  rw [chain, same]
  exact ⟨makeProcessChain_nodup kafkaData, parseMessage_outputOnce env data payload _ parsed kafkaData rfl⟩

theorem onRoute_of_reachable {env : Env} {session : Session} {course : Course} (created : Created env session)
    (reachable : (courseMachine env session).Reachable course) :
    OnRoute session.procChain session.itinerary.datatype course := by
  obtain ⟨nodup, output⟩ := created.onRoute
  refine (created.invariant ?_ ?_ reachable).2
  · exact .queued session [] [] session.procChain [] false rfl .nil (by simp) rfl (.inl rfl) (by simp [addedOutput])
  · exact fun before next underway moves onRoute => moves.onRoute nodup output onRoute

/-- At every moment between two steps, whatever was answered, the chain of a session is the rest of
    its first chain, and the modules without a request are executed once. -/
theorem chain_in_order (env : Env) (session : Session) (created : Created env session)
    (moments : List Moment) (course : Course)
    (ran : (courseMachine env session).run (courseMachine env session).start moments = some course) :
    course.InOrder session.procChain :=
  (onRoute_of_reachable created ⟨moments, ran⟩).inOrder created.onRoute.1

theorem chain_in_order_capture :
    (⟨.ended, captureModules, false⟩ : Course).InOrder
      [.picWait, .getPlugin, .businessSave, .generateUrl, .outputKafka] :=
  chain_in_order meetingEnv _ capture_created _ _ capture_runs

end XBusiness
