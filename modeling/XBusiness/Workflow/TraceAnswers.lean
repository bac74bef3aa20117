import XBusiness.Data.ParseFaults
import XBusiness.Workflow.Rendezvous

/-! # The two readers of a trace answer

A trace session reads the answer of the service with `ProcTraceSpaceResponse` and stores it; a
business session reads the stored text with `getPersonResult`.  The two are the same reader but for
the error codes that they let through.

* `parseTraceAnswer_outcome` — what a reader returns, from the answer alone.
* `accepts_iff` — which answers a reader accepts.
* `trace_parsers_agree` — the two agree on an answer exactly when it is not one with results and
  the code that only the first lets through.
-/

namespace XBusiness

open Interaction

/-! ## What an answer has to carry -/

/-- `track_result` and `person_result`. -/
def traceResults (bodyJv : Json) : Option (Json × Json) := do
  let result ← (bodyJv.find? "result").bind Json.object?
  let track ← (result.find? "track_result").bind Json.object?
  let person ← (result.find? "person_result").bind Json.object?
  return (track, person)

/-- The answer has both results, and the attributes of the person can be asked for members. -/
def CarriesResults (env : Env) (body : String) : Prop :=
  ∃ track person, (env.text.parseJson body).bind traceResults = some (track, person) ∧
    (elementsOf person "attribute").all Json.hasMembers = true

theorem fault?_parseAttribute (attributeJv : Json) :
    fault? (parseAttribute attributeJv) = if attributeJv.hasMembers then none else some .exception := by
  unfold parseAttribute
  cases has : attributeJv.hasMembers with
  | false => simp [Json.member?_error has]
  | true =>
    simp only [Json.member?_eq has, Json.memberD_eq has, ok_bind]
    split <;> rfl

theorem parseTrack_eq {track : Json} (has : track.hasMembers = true) (result : TrackResult) :
    ∃ parsed, parseTrack track result = .ok parsed := by
  unfold parseTrack
  simp only [Json.memberD_eq has, ok_bind]
  exact ⟨_, rfl⟩

theorem fault?_parsePersonResult {person : Json} (has : person.hasMembers = true) (result : PersonResult) :
    fault? (parsePersonResult person result) =
      if (elementsOf person "attribute").all Json.hasMembers then none else some .exception := by
  unfold parsePersonResult
  simp only [Json.memberD_eq has, ok_bind]
  rw [fault?_bind fun _ => fault?_pure _, fault?_elements fault?_parseAttribute, Option.or_none]
  rfl

/-! ## Acceptance -/

section Run

variable {α : Type} (continuation : α → SessionFn Bool) (session : Session)

theorem run_lift_ok (value : α) :
    ((liftM (.ok value : Except Fault α) : SessionFn α) >>= continuation).run session =
      (continuation value).run session := rfl

theorem run_lift_error (fault : Fault) :
    ((liftM (.error fault : Except Fault α) : SessionFn α) >>= continuation).run session = .error fault := rfl

theorem run_get (continuation : Session → SessionFn Bool) :
    (get >>= continuation).run session = (continuation session).run session := rfl

theorem run_modify (change : Session → Session) (continuation : PUnit → SessionFn Bool) :
    (modify change >>= continuation).run session = (continuation ⟨⟩).run (change session) := rfl

end Run

/-- What a reader returns for an answer: it throws where the code is let through and the person has an
    attribute without members. -/
def traceOutcome (env : Env) (accepts : Int → Bool) (body : String) : Except Fault Bool :=
  if (errorCode env body).any accepts then
    match (env.text.parseJson body).bind traceResults with
    | none => .ok false
    | some (_, person) =>
      if (elementsOf person "attribute").all Json.hasMembers then .ok true else .error .exception
  else .ok false

theorem parseTraceAnswer_outcome (env : Env) (accepts : Int → Bool) (body : String) (session : Session) :
    ((parseTraceAnswer env accepts body).run session).map Prod.fst = traceOutcome env accepts body := by
  unfold parseTraceAnswer traceOutcome errorCode traceResults
  cases parsed : env.text.parseJson body with
  | none => rfl
  | some bodyJv =>
    have has := JsonText.hasMembers_of_parseJson parsed
    simp only [Json.member?_eq has, lift_ok_bind, Option.bind_some, Option.bind_eq_bind]
    cases (bodyJv.find? "error_code").bind Json.int? with
    | none => rfl
    | some code =>
      by_cases accepted : accepts code = true
      · simp only [accepted, if_true, Option.any_some]
        cases found : (bodyJv.find? "result").bind Json.object? with
        | none => rfl
        | some result =>
          have has := Json.hasMembers_of_object found
          simp only [Json.member?_eq has, lift_ok_bind, Option.bind_some]
          cases found : (result.find? "track_result").bind Json.object? with
          | none => rfl
          | some track =>
            -- the track always reads, the person where its attributes do
            obtain ⟨trackResult, parsed⟩ := parseTrack_eq (Json.hasMembers_of_object found) session.trackResult
            simp only [run_get, parsed, run_lift_ok, run_modify, Option.bind_some]
            cases found : (result.find? "person_result").bind Json.object? with
            | none => rfl
            | some person =>
              have thrown := fault?_parsePersonResult (Json.hasMembers_of_object found) session.personResult
              simp only [run_get, Option.bind_some]
              cases read : parsePersonResult person session.personResult with
              | error fault =>
                rw [read] at thrown
                by_cases readable : (elementsOf person "attribute").all Json.hasMembers = true
                · rw [if_pos readable] at thrown
                  cases thrown
                · rw [if_neg readable] at thrown
                  cases thrown
                  exact (if_neg readable).symm
              | ok personResult =>
                rw [read] at thrown
                by_cases readable : (elementsOf person "attribute").all Json.hasMembers = true
                · exact (if_pos readable).symm
                · rw [if_neg readable] at thrown
                  cases thrown
      · simp only [accepted, Option.any_some]
        rfl

/-- The reader returns true for the session. -/
def Accepts (reader : SessionFn Bool) (session : Session) : Prop :=
  ∃ after, reader.run session = .ok (true, after)

/-- A reader accepts an answer whose code it lets through and that carries results. -/
theorem accepts_iff (env : Env) (accepts : Int → Bool) (body : String) (session : Session) :
    Accepts (parseTraceAnswer env accepts body) session ↔
      (∃ code, errorCode env body = some code ∧ accepts code = true) ∧ CarriesResults env body := by
  have returned : Accepts (parseTraceAnswer env accepts body) session ↔
      traceOutcome env accepts body = .ok true := by
    rw [← parseTraceAnswer_outcome env accepts body session, Accepts]
    cases (parseTraceAnswer env accepts body).run session with
    | error fault => simp [Except.map]
    | ok result =>
      obtain ⟨accepted, after⟩ := result
      simp [Except.map]
  rw [returned, ← Option.any_eq_true, traceOutcome, CarriesResults]
  by_cases accepted : (errorCode env body).any accepts = true
  · rw [if_pos accepted]
    cases (env.text.parseJson body).bind traceResults with
    | none => simp
    | some results =>
      obtain ⟨track, person⟩ := results
      by_cases readable : (elementsOf person "attribute").all Json.hasMembers = true
      · exact iff_of_true (if_pos readable) ⟨accepted, track, person, rfl, readable⟩
      · have thrown : (if (elementsOf person "attribute").all Json.hasMembers = true then Except.ok true
            else .error Fault.exception) ≠ .ok true := by
          rw [if_neg readable]
          exact fun same => nomatch same
        apply iff_of_false thrown
        rintro ⟨-, _, _, same, carries⟩
        cases same
        exact readable carries
  · simp [accepted]

/-- What is done after a reader has accepted does not matter. -/
theorem accepts_andThen (reader : SessionFn Bool) (change : Session → Session) (session : Session) :
    Accepts (do if ← reader then modify change; return true else return false) session ↔
      Accepts reader session := by
  unfold Accepts
  rw [StateT.run_bind]
  cases reader.run session with
  | error fault =>
    constructor
    · rintro ⟨_, ran⟩
      cases ran
    · rintro ⟨_, ran⟩
      cases ran
  | ok result =>
    obtain ⟨read, after⟩ := result
    cases read with
    | false =>
      constructor
      · rintro ⟨_, ran⟩
        cases ran
      · rintro ⟨_, ran⟩
        cases ran
    | true => exact ⟨fun _ => ⟨_, rfl⟩, fun _ => ⟨_, rfl⟩⟩

/-- The trace session looks at the status first. -/
theorem accepts_procTraceSpaceResponse {env : Env} {response : HttpResponse}
    (status : containsText "200" response.statusCode = true) (session : Session) :
    Accepts (procTraceSpaceResponse env response) session ↔
      (errorCode env response.content = some 0 ∨ errorCode env response.content = some (-10041)) ∧
        CarriesResults env response.content := by
  unfold procTraceSpaceResponse
  rw [if_pos status, accepts_andThen, accepts_iff]
  simp [and_or_left, exists_or]

theorem accepts_getPersonResult (env : Env) (body : String) (session : Session) :
    Accepts (getPersonResult env body) session ↔ errorCode env body = some 0 ∧ CarriesResults env body := by
  unfold getPersonResult
  rw [accepts_iff]
  simp

/-! ## Agreement -/

/-- A session without results.  `similar` has no initialiser, so it is what the memory held. -/
def Session.Fresh (session : Session) (similar : Rat) : Prop :=
  session.trackResult = {} ∧ session.personResult = { similar := similar }

/-- A response of the service that the trace session reads for an answer. -/
def HttpResponse.Answers (response : HttpResponse) (body : String) : Prop :=
  containsText "200" response.statusCode = true ∧ response.content = body

/-- The trace session and the business sessions read the same out of the answer: they accept it
    together, they leave the same results, each as a function of the one member that a fresh
    session leaves to its memory, and a payload that waits for an accepted answer is pushed. -/
structure TraceParsersAgree (env : Env) (body : String) : Prop where
  accept : ∀ response session other, response.Answers body →
    (Accepts (procTraceSpaceResponse env response) session ↔ Accepts (getPersonResult env body) other)
  fill : ∃ (track : TrackResult) (person : Rat → PersonResult),
    (∀ response session similar after, response.Answers body → session.Fresh similar →
      (procTraceSpaceResponse env response).run session = .ok (true, after) →
        after.trackResult = track ∧ after.personResult = person similar) ∧
    ∀ session similar after, session.Fresh similar →
      (getPersonResult env body).run session = .ok (true, after) →
        after.trackResult = track ∧ after.personResult = person similar
  release : ∀ response session payload parsed, response.Answers body →
    Accepts (procTraceSpaceResponse env response) session →
    parseMessage env none payload = .ok (some parsed) →
      ∃ released : Nat → Session, handleFromRedis env payload body = .call (.makeShared parsed) fun ref =>
        .call (.pushMsg (released ref)) fun _ => .ret true

/-- What the answer leaves in a fresh session. -/
theorem TraceAnswer.giveTo_fresh {answer : TraceAnswer} {session : Session} {similar : Rat}
    (fresh : session.Fresh similar) :
    (answer.giveTo session).trackResult = answer.track {} ∧
      (answer.giveTo session).personResult = answer.person { similar := similar } := by
  obtain ⟨track, person⟩ := fresh
  simp [TraceAnswer.giveTo, track, person]

/-- The readers leave the same of an answer that both accept. -/
theorem TraceAnswer.ReadFrom.fills {env : Env} {body : String} {answer : TraceAnswer}
    (reads : answer.ReadFrom env body) {accepts : Int → Bool} {session after : Session} {similar : Rat}
    (fresh : session.Fresh similar)
    (ran : (parseTraceAnswer env accepts body).run session = .ok (true, after)) :
    after.trackResult = answer.track {} ∧ after.personResult = answer.person { similar := similar } := by
  rw [reads] at ran
  by_cases accepted : accepts answer.code = true
  · rw [if_pos accepted] at ran
    cases ran
    exact TraceAnswer.giveTo_fresh fresh
  · rw [if_neg accepted] at ran
    cases ran

/-- The two readers agree on an answer exactly when it is not one that carries results under the
    error code -10041. -/
theorem trace_parsers_agree (env : Env) (body : String) :
    TraceParsersAgree env body ↔ ¬ (errorCode env body = some (-10041) ∧ CarriesResults env body) := by
  constructor
  · rintro agree ⟨code, carries⟩
    -- the one reader accepts such an answer, the other one does not
    have session := Session.make env 0 (.make env .business 0 .null none)
    have status : containsText "200" "200" = true := by decide
    have response : HttpResponse.Answers ⟨"200", body⟩ body := ⟨status, rfl⟩
    have accepted := (accepts_procTraceSpaceResponse response.1 session).mpr ⟨.inr code, carries⟩
    have other := (accepts_getPersonResult env body session).mp ((agree.accept _ _ _ response).mp accepted)
    rw [code] at other
    cases other.1
  · intro otherwise
    have accept : ∀ response session other, HttpResponse.Answers response body →
        (Accepts (procTraceSpaceResponse env response) session ↔
          Accepts (getPersonResult env body) other) := by
      rintro response session other ⟨status, rfl⟩
      rw [accepts_procTraceSpaceResponse status, accepts_getPersonResult]
      constructor
      · rintro ⟨zero | noPerson, carries⟩
        · exact ⟨zero, carries⟩
        · exact absurd ⟨noPerson, carries⟩ otherwise
      · rintro ⟨zero, carries⟩
        exact ⟨.inl zero, carries⟩
    by_cases readable : errorCode env body = some 0 ∧ CarriesResults env body
    · have session := Session.make env 0 (.make env .business 0 .null none)
      obtain ⟨after, ran⟩ := (accepts_getPersonResult env body session).mpr readable
      -- all readers take the results from the same places of the answer
      obtain ⟨answer, -, code, reads⟩ := parseTraceAnswer_readFrom ran
      have zero : answer.code = 0 := by
        rw [readable.1] at code
        exact (Option.some.inj code).symm
      refine ⟨accept, ⟨answer.track {}, fun similar => answer.person { similar := similar }, ?_, ?_⟩, ?_⟩
      · rintro response session similar after ⟨status, rfl⟩ fresh ran
        obtain ⟨read, answered, rfl⟩ := procTraceSpaceResponse_accepted ran
        -- storing the answer changes neither result
        have filled := reads.fills fresh answered
        exact filled
      · intro session similar after fresh ran
        exact reads.fills fresh ran
      · intro response session payload parsed _ _ parses
        refine ⟨fun ref => answer.giveTo (.make env ref parsed), ?_⟩
        rw [handleFromRedis_eq parses reads]
        simp only [zero, if_true]
    · -- neither reader accepts the answer
      have neither : ∀ session, ¬ Accepts (getPersonResult env body) session := by
        intro session accepted
        exact readable ((accepts_getPersonResult env body session).mp accepted)
      have session := Session.make env 0 (.make env .business 0 .null none)
      refine ⟨accept, ⟨{}, fun similar => { similar := similar }, ?_, ?_⟩, ?_⟩
      · intro response session similar after answers fresh ran
        exact absurd ((accept response session session answers).mp ⟨after, ran⟩) (neither session)
      · intro session similar after fresh ran
        exact absurd ⟨after, ran⟩ (neither session)
      · intro response session payload parsed answers accepted _
        exact absurd ((accept response session session answers).mp accepted) (neither session)

/-- A fresh session of the business message. -/
def waitingSession : Session := .make poolEnv 0 (.make poolEnv .business PayloadType.business .null none)

set_option maxRecDepth 4000 in
/-- The trace session accepts the answer, a business session does not, and the payload that waits
    for it is dropped. -/
theorem trace_parsers_differ :
    Accepts (procTraceSpaceResponse poolEnv ⟨"200 OK", noPersonAnswer⟩) waitingSession ∧
      ¬ Accepts (getPersonResult poolEnv noPersonAnswer) waitingSession ∧
      ∃ parsed, parseMessage poolEnv none businessMessage = .ok (some parsed) ∧
        handleFromRedis poolEnv businessMessage noPersonAnswer = .call (.makeShared parsed) fun ref =>
          .call (.destroy (.make poolEnv ref parsed)) fun _ => .ret false := by
  refine ⟨⟨_, rfl⟩, fun accepted => ?_, _, rfl, rfl⟩
  obtain ⟨after, ran⟩ := accepted
  cases ran

end XBusiness
