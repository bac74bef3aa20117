import XBusiness.Handler.GenUrls
import XBusiness.Workflow.TraceAnswers
import XBusiness.Workflow.Output

/-! # What the responses of the services throw

The callbacks of the HTTP requests run without a handler for exceptions, so a response that a reader
throws on ends the process.

* `responses_return` — exactly which responses leave the session pushed on or finalised, and which stored
  answers `getPersonResult` returns for.
* `response_throws` — an attribute that is a number.
-/

namespace XBusiness

open Interaction

/-! ## What can be read -/

/-- Where the reader gets as far as the person, every attribute can be asked for members. -/
def AnswerReads (env : Env) (accepts : Int → Bool) (body : String) : Prop :=
  ∀ code track person, errorCode env body = some code → accepts code = true →
    (env.text.parseJson body).bind traceResults = some (track, person) →
      (elementsOf person "attribute").all Json.hasMembers = true

/-- The urls that a session asks for: one for each face, and one for a person with a url. -/
def Session.wantedUrls (session : Session) : Nat :=
  session.kafkaData.getUrlCount + (if session.personResult.url ≠ "" then 1 else 0)

theorem wantedUrls_eq (session : Session) :
    (session.kafkaData.getUrlCount + if session.personResult.url ≠ "" then 1 else 0) = session.wantedUrls := by
  rw [Session.wantedUrls]

/-- The classes that override `GetGenUrl`. -/
def DataClass.makesUrls : DataClass → Bool
  | business | capture | xiashunCapture => true
  | screenshot | xiashunBusiness => false

/-- `resultlist`, where `GetGenUrl` is called. -/
def urlResults (env : Env) (response : HttpResponse) (session : Session) : Option (List Json) :=
  if containsText "200" response.statusCode = true ∧ response.content ≠ "" then
    ((env.text.parseJson response.content).bind fun bodyJv =>
      (bodyJv.find? "resultlist").bind Json.array?).filter fun results =>
        results.length = session.wantedUrls
  else none

/-- The first element of `resultlist` that is not complete can be asked for members. -/
def UrlsRead (env : Env) (response : HttpResponse) (session : Session) : Prop :=
  session.kafkaData.dataClass.makesUrls = true → ∀ results, urlResults env response session = some results →
    ∀ result, (results.find? fun result => (genUrlOf result).isNone) = some result → result.hasMembers = true

def ResponseReads (env : Env) (procType : ProcType) (response : HttpResponse) (session : Session) : Prop :=
  match procType with
  | .traceSpace => containsText "200" response.statusCode = true →
      AnswerReads env (fun code => code = 0 || code = -10041) response.content
  | .generateUrl => UrlsRead env response session
  | .downloadImage | .outputKafka | .picWait | .businessSave | .getPlugin => True

/-! ## The readers -/

/-- A function of the handler returns. -/
def SessionFn.ReturnsFor {α : Type} (function : SessionFn α) (session : Session) : Prop :=
  ∃ result after, function.run session = .ok (result, after)

theorem returnsFor_iff {α : Type} {function : SessionFn α} {session : Session} :
    function.ReturnsFor session ↔ fault? (function.run session) = none := by
  rw [fault?_eq_none, SessionFn.ReturnsFor]
  constructor
  · rintro ⟨result, after, ran⟩
    exact ⟨(result, after), ran⟩
  · rintro ⟨value, ran⟩
    exact ⟨value.1, value.2, ran⟩

theorem parseTraceAnswer_returnsFor (env : Env) (accepts : Int → Bool) (body : String) (session : Session) :
    SessionFn.ReturnsFor (parseTraceAnswer env accepts body) session ↔ AnswerReads env accepts body := by
  have outcome : fault? ((parseTraceAnswer env accepts body).run session) =
      fault? (traceOutcome env accepts body) := by
    rw [← parseTraceAnswer_outcome env accepts body session]
    cases (parseTraceAnswer env accepts body).run session <;> rfl
  rw [returnsFor_iff, outcome, traceOutcome, AnswerReads]
  by_cases accepted : (errorCode env body).any accepts = true
  · obtain ⟨code, coded, accepts⟩ := (Option.any_eq_true _ _).mp accepted
    rw [if_pos accepted]
    cases (env.text.parseJson body).bind traceResults with
    | none => simp
    | some results =>
      obtain ⟨track, person⟩ := results
      by_cases readable : (elementsOf person "attribute").all Json.hasMembers = true
      · have returned : fault? (if (elementsOf person "attribute").all Json.hasMembers = true then Except.ok true
            else .error Fault.exception) = none := by
          rw [if_pos readable]
          rfl
        apply iff_of_true returned
        rintro _ _ _ - - ⟨⟩
        exact readable
      · have thrown : fault? (if (elementsOf person "attribute").all Json.hasMembers = true then Except.ok true
            else .error Fault.exception) ≠ none := by
          rw [if_neg readable]
          exact Option.some_ne_none _
        exact iff_of_false thrown fun reads => readable (reads code track person coded accepts rfl)
  · rw [if_neg accepted]
    apply iff_of_true rfl
    intro code _ _ coded accepts
    exact absurd ((Option.any_eq_true _ _).mpr ⟨code, coded, accepts⟩) accepted

/-- What is done after a reader has returned does not matter. -/
theorem returnsFor_andThen {reader : SessionFn Bool} {change : Session → Session} {session : Session} :
    SessionFn.ReturnsFor (do if ← reader then modify change; return true else return false) session ↔
      reader.ReturnsFor session := by
  rw [returnsFor_iff, returnsFor_iff, StateT.run_bind]
  cases reader.run session with
  | error fault => rfl
  | ok result =>
    obtain ⟨accepted, after⟩ := result
    cases accepted <;> rfl

theorem procTraceSpaceResponse_returnsFor (env : Env) (response : HttpResponse) (session : Session) :
    SessionFn.ReturnsFor (procTraceSpaceResponse env response) session ↔
      (containsText "200" response.statusCode = true →
        AnswerReads env (fun code => code = 0 || code = -10041) response.content) := by
  rw [procTraceSpaceResponse]
  by_cases status : containsText "200" response.statusCode = true
  · rw [if_pos status, returnsFor_andThen, parseTraceAnswer_returnsFor]
    exact ⟨fun reads _ => reads, fun reads => reads status⟩
  · rw [if_neg status]
    exact iff_of_true ⟨false, session, rfl⟩ fun accepted => absurd accepted status

theorem procImageResponse_returnsFor (response : HttpResponse) (session : Session) :
    SessionFn.ReturnsFor (procImageResponse response) session := by
  rw [procImageResponse]
  split
  · split
    · rw [returnsFor_iff, run_modify, run_get]
      split <;> rfl
    · rw [returnsFor_iff, run_get]
      split <;> rfl
  · exact ⟨false, session, rfl⟩

theorem unreadable_eq_none (results : List Json) : unreadable results = none ↔
    ∀ result, (results.find? fun result => (genUrlOf result).isNone) = some result → result.hasMembers = true := by
  rw [unreadable]
  cases found : results.find? fun result => (genUrlOf result).isNone with
  | none => simp
  | some result =>
    cases has : result.hasMembers <;> simp [has]

/-- A member that is an array. -/
theorem member_of_array {json : Json} (has : json.hasMembers = true) {name : String} {values : List Json}
    (listed : (json.find? name).bind Json.array? = some values) : json.member name = .ok (.array values) := by
  obtain ⟨member, found, isArray⟩ := Option.bind_eq_some_iff.mp listed
  rw [Json.member_eq has, found]
  cases member with
  | array values => cases isArray; rfl
  | _ => cases isArray

theorem getGenUrl_other {bodyJv : Json} {session : Session}
    (makesNone : session.kafkaData.dataClass.makesUrls = false) :
    (getGenUrl bodyJv).run session = .ok (false, session) := by
  rw [getGenUrl, run_get]
  cases isClass : session.kafkaData.dataClass with
  | screenshot | xiashunBusiness => rfl
  | business | capture | xiashunCapture => rw [isClass] at makesNone; cases makesNone

/-- The faces are read from the front of `resultlist`, the person from its end. -/
theorem getGenUrl_fault {bodyJv : Json} {results : List Json} {session : Session}
    (listed : bodyJv.member "resultlist" = .ok (.array results)) (length : results.length = session.wantedUrls)
    (makesUrls : session.kafkaData.dataClass.makesUrls = true) :
    fault? ((getGenUrl bodyJv).run session) = unreadable results := by
  have split : results.drop 0 = results.take session.kafkaData.captureFaces.length ++
      results.drop session.kafkaData.captureFaces.length := (List.take_append_drop _ _).symm
  have same : (results.take session.kafkaData.captureFaces.length).length =
      session.kafkaData.captureFaces.length := by
    rw [List.length_take, length, Session.wantedUrls, BaseData.getUrlCount]
    omega
  obtain ⟨thrown, returned⟩ := genFaceUrls_eq split same
  rw [← List.take_append_drop session.kafkaData.captureFaces.length results, unreadable_append, ← thrown]
  rw [getGenUrl, run_get]
  cases isClass : session.kafkaData.dataClass with
  | screenshot | xiashunBusiness => rw [isClass] at makesUrls; cases makesUrls
  | business | capture | xiashunCapture =>
    simp only [listed, run_lift_ok]
    -- first the entries of the faces
    cases looped : genFaceUrls (.array results) 0 session.kafkaData.captureFaces with
    | error fault =>
      rw [run_lift_error]
      rw [looped] at thrown
      by_cases all : allGenerated (results.take session.kafkaData.captureFaces.length) = true
      · rw [unreadable_of_all all] at thrown
        cases thrown
      · rw [if_neg all]
        rfl
    | ok loop =>
      obtain ⟨complete, updated⟩ := loop
      obtain ⟨all, -⟩ := returned complete updated looped
      simp only [run_lift_ok, run_modify, ← all]
      cases complete with
      | false => rfl
      | true =>
        simp only [if_true]
        -- then the entry of the person, if its url was asked for: it is the last one
        by_cases url : session.personResult.url ≠ ""
        · obtain ⟨result, last⟩ : ∃ result, results.drop session.kafkaData.captureFaces.length = [result] := by
            apply List.length_eq_one_iff.mp
            rw [List.length_drop, length, Session.wantedUrls, BaseData.getUrlCount, if_pos url]
            omega
          rw [if_pos url, last, (element_of_drop last).1]
          cases read : genUrlOf result with
          | none =>
            rw [unreadable_cons_incomplete read]
            cases has : result.hasMembers with
            | false =>
              rw [ok_bind, readGenUrl_error has]
              rfl
            | true =>
              rw [ok_bind, readGenUrl_eq has, read]
              rfl
          | some answer =>
            obtain ⟨generated, url, expire⟩ := answer
            rw [unreadable_cons_complete read, ok_bind, readGenUrl_eq (hasMembers_of_genUrlOf read), read]
            cases generated <;> rfl
        · have none : results.drop session.kafkaData.captureFaces.length = [] := by
            rw [List.drop_eq_nil_iff, length, Session.wantedUrls, BaseData.getUrlCount, if_neg url]
            omega
          rw [if_neg url, none]
          rfl

theorem procGenerateUrlResponse_returnsFor (env : Env) (response : HttpResponse) (session : Session) :
    SessionFn.ReturnsFor (procGenerateUrlResponse env response) session ↔ UrlsRead env response session := by
  rw [returnsFor_iff, UrlsRead, urlResults, procGenerateUrlResponse]
  by_cases status : containsText "200" response.statusCode = true
  · by_cases content : response.content ≠ ""
    · rw [if_pos status, if_pos content, if_pos ⟨status, content⟩]
      cases parsed : env.text.parseJson response.content with
      | none => simp
      | some bodyJv =>
        have has := JsonText.hasMembers_of_parseJson parsed
        simp only [Json.member?_eq has, run_lift_ok, Option.bind_some]
        cases listed : (bodyJv.find? "resultlist").bind Json.array? with
        | none => simp
        | some results =>
          simp only [run_get, wantedUrls_eq]
          by_cases length : results.length = session.wantedUrls
          · rw [if_neg (not_not.mpr length), Option.filter_some, if_pos (decide_eq_true length)]
            cases makesUrls : session.kafkaData.dataClass.makesUrls with
            | false => simp [getGenUrl_other makesUrls]
            | true => simp [getGenUrl_fault (member_of_array has listed) length makesUrls, unreadable_eq_none]
          · rw [if_pos length, Option.filter_some, if_neg (by simpa using length)]
            exact iff_of_true rfl fun _ _ found => nomatch found
    · rw [if_pos status, if_neg content, if_neg fun both => content both.2]
      exact iff_of_true rfl fun _ _ found => nomatch found
  · rw [if_neg status, if_neg fun both => status both.1]
    exact iff_of_true rfl fun _ _ found => nomatch found

theorem procHandlerResponse_returnsFor (env : Env) (procType : ProcType) (response : HttpResponse)
    (session : Session) :
    SessionFn.ReturnsFor (procHandlerResponse env procType response) session ↔
      ResponseReads env procType response session := by
  cases procType with
  | downloadImage => exact iff_of_true (procImageResponse_returnsFor response session) trivial
  | traceSpace => exact procTraceSpaceResponse_returnsFor env response session
  | generateUrl => exact procGenerateUrlResponse_returnsFor env response session
  | outputKafka | picWait | businessSave | getPlugin => exact iff_of_true ⟨false, session, rfl⟩ trivial

/-! ## The callback -/

/-- The reader returns, and the callback pushes the session on or finalises it. -/
def Handled (env : Env) (procType : ProcType) (response : HttpResponse) (session : Session) : Prop :=
  SessionFn.ReturnsFor (procHandlerResponse env procType response) session ∧
    ∀ answer, ∃ output after,
      ((procResponse env procType response).run session).followed Output.after answer 0 {} =
          .ok (output, after) ∧
        (output.ended = some .pushed ∨ ∃ err, output.ended = some (.finalised err))

theorem ended_of_succeeds {output : Output} (succeeds : output.succeeds) :
    output.ended = some .pushed ∨ ∃ err, output.ended = some (.finalised err) := by
  obtain pushed | finalised := succeeds
  · exact .inl pushed
  · exact .inr ⟨_, finalised⟩

/-- A callback whose reader returns ends with the session pushed on or finalised. -/
theorem procResponse_ends {env : Env} {procType : ProcType} {response : HttpResponse} {session : Session}
    (unfinished : session.isFinished = false)
    (returns : SessionFn.ReturnsFor (procHandlerResponse env procType response) session)
    (answer : Nat → (request : FlowCall) → request.Answer) :
    ∃ output after, ((procResponse env procType response).run session).followed Output.after answer 0 {} =
        .ok (output, after) ∧
      (output.ended = some .pushed ∨ ∃ err, output.ended = some (.finalised err)) := by
  obtain ⟨accepted, after, ran⟩ := returns
  have same := procHandlerResponse_preserves env procType response session accepted after ran
  have unfinished : after.isFinished = false := (congrArg Bearing.isFinished same).trans unfinished
  have continued : (procResponse env procType response).run session =
      (if accepted then pushOrFinal else final .procTerminate : Flow Unit).run after := by
    rw [procResponse, StateT.run_bind, Flow.run_ofSessionFn_ok ran]
    rfl
  rw [continued]
  cases accepted with
  | true =>
    obtain ⟨output, last, followed, succeeds, -⟩ :=
      (pushOrFinal_delivering {} unfinished).followed_ok answer 0
    exact ⟨output, last, followed, ended_of_succeeds succeeds⟩
  | false =>
    obtain ⟨output, last, followed, ended⟩ :=
      (final_delivering {} .procTerminate unfinished).followed_ok answer 0
    exact ⟨output, last, followed, .inr ⟨.procTerminate, by rw [ended]⟩⟩

/-- For every session that is not finished: a response leaves it pushed on or finalised exactly when the
    response can be read, and `getPersonResult` returns for exactly the stored answers that can be read. -/
theorem responses_return (env : Env) (session : Session) (unfinished : session.isFinished = false) :
    (∀ procType response, Handled env procType response session ↔ ResponseReads env procType response session) ∧
      ∀ body, SessionFn.ReturnsFor (getPersonResult env body) session ↔ AnswerReads env (· = 0) body := by
  constructor
  · intro procType response
    rw [← procHandlerResponse_returnsFor]
    exact ⟨fun handled => handled.1, fun returns => ⟨returns, procResponse_ends unfinished returns⟩⟩
  · exact fun body => parseTraceAnswer_returnsFor env _ body session

/-- The session of a capture while it waits for the trace space. -/
def traceSession (env : Env) : Option Session :=
  captureSession env (downloadMoments [some ⟨"200 OK", "x"⟩, some ⟨"200 OK", "y"⟩])

set_option maxRecDepth 4000 in
theorem responses_return_person :
    ∃ session, traceSession facesEnv = some session ∧ session.currentType = some .traceSpace ∧
      Handled facesEnv .traceSpace ⟨"200 OK", personAnswer⟩ session := by
  refine ⟨_, rfl, rfl, ((responses_return facesEnv _ rfl).1 .traceSpace _).mpr fun _ => ?_⟩
  intro code track person _ _ found
  have results : (facesEnv.text.parseJson personAnswer).bind traceResults =
      some (.object [], .object [("id", .string "p")]) := rfl
  rw [results] at found
  cases found
  rfl

/-- An answer whose person has a number for an attribute. -/
def attributeAnswer : String :=
  "\x7b\"error_code\":0,\"result\":\x7b\"person_result\":\x7b\"attribute\":[1]\x7d,\"track_result\":\x7b\x7d\x7d\x7d"

def attributeEnv : Env :=
  facesEnv.reading attributeAnswer (.object [("error_code", .int 0),
    ("result", .object [("person_result", .object [("attribute", .array [.int 1])]), ("track_result", .object [])])])

/-- The response of the trace space ends the process, and so does the stored text. -/
theorem response_throws :
    ∃ session, traceSession attributeEnv = some session ∧ session.currentType = some .traceSpace ∧
      (procResponse attributeEnv .traceSpace ⟨"200 OK", attributeAnswer⟩).run session = .raise .exception ∧
      ¬Handled attributeEnv .traceSpace ⟨"200 OK", attributeAnswer⟩ session ∧
      (getPersonResult attributeEnv attributeAnswer).run session = .error .exception := by
  refine ⟨_, rfl, rfl, rfl, ?_, rfl⟩
  rintro ⟨⟨accepted, after, ran⟩, -⟩
  cases ran

end XBusiness
