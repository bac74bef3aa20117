import XBusiness.Workflow.Responses

/-! # The generated urls

The request names one stored picture for each face and one for the person, and the response is read by
position.

* `makeGenerateUrlRequest_list` — what the request lists.
* `getGenUrl_accepted` — what `GetGenUrl` leaves where it returns true.
* `generated_urls` — every picture has the url that was generated for it.
-/

namespace XBusiness

open Interaction

/-! ## The request -/

/-- What is made of a list of elements has something for each, in order, and for nothing else. -/
theorem mapM_eq_some_iff_forall₂ {α β : Type} {read : α → Option β} {elements : List α} {results : List β} :
    elements.mapM read = some results ↔
      List.Forall₂ (fun element result => read element = some result) elements results := by
  constructor
  · intro made
    induction elements generalizing results with
    | nil =>
      cases made
      exact .nil
    | cons first rest inductionHypothesis =>
      rw [List.mapM_cons] at made
      obtain ⟨result, head, made⟩ := Option.bind_eq_some_iff.mp made
      obtain ⟨tail, madeTail, made⟩ := Option.bind_eq_some_iff.mp made
      cases made
      exact .cons head (inductionHypothesis madeTail)
  · intro related
    induction related with
    | nil => rfl
    | cons head _ inductionHypothesis =>
      rw [List.mapM_cons, head, inductionHypothesis]
      rfl

/-- A list that is made element by element has an element for each, in order. -/
theorem mapM_getElem {α β : Type} {read : α → Option β} {elements : List α} {results : List β}
    (made : elements.mapM read = some results) :
    results.length = elements.length ∧ ∀ (index : Nat) (element : α), elements[index]? = some element →
      ∃ result : β, results[index]? = some result ∧ read element = some result := by
  have related := mapM_eq_some_iff_forall₂.mp made
  refine ⟨related.length_eq.symm, ?_⟩
  intro index element found
  obtain ⟨inside, rfl⟩ := List.getElem?_eq_some_iff.mp found
  have insideResults : index < results.length := related.length_eq ▸ inside
  exact ⟨results[index], List.getElem?_eq_getElem insideResults, related.get inside insideResults⟩

/-- The entries of a request: one for each face, and one for a person with a url. -/
structure Lists (session : Session) (list : List Json) : Prop where
  count : list.length = session.wantedUrls
  faces : ∀ (index : Nat) (face : CaptureFace), session.kafkaData.captureFaces[index]? = some face →
    ∃ parts, splitUri face.url = some parts ∧ list[index]? = some (storageUrlJson parts)
  person : session.personResult.url ≠ "" → ∃ parts, splitUri session.personResult.url = some parts ∧
    list[session.kafkaData.captureFaces.length]? = some (storageUrlJson parts)

theorem lists_of_made {session : Session} {faces person : List Json}
    (madeFaces : getGenerateUrlData session.kafkaData = some faces)
    (madePerson : (if session.personResult.url ≠ "" then
      (splitUri session.personResult.url).map fun parts => [storageUrlJson parts] else some []) = some person) :
    Lists session (faces ++ person) := by
  have made : session.kafkaData.captureFaces.mapM (fun face => (splitUri face.url).map storageUrlJson) =
      some faces := by
    rw [getGenerateUrlData] at madeFaces
    cases isClass : session.kafkaData.dataClass with
    | business | capture | xiashunCapture => simpa only [isClass] using madeFaces
    | screenshot | xiashunBusiness => simp [isClass] at madeFaces
  -- one entry for each face; that of the person comes behind them
  obtain ⟨length, each⟩ := mapM_getElem made
  refine ⟨?_, ?_, ?_⟩
  · rw [List.length_append, length, Session.wantedUrls, BaseData.getUrlCount]
    by_cases url : session.personResult.url ≠ ""
    · rw [if_pos url] at madePerson
      obtain ⟨parts, -, rfl⟩ := Option.map_eq_some_iff.mp madePerson
      rw [if_pos url]
      rfl
    · rw [if_neg url] at madePerson
      cases madePerson
      rw [if_neg url]
      rfl
  · intro index face found
    obtain ⟨entry, listed, entered⟩ := each index face found
    obtain ⟨parts, split, rfl⟩ := Option.map_eq_some_iff.mp entered
    refine ⟨parts, split, ?_⟩
    rw [List.getElem?_append_left (List.getElem?_eq_some_iff.mp listed).1]
    exact listed
  · intro url
    rw [if_pos url] at madePerson
    obtain ⟨parts, split, rfl⟩ := Option.map_eq_some_iff.mp madePerson
    refine ⟨parts, split, ?_⟩
    rw [List.getElem?_append_right (Nat.le_of_eq length), length, Nat.sub_self]
    rfl

/-- The request is made without a call and leaves the session as it is; one that is made lists the
    pictures of the session. -/
theorem makeGenerateUrlRequest_list (env : Env) (session : Session) :
    ∃ made, (makeGenerateUrlRequest env).run session = .ret (made, session) ∧
      ∀ request, made = some request → ∃ list, Lists session list ∧
        request.body = env.text.toStyledString
          (if list = [] then Json.null else Json.null.set "list" (.array list)) := by
  rw [makeGenerateUrlRequest]
  simp only [StateT.run_bind, StateT.run_get, Prog.pure_eq, Prog.ret_bind]
  cases madeFaces : getGenerateUrlData session.kafkaData with
  | none => exact ⟨none, rfl, fun _ impossible => by cases impossible⟩
  | some faces =>
    cases madePerson : (if session.personResult.url ≠ "" then
        (splitUri session.personResult.url).map fun parts => [storageUrlJson parts] else some []) with
    | none => exact ⟨none, rfl, fun _ impossible => by cases impossible⟩
    | some person =>
      cases env.conf.getValue "s3proxy" "gen_url_path" with
      | none => exact ⟨none, rfl, fun _ impossible => by cases impossible⟩
      | some path =>
        refine ⟨_, rfl, ?_⟩
        rintro _ ⟨⟩
        exact ⟨faces ++ person, lists_of_made madeFaces madePerson, rfl⟩

/-! ## The response -/

/-- The result gives a url with an expiry in place of another: its own where its error code is 1, and the
    one that is there where it is not. -/
structure Gives (result : Json) (before after : String × Int) : Prop where
  generated : result.find? "errorcode" = some (.int 1) →
    (result.find? "url").bind Json.string? = some after.1 ∧
      (result.find? "expiretime").bind Json.int? = some after.2
  kept : result.find? "errorcode" ≠ some (.int 1) → after = before

/-- What is read of a complete result gives. -/
theorem gives_of_genUrlOf {result : Json} {generated : Bool} {url : String} {expire : Int}
    (read : genUrlOf result = some (generated, url, expire)) (before : String × Int) :
    Gives result before (if generated then (url, expire) else before) := by
  obtain ⟨code, coded, read⟩ := Option.bind_eq_some_iff.mp read
  obtain ⟨url, named, read⟩ := Option.bind_eq_some_iff.mp read
  obtain ⟨expire, expires, read⟩ := Option.map_eq_some_iff.mp read
  obtain ⟨json, found, -⟩ := Option.bind_eq_some_iff.mp coded
  cases read
  rw [found, Option.getD_some]
  have isOne : json.isIntConst 1 = true ↔ json = .int 1 := by
    cases json with
    | int value => simp [Json.isIntConst]
    | _ => simp [Json.isIntConst]
  refine ⟨?_, ?_⟩
  · intro one
    rw [found, Option.some.injEq] at one
    rw [if_pos (isOne.mpr one)]
    exact ⟨named, expires⟩
  · intro other
    rw [found, ne_eq, Option.some.injEq, ← isOne] at other
    exact if_neg other

/-- A response that comes back to the objects: the face and the person of each place have what the result
    of the place gives. -/
structure ComesBack (session : Session) (results : List Json) (after : Session) : Prop where
  count : results.length = session.wantedUrls
  faceCount : after.kafkaData.captureFaces.length = session.kafkaData.captureFaces.length
  faces : ∀ (index : Nat) (face : CaptureFace), session.kafkaData.captureFaces[index]? = some face →
    ∃ result genUrl genUrlExpire, results[index]? = some result ∧
      Gives result (face.genUrl, face.genUrlExpire) (genUrl, genUrlExpire) ∧
      after.kafkaData.captureFaces[index]? = some { face with genUrl := genUrl, genUrlExpire := genUrlExpire }
  person : session.personResult.url ≠ "" → ∃ result genUrl genUrlExpire,
    results[session.kafkaData.captureFaces.length]? = some result ∧
      Gives result (session.personResult.genUrl, session.personResult.genUrlExpire) (genUrl, genUrlExpire) ∧
      after.personResult = { session.personResult with genUrl := genUrl, genUrlExpire := genUrlExpire }
  noPerson : session.personResult.url = "" → after.personResult = session.personResult

theorem generatedBy_eq {result : Json} {generated : Bool} {url : String} {expire : Int}
    (read : genUrlOf result = some (generated, url, expire)) (face : CaptureFace) :
    face.generatedBy result = { face with
      genUrl := (if generated then (url, expire) else (face.genUrl, face.genUrlExpire)).1
      genUrlExpire := (if generated then (url, expire) else (face.genUrl, face.genUrlExpire)).2 } := by
  rw [CaptureFace.generatedBy, read]
  cases generated <;> rfl

section Accepted

variable {bodyJv : Json} {results : List Json} {session after : Session}

/-- The faces as the loop leaves them. -/
theorem faces_come_back (all : allGenerated (results.take session.kafkaData.captureFaces.length) = true)
    (count : session.kafkaData.captureFaces.length ≤ results.length) {index : Nat} {face : CaptureFace}
    (found : session.kafkaData.captureFaces[index]? = some face) :
    ∃ result genUrl genUrlExpire, results[index]? = some result ∧
      Gives result (face.genUrl, face.genUrlExpire) (genUrl, genUrlExpire) ∧
      (List.zipWith CaptureFace.generatedBy session.kafkaData.captureFaces
        (results.take session.kafkaData.captureFaces.length))[index]? =
          some { face with genUrl := genUrl, genUrlExpire := genUrlExpire } := by
  have bound : index < session.kafkaData.captureFaces.length := (List.getElem?_eq_some_iff.mp found).1
  obtain ⟨result, listed⟩ : ∃ result, results[index]? = some result :=
    ⟨_, List.getElem?_eq_getElem (Nat.lt_of_lt_of_le bound count)⟩
  have taken : (results.take session.kafkaData.captureFaces.length)[index]? = some result := by
    rw [List.getElem?_take_of_lt bound]
    exact listed
  have complete : (genUrlOf result).isSome = true :=
    List.all_eq_true.mp all result (List.mem_of_getElem? taken)
  obtain ⟨⟨generated, url, expire⟩, read⟩ := Option.isSome_iff_exists.mp complete
  refine ⟨result, _, _, listed, gives_of_genUrlOf read _, ?_⟩
  rw [List.getElem?_zipWith, found, taken]
  exact congrArg some (generatedBy_eq read face)

/-- The faces are put in place, and the person has what its result gives. -/
theorem comesBack_of_faces (count : results.length = session.wantedUrls)
    (all : allGenerated (results.take session.kafkaData.captureFaces.length) = true)
    (placed : after.kafkaData = session.kafkaData.setCaptureFaces
      (List.zipWith CaptureFace.generatedBy session.kafkaData.captureFaces
        (results.take session.kafkaData.captureFaces.length)))
    (person : session.personResult.url ≠ "" → ∃ result genUrl genUrlExpire,
      results[session.kafkaData.captureFaces.length]? = some result ∧
        Gives result (session.personResult.genUrl, session.personResult.genUrlExpire) (genUrl, genUrlExpire) ∧
        after.personResult = { session.personResult with genUrl := genUrl, genUrlExpire := genUrlExpire })
    (noPerson : session.personResult.url = "" → after.personResult = session.personResult) :
    ComesBack session results after := by
  have enough : session.kafkaData.captureFaces.length ≤ results.length := by
    rw [count, Session.wantedUrls, BaseData.getUrlCount]
    omega
  have faces : after.kafkaData.captureFaces = List.zipWith CaptureFace.generatedBy
      session.kafkaData.captureFaces (results.take session.kafkaData.captureFaces.length) := by
    rw [placed]
    apply captureFaces_setCaptureFaces
    rw [List.length_zipWith, List.length_take]
    omega
  refine ⟨count, ?_, ?_, person, noPerson⟩
  · rw [faces, List.length_zipWith, List.length_take]
    omega
  · intro index face found
    rw [faces]
    exact faces_come_back all enough found

/-- What `GetGenUrl` leaves where it returns true. -/
theorem getGenUrl_accepted (listed : bodyJv.member "resultlist" = .ok (.array results))
    (count : results.length = session.wantedUrls)
    (ran : (getGenUrl bodyJv).run session = .ok (true, after)) : ComesBack session results after := by
  have split : results.drop 0 = results.take session.kafkaData.captureFaces.length ++
      results.drop session.kafkaData.captureFaces.length := (List.take_append_drop _ _).symm
  have same : (results.take session.kafkaData.captureFaces.length).length =
      session.kafkaData.captureFaces.length := by
    rw [List.length_take, count, Session.wantedUrls, BaseData.getUrlCount]
    omega
  obtain ⟨-, returned⟩ := genFaceUrls_eq split same
  rw [getGenUrl, run_get] at ran
  cases isClass : session.kafkaData.dataClass with
  | screenshot | xiashunBusiness => simp only [isClass] at ran; cases ran
  | business | capture | xiashunCapture =>
    simp only [isClass, listed, run_lift_ok] at ran
    cases looped : genFaceUrls (.array results) 0 session.kafkaData.captureFaces with
    | error fault =>
      rw [looped] at ran
      cases ran
    | ok loop =>
      obtain ⟨complete, updated⟩ := loop
      obtain ⟨all, zipped⟩ := returned complete updated looped
      rw [looped] at ran
      simp only [run_lift_ok, run_modify] at ran
      cases complete with
      | false => cases ran
      | true =>
        cases zipped rfl
        simp only [if_true] at ran
        by_cases url : session.personResult.url ≠ ""
        · obtain ⟨result, last⟩ : ∃ result, results.drop session.kafkaData.captureFaces.length = [result] := by
            apply List.length_eq_one_iff.mp
            rw [List.length_drop, count, Session.wantedUrls, BaseData.getUrlCount, if_pos url]
            omega
          have found : results[session.kafkaData.captureFaces.length]? = some result := by
            rw [← List.head?_drop, last]
            rfl
          rw [if_pos url, (element_of_drop last).1, ok_bind] at ran
          cases read : genUrlOf result with
          | none =>
            -- the person is not complete, or its result throws
            cases has : result.hasMembers with
            | false =>
              rw [readGenUrl_error has] at ran
              cases ran
            | true =>
              rw [readGenUrl_eq has, read] at ran
              cases ran
          | some answer =>
            obtain ⟨generated, genUrl, expire⟩ := answer
            rw [readGenUrl_eq (hasMembers_of_genUrlOf read), read] at ran
            have gives := gives_of_genUrlOf read (session.personResult.genUrl, session.personResult.genUrlExpire)
            cases generated with
            | true =>
              cases ran
              exact comesBack_of_faces count all.symm rfl (fun _ => ⟨result, _, _, found, gives, rfl⟩)
                fun none => absurd none url
            | false =>
              cases ran
              exact comesBack_of_faces count all.symm rfl (fun _ => ⟨result, _, _, found, gives, rfl⟩)
                fun none => absurd none url
        · rw [if_neg url] at ran
          cases ran
          exact comesBack_of_faces count all.symm rfl (fun isUrl => absurd isUrl url) fun _ => rfl

end Accepted

/-- A response with a body that is accepted comes back to the objects of its session. -/
theorem procGenerateUrlResponse_accepted {env : Env} {response : HttpResponse} {session after : Session}
    (nonempty : response.content ≠ "")
    (ran : (procGenerateUrlResponse env response).run session = .ok (true, after)) :
    ∃ results, urlResults env response session = some results ∧ ComesBack session results after := by
  rw [procGenerateUrlResponse] at ran
  rw [urlResults]
  by_cases status : containsText "200" response.statusCode = true
  · rw [if_pos status, if_pos nonempty] at ran
    rw [if_pos ⟨status, nonempty⟩]
    cases parsed : env.text.parseJson response.content with
    | none =>
      rw [parsed] at ran
      cases ran
    | some bodyJv =>
      have has := JsonText.hasMembers_of_parseJson parsed
      simp only [parsed, Json.member?_eq has, run_lift_ok] at ran
      cases listed : (bodyJv.find? "resultlist").bind Json.array? with
      | none =>
        rw [listed] at ran
        cases ran
      | some results =>
        simp only [listed, run_get, wantedUrls_eq] at ran
        by_cases count : results.length = session.wantedUrls
        · rw [if_neg (not_not.mpr count)] at ran
          refine ⟨results, ?_, getGenUrl_accepted (member_of_array has listed) count ran⟩
          rw [Option.bind_some, listed, Option.filter_some, if_pos (decide_eq_true count)]
        · rw [if_pos count] at ran
          cases ran
  · rw [if_neg status] at ran
    cases ran

/-! ## Main result -/

/-- A request that is sent lists the pictures of its session, which waits for the response in the step. -/
theorem httpProcess_sends {env : Env} {session sent : Session} {request : RequestInfo}
    {next : Unit → FlowProg (Unit × Session)}
    (asked : (httpProcess env .generateUrl).run session = .call (.sendRequest sent .generateUrl request) next) :
    sent = { session with currentType := some .generateUrl } ∧ ∃ list, Lists session list ∧
      request.body = env.text.toStyledString
        (if list = [] then Json.null else Json.null.set "list" (.array list)) := by
  obtain ⟨made, ran, lists⟩ := makeGenerateUrlRequest_list env session
  rw [httpProcess, StateT.run_bind, makeRequest, ran] at asked
  cases made with
  | none =>
    -- the session is finalised, if it is not finished already
    have ended : (final .procTerminate).run session = .call (.sendRequest sent .generateUrl request) next := asked
    rw [final] at ended
    simp only [StateT.run_bind, StateT.run_get, Prog.pure_eq, Prog.ret_bind] at ended
    cases finished : session.isFinished with
    | true =>
      rw [finished] at ended
      cases ended
    | false =>
      rw [finished] at ended
      cases ended
  | some request' =>
    cases asked
    exact ⟨rfl, lists request rfl⟩

/-- Whatever urls a session has asked for: a response that is accepted and not empty has one result for
    each, in order, and every face and the person have what the result for their own url gives. -/
theorem generated_urls (env : Env) (session sent after : Session) (request : RequestInfo)
    (next : Unit → FlowProg (Unit × Session)) (response : HttpResponse)
    (asked : (httpProcess env .generateUrl).run session = .call (.sendRequest sent .generateUrl request) next)
    (nonempty : response.content ≠ "")
    (accepted : (procGenerateUrlResponse env response).run sent = .ok (true, after)) :
    ∃ list results, Lists session list ∧
      request.body = env.text.toStyledString
        (if list = [] then Json.null else Json.null.set "list" (.array list)) ∧
      urlResults env response sent = some results ∧ ComesBack session results after := by
  obtain ⟨rfl, list, lists, body⟩ := httpProcess_sends asked
  obtain ⟨results, listed, back⟩ := procGenerateUrlResponse_accepted nonempty accepted
  exact ⟨list, results, lists, body, listed, back.count, back.faceCount, back.faces, back.person, back.noPerson⟩

/-- A session with two faces and a person. -/
def urlsSession : Session := { Session.make facesEnv 0 facesData with
  personResult := { similar := 0, url := "h/b/p" } }

/-- The results for the first face and for the person have the code 1. -/
def urlsAnswer : String :=
  "\x7b\"resultlist\":[\x7b\"errorcode\":1,\"expiretime\":5,\"url\":\"g/0\"\x7d,\x7b\"errorcode\":2,\"expiretime\":0,\"url\":\"\"\x7d,\x7b\"errorcode\":1,\"expiretime\":7,\"url\":\"g/p\"\x7d]\x7d"

def urlResult (code expire : Int) (url : String) : Json :=
  .object [("errorcode", .int code), ("expiretime", .int expire), ("url", .string url)]

def urlsEnv : Env :=
  facesEnv.reading urlsAnswer
    (.object [("resultlist", .array [urlResult 1 5 "g/0", urlResult 2 0 "", urlResult 1 7 "g/p"])])

set_option maxRecDepth 4000 in
theorem generated_urls_person :
    ∃ after list results, (procGenerateUrlResponse urlsEnv ⟨"200 OK", urlsAnswer⟩).run
        { urlsSession with currentType := some .generateUrl } = .ok (true, after) ∧
      after.kafkaData.captureFaces.map CaptureFace.genUrl = ["g/0", ""] ∧
      after.personResult.genUrl = "g/p" ∧ Lists urlsSession list ∧ ComesBack urlsSession results after := by
  have accepted : ∃ after, (procGenerateUrlResponse urlsEnv ⟨"200 OK", urlsAnswer⟩).run
      { urlsSession with currentType := some .generateUrl } = .ok (true, after) ∧
      after.kafkaData.captureFaces.map CaptureFace.genUrl = ["g/0", ""] ∧
      after.personResult.genUrl = "g/p" := ⟨_, rfl, rfl, rfl⟩
  obtain ⟨after, accepted, faces, person⟩ := accepted
  have nonempty : urlsAnswer ≠ "" := by decide
  obtain ⟨list, results, lists, -, -, back⟩ :=
    generated_urls urlsEnv urlsSession _ after _ _ ⟨"200 OK", urlsAnswer⟩ rfl nonempty accepted
  exact ⟨after, list, results, accepted, faces, person, lists, back⟩

end XBusiness
