import XBusiness.Workflow.Progress

/-! # The images of a session

A session downloads the image of one face after the other.  The face is found by a cursor that moves
on with the request and back when it fails, and the image is stored without the number of its face.

* `Album` — what a session has of its faces and their images.
* `courseStep_turns` — what one step of a course does to it.
-/

namespace XBusiness

open Interaction
open SessionFn (Preserves PreservesFrom)

/-- The faces of a session with the cursor, the url that was asked for last, and the images. -/
structure Album where
  dataClass : DataClass
  urls : List String
  urlIndex : Nat
  currentDownloadUrl : String
  images : List ImageInfo

def Session.album (session : Session) : Album where
  dataClass := session.kafkaData.dataClass
  urls := session.kafkaData.captureFaces.map CaptureFace.url
  urlIndex := session.kafkaData.urlIndex
  currentDownloadUrl := session.currentDownloadUrl
  images := session.images

/-- The album when the request of a module is sent. -/
def Album.requesting (album : Album) (procType : ProcType) : Album :=
  if procType = .downloadImage then
    { album with
      urlIndex := album.urlIndex + 1, currentDownloadUrl := album.urls.getD album.urlIndex "" }
  else album

/-- The response has an image, which is stored. -/
def HttpResponse.hasImage (response : HttpResponse) : Bool :=
  containsText "200" response.statusCode && response.content ≠ ""

/-- The response is one to a download that is refused, so that the session ends. -/
def refuses (procType : ProcType) : Option HttpResponse → Bool
  | none => false
  | some response => procType = .downloadImage && !containsText "200" response.statusCode

/-- The album when the callback of a request has returned. -/
def Album.answered (album : Album) (procType : ProcType) : Option HttpResponse → Album
  | none => if procType = .downloadImage then { album with urlIndex := album.urlIndex - 1 } else album
  | some response =>
    if procType = .downloadImage ∧ response.hasImage = true then
      { album with images := album.images ++ [{ url := album.currentDownloadUrl, img := response.content }] }
    else album

/-! ## What a module does to the album -/

/-- The session is passed on with this album, or has ended. -/
def Shows (album : Album) (pending : Pending) : Prop :=
  ∀ session, pending.session? = some session → session.album = album

/-- A request has been made of its session. -/
def Built (env : Env) (pending : Pending) : Prop :=
  ∀ session procType request, pending = .requested session procType request →
    session.asksFor env request procType

theorem shows_ended (album : Album) : Shows album .ended := by
  intro session impossible
  cases impossible

theorem shows_queued {album : Album} {session : Session} (same : session.album = album) :
    Shows album (.queued session) := by
  rintro _ ⟨⟩
  exact same

theorem built_ended (env : Env) : Built env .ended := by
  intro session procType request impossible
  cases impossible

theorem built_queued (env : Env) (session : Session) : Built env (.queued session) := by
  intro session procType request impossible
  cases impossible

theorem album_of_unfilled {session after : Session} (same : after.unfilled = session.unfilled) :
    after.album = session.album := by
  have albums : after.unfilled.album = session.unfilled.album := congrArg Session.album same
  exact albums

theorem album_of_unanswered {session after : Session} (same : after.unanswered = session.unanswered) :
    after.album = session.album := by
  have albums : after.unanswered.album = session.unanswered.album := congrArg Session.album same
  exact albums

theorem shows_passedOn {env : Env} {album : Album} {session : Session} (same : session.album = album) :
    Shows album session.passedOn ∧ Built env session.passedOn := by
  unfold Session.passedOn
  split
  · exact ⟨shows_ended album, built_ended env⟩
  · exact ⟨shows_queued same, built_queued env session⟩

/-- The url under the cursor is taken. -/
theorem getNextUrl_album (session : Session) (taken : session.kafkaData.getNextUrl.1 ≠ "") :
    (session.requesting .downloadImage).album = session.album.requesting .downloadImage := by
  obtain ⟨ref, kafkaData⟩ := session
  simp only [Session.requesting, BaseData.getNextUrl] at taken ⊢
  cases face : kafkaData.captureFaces[kafkaData.urlIndex]? with
  | none => simp [face] at taken
  | some next =>
    obtain ⟨inside, _⟩ := List.getElem?_eq_some_iff.mp face
    have url : (kafkaData.captureFaces.map CaptureFace.url).getD kafkaData.urlIndex "" = next.url := by
      rw [List.getD_eq_getElem?_getD, List.getElem?_map, face]
      rfl
    obtain ⟨dataClass⟩ := kafkaData
    cases dataClass with
    | screenshot | xiashunBusiness => simp [BaseData.captureFaces] at inside
    | business | capture | xiashunCapture =>
      rw [Album.requesting, if_pos rfl]
      exact congrArg (fun url => ({
        dataClass := _, urls := _, urlIndex := _, currentDownloadUrl := url, images := _ } : Album)) url.symm

section Modules

variable {env : Env} {session after : Session} {procType : ProcType} {ending : Ending}

/-- A module takes the next url for its request, or leaves the album. -/
theorem shows_of_module (does : ModuleDoes env session procType ending after) :
    Shows (session.album.requesting procType) (ending.leaves after) ∧ Built env (ending.leaves after) := by
  cases does with
  | fills _ _ plain same =>
    have leaves : session.album.requesting procType = session.album := by
      rw [Album.requesting, if_neg]
      rintro rfl
      cases plain
    rw [leaves]
    exact shows_passedOn (album_of_unfilled same)
  | plugs plugin subscribed _ => exact shows_passedOn rfl
  | fails | noImages | noRequest => exact ⟨shows_ended _, built_ended env⟩
  | asks _ request http url made =>
    constructor
    · rintro _ ⟨⟩
      cases procType with
      | downloadImage => exact getNextUrl_album session (url rfl)
      | _ => rfl
    · rintro _ _ _ ⟨⟩
      exact made

end Modules

/-! ## What a callback does to the album -/

/-- Faces with the same urls leave the album. -/
theorem album_setCaptureFaces (session : Session) {faces : List CaptureFace}
    (same : faces.map CaptureFace.url = session.kafkaData.captureFaces.map CaptureFace.url) :
    ({ session with kafkaData := session.kafkaData.setCaptureFaces faces } : Session).album =
      session.album := by
  have length : faces.length = session.kafkaData.captureFaces.length := by
    have lengths := congrArg List.length same
    rwa [List.length_map, List.length_map] at lengths
  have kept := captureFaces_setCaptureFaces session.kafkaData length
  obtain ⟨ref, kafkaData⟩ := session
  dsimp only at same kept
  have sameClass : (kafkaData.setCaptureFaces faces).dataClass = kafkaData.dataClass := by
    unfold BaseData.setCaptureFaces
    split <;> rfl
  have sameIndex : (kafkaData.setCaptureFaces faces).urlIndex = kafkaData.urlIndex := by
    obtain ⟨dataClass⟩ := kafkaData
    cases dataClass <;> rfl
  simp only [Session.album, kept, same, sameClass, sameIndex]

theorem procGenerateUrlResponse_album (env : Env) (response : HttpResponse) :
    (procGenerateUrlResponse env response).Preserves Session.album := by
  apply procGenerateUrlResponse_preserves_of
  apply getGenUrl_preserves_of
  · exact fun session _ same => album_setCaptureFaces session same
  · exact fun _ _ => rfl

/-- An image is stored without the face that it is of. -/
theorem procImageResponse_album {response : HttpResponse} {session after : Session}
    (ran : (procImageResponse response).run session = .ok (true, after)) :
    after.album = session.album.answered .downloadImage (some response) := by
  -- the chain is no part of the album
  have next : ∀ before : Session, (do
      if (← get).kafkaData.hasNextUrl then
        modify fun session => { session with procChain := .downloadImage :: session.procChain }
      return true : SessionFn Bool).run before = .ok (true, after) → after.album = before.album := by
    intro before ran
    rw [StateT.run_bind, StateT.run_get, pure_bind] at ran
    split at ran <;> cases ran <;> rfl
  unfold procImageResponse at ran
  simp only [Album.answered, HttpResponse.hasImage, true_and, Bool.and_eq_true]
  split at ran
  · next found =>
    split at ran
    · next content =>
      rw [if_pos ⟨found, decide_eq_true content⟩]
      exact next { session with
        images := session.images ++ [{ url := session.currentDownloadUrl, img := response.content }] } ran
    · next empty =>
      rw [if_neg fun both => empty (of_decide_eq_true both.2)]
      exact next session ran
  · cases ran

/-- What an accepted response to a request makes of the album. -/
theorem procHandlerResponse_album {env : Env} {procType : ProcType} {response : HttpResponse}
    {session after : Session}
    (ran : (procHandlerResponse env procType response).run session = .ok (true, after)) :
    after.album = session.album.answered procType (some response) := by
  cases procType with
  | traceSpace => exact album_of_unanswered (procTraceSpaceResponse_fills env response _ _ _ ran)
  | generateUrl => exact procGenerateUrlResponse_album env response _ _ _ ran
  | outputKafka | picWait | businessSave | getPlugin => cases ran
  | downloadImage => exact procImageResponse_album ran

/-- A picture that is refused ends the session. -/
theorem procHandlerResponse_refused {env : Env} {procType : ProcType} {response : HttpResponse} {session : Session}
    {result : Bool × Session} (refused : refuses procType (some response) = true)
    (ran : (procHandlerResponse env procType response).run session = .ok result) : result.1 = false := by
  simp only [refuses, Bool.and_eq_true, decide_eq_true_eq, Bool.not_eq_true'] at refused
  obtain ⟨rfl, without⟩ := refused
  change (procImageResponse response).run session = .ok result at ran
  rw [procImageResponse, if_neg (by rw [without]; exact Bool.false_ne_true)] at ran
  cases ran
  rfl

theorem album_retreating (session : Session) (procType : ProcType) :
    (session.retreating procType).album = session.album.answered procType none := by
  unfold Session.retreating Album.answered
  split
  · obtain ⟨ref, kafkaData⟩ := session
    obtain ⟨dataClass⟩ := kafkaData
    cases dataClass <;> rfl
  · rfl

theorem shows_of_callback {env : Env} {session after : Session} {procType : ProcType} {ending : Ending}
    {response : Option HttpResponse} (does : CallbackDoes env session procType response ending after) :
    Shows (session.album.answered procType response) (ending.leaves after) ∧ Built env (ending.leaves after) ∧
      (refuses procType response = true → ending.leaves after = .ended) := by
  cases does with
  | retries _ =>
    refine ⟨shows_queued ?_, built_queued env _, fun impossible => by cases impossible⟩
    exact album_retreating session procType
  | exhausted | refuses => exact ⟨shows_ended _, built_ended env, fun _ => rfl⟩
  | accepts response _ ran =>
    obtain ⟨shown, built⟩ := @shows_passedOn env _ _ (procHandlerResponse_album ran)
    refine ⟨shown, built, fun refused => ?_⟩
    have not := procHandlerResponse_refused refused ran
    cases not

/-! ## What a step of a course does to the album -/

/-- One step of a session with this album, by `Process` of its next module or by a callback. -/
def Turns (moment : Moment) : Pending → Pending → Prop
  | .ended, after => after = .ended
  | .queued session, after =>
    match session.procChain with
    | [] => after = .ended
    | procType :: _ => Shows (session.album.requesting procType) after
  | .requested session procType _, after =>
    Shows (session.album.answered procType moment.response) after ∧
      (refuses procType moment.response = true → after = .ended)

theorem courseStep_turns {env : Env} {course next : Course} {moment : Moment}
    (unfinished : ∀ session, course.pending.session? = some session → session.isFinished = false)
    (stepped : course.step env moment = some next) :
    Turns moment course.pending next.pending ∧ Built env next.pending := by
  have ran := courseStep_of_step unfinished stepped
  obtain ⟨pending, executed, subscribed⟩ := course
  cases ran with
  | rests => exact ⟨rfl, built_ended env⟩
  | stops session empty =>
    rw [Turns, empty]
    exact ⟨rfl, built_ended env⟩
  | processes session procType rest sight last chain watched =>
    have own : Own session.ref ({ session with procChain := rest } : Session).itinerary :=
      ⟨rfl, unfinished session rfl⟩
    obtain ⟨ending, after, seen, left⟩ := (moduleProcess_sees env procType own rfl).followed watched
    have shown := shows_of_module seen.does
    rw [Turns, chain, left]
    exact shown
  | answers session procType request sight last watched =>
    have own : Own session.ref session.itinerary := ⟨rfl, unfinished session rfl⟩
    obtain ⟨ending, after, does, left⟩ := (requestCallback_sees env procType moment.response own).followed watched
    obtain ⟨shown, built, refused⟩ := shows_of_callback does
    rw [Turns, left]
    exact ⟨⟨shown, refused⟩, built⟩

end XBusiness
