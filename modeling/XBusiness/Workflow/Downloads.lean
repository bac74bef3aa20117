import XBusiness.Workflow.Album

/-! # Images and faces

* `tripMachine` — the course of a session with the images that it has downloaded, each with the face
  that it was downloaded for.
* `images_aligned` — where no image comes after a face without one, the request to the trace space has
  the image of every face at the place of the face.
* `images_not_aligned` — an empty response moves the later images to other faces.
* `faces_present` — what reads the first face of a capture comes after a download, so there is one.
-/

namespace XBusiness

open Interaction

/-! ## Downloads -/

/-- An image that was downloaded: for which face, from which url, with which body of its request. -/
structure Download where
  face : Nat
  url : String
  body : String
  img : String
  deriving DecidableEq

/-- A course with the face that was asked for last, the downloads so far, and the faces whose download was
    answered with success and without an image. -/
structure Trip where
  course : Course
  face : Nat := 0
  downloads : List Download := []
  skipped : List Nat := []

/-- The response is one of success, with nothing in it. -/
def HttpResponse.isEmpty (response : HttpResponse) : Bool :=
  containsText "200" response.statusCode && response.content = ""

namespace Trip

/-- The face that the next step asks for. -/
def asks (trip : Trip) (next : Course) : Nat :=
  match trip.course.pending, next.pending with
  | .queued session, .requested _ .downloadImage _ => session.kafkaData.urlIndex
  | _, _ => trip.face

/-- The download that the next step completes. -/
def completes (trip : Trip) (moment : Moment) : List Download :=
  match trip.course.pending, moment.response with
  | .requested session .downloadImage request, some response =>
    if response.hasImage then
      [{ face := trip.face, url := session.currentDownloadUrl, body := request.body, img := response.content }]
    else []
  | _, _ => []

/-- The face that the next step leaves without an image. -/
def skips (trip : Trip) (moment : Moment) : List Nat :=
  match trip.course.pending, moment.response with
  | .requested _ .downloadImage _, some response => if response.isEmpty then [trip.face] else []
  | _, _ => []

def step (env : Env) (trip : Trip) (moment : Moment) : Option Trip :=
  (trip.course.step env moment).map fun next => {
    course := next
    face := trip.asks next
    downloads := trip.downloads ++ trip.completes moment
    skipped := trip.skipped ++ trip.skips moment }

/-- The next step stores an image although a face before was left without one. -/
def leavesGap (trip : Trip) (moment : Moment) : Bool :=
  match trip.course.pending, moment.response with
  | .requested _ .downloadImage _, some response => response.hasImage && trip.skipped ≠ []
  | _, _ => false

/-- The condition on a step: no image comes after an empty response. -/
def Filled (trip : Trip) (moment : Moment) : Prop := trip.leavesGap moment = false

instance (trip : Trip) (moment : Moment) : Decidable (trip.Filled moment) :=
  inferInstanceAs (Decidable (trip.leavesGap moment = false))

end Trip

def tripMachine (env : Env) (session : Session) : Machine Trip Moment where
  start := { course := (courseMachine env session).start }
  step := Trip.step env

/-- The entry of `images` for a face and its image.  The rectangle, the age and the gender are those of the
    face where the plugin leaves them to the device. -/
structure IsEntry (self : BaseData) (index : Nat) (face : CaptureFace) (img : String) (entry : Json) : Prop where
  url : entry.find? "url" = some (.string face.url)
  image : entry.find? "image_base64" =
    some (.string (String.ofList (base64Encode (img.toList.map Char.toNat))))
  rect : self.plugin.enable = false ∨ self.plugin.faceRectFrom = 0 →
    ∃ rect, self.getFaceRectByOrder index = .ok rect ∧
      entry.find? "face_rect" = if rect = "" then none else some (.string rect)
  age : self.plugin.enable = false ∨ self.plugin.faceAttrFrom = 0 →
    entry.find? "age" = some (.int (self.getFaceAgeByOrder index))
  gender : self.plugin.enable = false ∨ self.plugin.faceAttrFrom = 0 →
    entry.find? "gender" = some (.int (self.getFaceGenderByOrder index))

/-- The images of a session are those of its first faces, and its request to the trace space has at each
    place the image of the face of that place. -/
structure Aligned (env : Env) (session : Session) (request : RequestInfo) (downloads : List Download) :
    Prop where
  images : session.images = downloads.map fun download => { url := download.url, img := download.img }
  faces : ∀ (index : Nat) (download : Download), downloads[index]? = some download →
    download.face = index ∧
      ∃ face, session.kafkaData.captureFaces[index]? = some face ∧ face.url = download.url ∧
        ∃ parts, splitUri face.url = some parts ∧ download.body = env.text.toStyledString (storageUrlJson parts)
  once : (downloads.map Download.face).Nodup
  sent : ∃ body entries, request.body = env.text.toStyledString body ∧
    body.find? "images" = some (.array entries) ∧ entries.length = downloads.length ∧
    ∀ (index : Nat) (download : Download) (entry : Json) (face : CaptureFace),
      downloads[index]? = some download → entries[index]? = some entry →
        session.kafkaData.captureFaces[index]? = some face →
          IsEntry session.kafkaData index face download.img entry

/-! ## The entries of a request -/

/-- What the plugin leaves to the device is put into the entry. -/
theorem imageAttributes_eq {self : BaseData} {index : Nat} {image entry : Json}
    (read : imageAttributes self index image = .ok entry) :
    ∃ rect, (self.plugin.enable = false ∨ self.plugin.faceRectFrom = 0 → self.getFaceRectByOrder index = .ok rect) ∧
      entry = ((if rect ≠ "" then image.set "face_rect" (.string rect) else image).set "age"
        (.int (if self.plugin.enable = false ∨ self.plugin.faceAttrFrom = 0 then self.getFaceAgeByOrder index
          else -2))).set "gender"
        (.int (if self.plugin.enable = false ∨ self.plugin.faceAttrFrom = 0 then self.getFaceGenderByOrder index
          else -2)) := by
  unfold imageAttributes at read
  by_cases fromDevice : self.plugin.enable = false ∨ self.plugin.faceRectFrom = 0
  · rw [if_pos fromDevice] at read
    cases isRect : self.getFaceRectByOrder index with
    | error fault =>
      rw [isRect] at read
      cases read
    | ok rect =>
      rw [isRect] at read
      refine ⟨rect, fun _ => rfl, ?_⟩
      simp only [ok_bind] at read
      split at read
      · next attributes =>
        cases read
        simp only [if_pos attributes]
      · next attributes =>
        cases read
        simp only [if_neg attributes]
  · rw [if_neg fromDevice] at read
    refine ⟨"", fun device => absurd device fromDevice, ?_⟩
    simp only [ok_bind] at read
    split at read
    · next attributes =>
      cases read
      simp only [if_pos attributes]
    · next attributes =>
      cases read
      simp only [if_neg attributes]

theorem isEntry_of_imageAttributes {self : BaseData} {index : Nat} {face : CaptureFace} {img : String}
    {entry : Json}
    (read : imageAttributes self index (Json.null.set "url" (.string face.url)) = .ok entry) :
    IsEntry self index face img
      (entry.set "image_base64" (.string (String.ofList (base64Encode (img.toList.map Char.toNat))))) := by
  obtain ⟨rect, isRect, rfl⟩ := imageAttributes_eq read
  have none : Json.null.find? "face_rect" = none := rfl
  constructor
  case rect =>
    intro device
    refine ⟨rect, isRect device, ?_⟩
    by_cases empty : rect = "" <;> simp [empty, none]
  case url => by_cases empty : rect = "" <;> simp [empty]
  case image => simp
  case age =>
    intro device
    simp [device]
  case gender =>
    intro device
    simp [device]
theorem imageEntries_entry {self : BaseData} {start : Nat} {images : List ImageInfo} {entries : List Json}
    (built : imageEntries self start images = .ok entries) :
    entries.length = images.length ∧ ∀ (index : Nat) (image : ImageInfo) (entry : Json) (face : CaptureFace),
      images[index]? = some image → entries[index]? = some entry → face.url = image.url →
        IsEntry self (start + index) face image.img entry := by
  induction images generalizing start entries with
  | nil =>
    cases built
    exact ⟨rfl, fun index image entry face found => by cases found⟩
  | cons first rest inductionHypothesis =>
    rw [imageEntries] at built
    cases attributes : imageAttributes self start (Json.null.set "url" (.string first.url)) with
    | error fault =>
      rw [attributes] at built
      cases built
    | ok entry =>
      rw [attributes] at built
      simp only [ok_bind] at built
      cases others : imageEntries self (start + 1) rest with
      | error fault =>
        rw [others] at built
        cases built
      | ok later =>
        rw [others] at built
        cases built
        obtain ⟨length, each⟩ := inductionHypothesis others
        refine ⟨congrArg Nat.succ length, fun index image entry face found isEntry sameUrl => ?_⟩
        -- the first image is the first face; the others are shifted by one
        cases index with
        | zero =>
          cases found
          cases isEntry
          rw [← sameUrl] at attributes
          exact isEntry_of_imageAttributes attributes
        | succ index =>
          rw [Nat.add_comm index 1, ← Nat.add_assoc]
          exact each index image entry face found isEntry sameUrl

/-! ## What a run keeps -/

/-- The images are the downloads, each of the face of its place and asked for under its url. -/
structure Album.Has (env : Env) (album : Album) (downloads : List Download) : Prop where
  images : album.images = downloads.map fun download => { url := download.url, img := download.img }
  faces : ∀ (index : Nat) (download : Download), downloads[index]? = some download →
    download.face = index ∧ album.urls[index]? = some download.url ∧
      ∃ parts, splitUri download.url = some parts ∧ download.body = env.text.toStyledString (storageUrlJson parts)

/-- How many faces have been asked for and not been answered. -/
def Pending.unanswered : Pending → Nat
  | .requested _ .downloadImage _ => 1
  | _ => 0

/-- The cursor has passed the faces with an image, those that were skipped, and the one that is asked for. -/
structure Trip.Kept (env : Env) (trip : Trip) : Prop where
  underway : Underway trip.course.pending
  built : Built env trip.course.pending
  has : ∀ session, trip.course.pending.session? = some session → session.album.Has env trip.downloads
  cursor : ∀ session, trip.course.pending.session? = some session →
    session.album.urlIndex = trip.downloads.length + trip.skipped.length + trip.course.pending.unanswered
  asked : ∀ session request, trip.course.pending = .requested session .downloadImage request →
    trip.face + 1 = session.album.urlIndex ∧
      session.album.urls[trip.face]? = some session.album.currentDownloadUrl

section Albums

variable {env : Env} {album : Album} {downloads : List Download} {procType : ProcType}

theorem Album.Has.requesting (has : album.Has env downloads) : (album.requesting procType).Has env downloads := by
  rw [Album.requesting]
  split
  · exact ⟨has.images, has.faces⟩
  · exact has

/-- A failed request, or a response without an image, leaves the images. -/
theorem Album.Has.answered_without {response : Option HttpResponse} (has : album.Has env downloads)
    (none : procType = .downloadImage → ∀ found, response = some found → found.hasImage = false) :
    (album.answered procType response).Has env downloads := by
  cases response with
  | none =>
    rw [Album.answered]
    split
    · exact ⟨has.images, has.faces⟩
    · exact has
  | some response =>
    rw [Album.answered, if_neg]
    · exact has
    · rintro ⟨download, image⟩
      rw [none download response rfl] at image
      cases image

/-- The image of the next face is stored at its place. -/
theorem Album.Has.answered_with {response : HttpResponse} {face : Nat} {body : String} (has : album.Has env downloads)
    (image : response.hasImage = true) (isNext : face = downloads.length)
    (url : album.urls[face]? = some album.currentDownloadUrl)
    (asked : ∃ parts, splitUri album.currentDownloadUrl = some parts ∧
      body = env.text.toStyledString (storageUrlJson parts)) :
    (album.answered .downloadImage (some response)).Has env (downloads ++
      [{ face := face, url := album.currentDownloadUrl, body := body, img := response.content }]) := by
  rw [Album.answered, if_pos ⟨rfl, image⟩]
  constructor
  · rw [List.map_append, ← has.images]
    rfl
  · intro index download found
    by_cases earlier : index < downloads.length
    · rw [List.getElem?_append_left earlier] at found
      exact has.faces index download found
    · rw [List.getElem?_append_right (by omega)] at found
      obtain ⟨bound, same⟩ := List.getElem?_eq_some_iff.mp found
      rw [List.length_singleton] at bound
      have isLast : index = face := by omega
      rw [List.getElem_singleton] at same
      rw [← same, isLast]
      exact ⟨rfl, url, asked⟩

end Albums

theorem urls_length (session : Session) : session.album.urls.length = session.itinerary.urlCount :=
  List.length_map ..

section Steps

variable {env : Env} {trip next : Trip} {moment : Moment}

/-- A request for a download is one for the url under the cursor. -/
theorem asked_of_processed {session later : Session} {procType : ProcType} {rest added : List ProcType}
    {request : RequestInfo} {pending : Pending}
    (processed : Processed procType { session.itinerary with procChain := rest } added pending)
    (isRequested : pending = .requested later .downloadImage request)
    (shown : Shows (session.album.requesting procType) pending) :
    session.album.urlIndex + 1 = later.album.urlIndex ∧
      later.album.urls[session.album.urlIndex]? = some later.album.currentDownloadUrl := by
  cases processed with
  | ended => cases isRequested
  | passed => cases isRequested
  | requested found request http url kept =>
    cases isRequested
    have bound : session.album.urlIndex < session.album.urls.length := by
      rw [urls_length]
      exact url rfl
    rw [shown later rfl, Album.requesting, if_pos rfl]
    refine ⟨rfl, ?_⟩
    show session.album.urls[session.album.urlIndex]? = some (session.album.urls.getD session.album.urlIndex "")
    rw [List.getD_eq_getElem?_getD, List.getElem?_eq_getElem bound]
    rfl

/-- The cursor moves on with the request for a picture, and with nothing else that a module does. -/
theorem cursor_of_processed {session later : Session} {procType : ProcType} {rest added : List ProcType}
    {pending : Pending}
    (processed : Processed procType { session.itinerary with procChain := rest } added pending)
    (isLater : pending.session? = some later) (shown : Shows (session.album.requesting procType) pending) :
    later.album.urlIndex = session.album.urlIndex + pending.unanswered := by
  rw [shown later isLater]
  cases processed with
  | ended => cases isLater
  | passed found plain more same => cases procType <;> first | rfl | cases plain
  | requested => cases procType <;> rfl

/-- `Process` of a module leaves the images. -/
theorem Trip.Kept.processed {session : Session} {executed : List ProcType} {subscribed : Bool} {face : Nat}
    {downloads : List Download} {skipped : List Nat} {course : Course}
    (kept : Trip.Kept env ⟨⟨.queued session, executed, subscribed⟩, face, downloads, skipped⟩)
    (moves : Moves ⟨.queued session, executed, subscribed⟩ course)
    (turns : Turns moment (.queued session) course.pending) (built : Built env course.pending) :
    Trip.Kept env {
      course := course
      face := Trip.asks ⟨⟨.queued session, executed, subscribed⟩, face, downloads, skipped⟩ course
      downloads := downloads
      skipped := skipped } := by
  have underway := moves.underway kept.underway
  have has : session.album.Has env downloads := kept.has session rfl
  have cursor : session.album.urlIndex = downloads.length + skipped.length := kept.cursor session rfl
  cases moves with
  | stops _ _ _ empty =>
    constructor
    case underway => exact underway
    case built => exact built
    case has =>
      intro later found
      cases found
    case cursor =>
      intro later found
      cases found
    case asked =>
      intro later request found
      cases found
  | processed _ procType rest _ _ found pending chain finds processed =>
    rw [Turns, chain] at turns
    have shown : Shows (session.album.requesting procType) pending := turns
    constructor
    case underway => exact underway
    case built => exact built
    case has =>
      intro later isLater
      rw [shown later isLater]
      exact has.requesting
    case cursor =>
      intro later isLater
      rw [cursor_of_processed processed isLater shown, cursor]
    case asked =>
      intro later request isRequested
      change pending = _ at isRequested
      -- a download is requested for the next url, which is that of the face
      have asked := asked_of_processed processed isRequested shown
      subst isRequested
      exact asked

section Answers

variable {session : Session} {procType : ProcType} {request : RequestInfo} {executed : List ProcType}
  {subscribed : Bool} {face : Nat} {downloads : List Download} {skipped : List Nat}

/-- No other callback stores an image. -/
theorem completes_nil
    (not : ¬(procType = .downloadImage ∧
      ∃ response, moment.response = some response ∧ response.hasImage = true)) :
    Trip.completes ⟨⟨.requested session procType request, executed, subscribed⟩, face, downloads, skipped⟩
      moment = [] := by
  cases procType with
  | downloadImage =>
    cases isResponse : moment.response with
    | none => simp only [Trip.completes, isResponse]
    | some response =>
      have without : ¬response.hasImage = true := fun image => not ⟨rfl, response, isResponse, image⟩
      simp only [Trip.completes, isResponse, if_neg without]
  | _ => rfl

/-- Where the session goes on, the face that was asked for has an image, is skipped, or is asked for again. -/
theorem cursor_of_answered
    (cursor : session.album.urlIndex = downloads.length + skipped.length +
      (Pending.requested session procType request).unanswered)
    (accepted : refuses procType moment.response = false) :
    (session.album.answered procType moment.response).urlIndex =
      (downloads ++ Trip.completes
        ⟨⟨.requested session procType request, executed, subscribed⟩, face, downloads, skipped⟩ moment).length +
      (skipped ++ Trip.skips
        ⟨⟨.requested session procType request, executed, subscribed⟩, face, downloads, skipped⟩ moment).length := by
  cases isResponse : moment.response with
  | none => cases procType <;> simp_all [Album.answered, Trip.completes, Trip.skips, Pending.unanswered]
  | some response =>
    rw [isResponse] at accepted
    cases procType with
    | downloadImage =>
      have ok : containsText "200" response.statusCode = true := by simpa [refuses] using accepted
      have asked : session.album.urlIndex = downloads.length + skipped.length + 1 := cursor
      by_cases empty : response.content = ""
      · simp only [Album.answered, Trip.completes, Trip.skips, isResponse, HttpResponse.hasImage,
          HttpResponse.isEmpty, ok, empty, ne_eq, not_true_eq_false, decide_false, decide_true, Bool.and_false,
          Bool.and_true, Bool.false_eq_true, and_false, if_false, if_true, List.append_nil, List.length_append,
          List.length_singleton]
        omega
      · simp only [Album.answered, Trip.completes, Trip.skips, isResponse, HttpResponse.hasImage,
          HttpResponse.isEmpty, ok, empty, ne_eq, not_false_eq_true, decide_false, decide_true, Bool.and_false,
          Bool.and_true, Bool.false_eq_true, and_self, if_false, if_true, List.append_nil, List.length_append,
          List.length_singleton]
        omega
    | _ => simpa [Album.answered, Trip.completes, Trip.skips, isResponse, Pending.unanswered] using cursor

/-- The callback of a download stores the image of the face that was asked for. -/
theorem Trip.Kept.answered {course : Course}
    (kept : Trip.Kept env ⟨⟨.requested session procType request, executed, subscribed⟩, face, downloads, skipped⟩)
    (filled : Trip.Filled
      ⟨⟨.requested session procType request, executed, subscribed⟩, face, downloads, skipped⟩ moment)
    (moves : Moves ⟨.requested session procType request, executed, subscribed⟩ course)
    (turns : Turns moment (.requested session procType request) course.pending)
    (built : Built env course.pending) :
    Trip.Kept env {
      course := course
      face := face
      downloads := downloads ++ Trip.completes
        ⟨⟨.requested session procType request, executed, subscribed⟩, face, downloads, skipped⟩ moment
      skipped := skipped ++ Trip.skips
        ⟨⟨.requested session procType request, executed, subscribed⟩, face, downloads, skipped⟩ moment } := by
  have underway := moves.underway kept.underway
  have has : session.album.Has env downloads := kept.has session rfl
  have cursor := kept.cursor session rfl
  obtain ⟨shown, refused⟩ : Shows (session.album.answered procType moment.response) course.pending ∧
    (refuses procType moment.response = true → course.pending = .ended) := turns
  have answered : (session.album.answered procType moment.response).Has env (downloads ++ Trip.completes
      ⟨⟨.requested session procType request, executed, subscribed⟩, face, downloads, skipped⟩ moment) := by
    by_cases stores : procType = .downloadImage ∧
        ∃ response, moment.response = some response ∧ response.hasImage = true
    · obtain ⟨rfl, response, isResponse, image⟩ := stores
      obtain ⟨passed, url⟩ := kept.asked session request rfl
      -- no face was skipped, so the cursor has passed the faces with an image and the one that was asked for
      have none : skipped = [] := by
        simpa [Trip.Filled, Trip.leavesGap, isResponse, image] using filled
      have isNext : face = downloads.length := by
        have index : session.album.urlIndex = downloads.length + skipped.length + 1 := cursor
        have passed : face + 1 = session.album.urlIndex := passed
        rw [none, List.length_nil] at index
        omega
      simp only [Trip.completes, isResponse, image, if_true]
      exact has.answered_with image isNext url (kept.built session .downloadImage request rfl)
    · rw [completes_nil stores, List.append_nil]
      apply has.answered_without
      intro download response isResponse
      by_contra image
      exact stores ⟨download, response, isResponse, by simpa using image⟩
  -- a callback makes no request
  have none : course.pending.unanswered = 0 ∧
      ∀ later other, course.pending ≠ .requested later .downloadImage other := by
    cases moves with
    | answered _ _ _ _ _ pending answered =>
      cases answered <;> exact ⟨rfl, fun later other => Pending.noConfusion⟩
  constructor
  case underway => exact underway
  case built => exact built
  case has =>
    intro later isLater
    rw [shown later isLater]
    exact answered
  case cursor =>
    intro later isLater
    change course.pending.session? = some later at isLater
    have accepted : refuses procType moment.response = false := by
      by_contra refuses
      rw [refused (by simpa using refuses)] at isLater
      cases isLater
    rw [shown later isLater, none.1]
    exact cursor_of_answered cursor accepted
  case asked =>
    intro later other isRequested
    exact absurd isRequested (none.2 later other)

end Answers

theorem Trip.kept_step (kept : trip.Kept env) (filled : trip.Filled moment)
    (stepped : trip.step env moment = some next) : next.Kept env := by
  simp only [Trip.step, Option.map_eq_some_iff] at stepped
  obtain ⟨course, moved, rfl⟩ := stepped
  have moves := course_moves kept.underway.unfinished moved
  obtain ⟨turns, built⟩ := courseStep_turns kept.underway.unfinished moved
  obtain ⟨⟨pending, executed, subscribed⟩, face, downloads, skipped⟩ := trip
  cases pending with
  | ended =>
    cases moves
    constructor
    case underway => exact underway_ended
    case built => exact built
    case has =>
      intro session found
      cases found
    case cursor =>
      intro session found
      cases found
    case asked =>
      intro session request found
      cases found
  | queued session =>
    simp only [Trip.completes, Trip.skips, List.append_nil]
    exact kept.processed moves turns built
  | requested session procType request => exact kept.answered filled moves turns built

end Steps

theorem Created.unfilled {session : Session} {env : Env} (created : Created env session) :
    ∃ ref data payload kafkaData, parseMessage env data payload = .ok (some kafkaData) ∧
      session.unfilled = (Session.make env ref kafkaData).unfilled := by
  cases created with
  | fromKafka ref data kafkaData parsed => exact ⟨ref, _, _, kafkaData, parsed, rfl⟩
  | fromRedis ref payload picResult kafkaData session parsed accepted =>
    exact ⟨ref, _, _, kafkaData, parsed, parseTraceAnswer_fills env _ picResult _ _ _ accepted⟩

theorem Created.kept {session : Session} {env : Env} (created : Created env session) :
    (tripMachine env session).start.Kept env := by
  obtain ⟨ref, data, payload, kafkaData, parsed, same⟩ := created.unfilled
  have album := album_of_unfilled same
  constructor
  case underway => exact created.underway
  case built => exact built_queued env session
  case has =>
    intro later found
    cases found
    constructor
    · rw [album]
      rfl
    · intro index download found
      cases found
  case cursor =>
    intro later found
    cases found
    rw [album]
    exact parseMessage_urlIndex parsed
  case asked =>
    intro later request found
    cases found

/-- Where the downloads are of the faces of their places, so are the entries of the request. -/
theorem Trip.Kept.aligned {env : Env} {trip : Trip} {session : Session} {request : RequestInfo}
    (kept : trip.Kept env) (isRequested : trip.course.pending = .requested session .traceSpace request) :
    Aligned env session request trip.downloads := by
  have has := kept.has session (by rw [isRequested]; rfl)
  have url : ∀ (index : Nat) (download : Download), trip.downloads[index]? = some download →
      download.face = index ∧
        ∃ face, session.kafkaData.captureFaces[index]? = some face ∧ face.url = download.url ∧
          ∃ parts, splitUri face.url = some parts ∧
            download.body = env.text.toStyledString (storageUrlJson parts) := by
    intro index download found
    obtain ⟨isFace, atIndex, asked⟩ := has.faces index download found
    have mapped : (session.kafkaData.captureFaces.map CaptureFace.url)[index]? = some download.url := atIndex
    rw [List.getElem?_map, Option.map_eq_some_iff] at mapped
    obtain ⟨face, isFaceAt, sameUrl⟩ := mapped
    exact ⟨isFace, face, isFaceAt, sameUrl, sameUrl ▸ asked⟩
  constructor
  · exact has.images
  · exact url
  · -- the faces of the downloads are their places, so no face comes twice
    have range : trip.downloads.map Download.face = List.range trip.downloads.length := by
      apply List.ext_getElem?
      intro index
      rw [List.getElem?_map]
      cases found : trip.downloads[index]? with
      | none =>
        rw [List.getElem?_eq_none_iff] at found
        rw [List.getElem?_eq_none (by simpa using found)]
        rfl
      | some download =>
        obtain ⟨bound, _⟩ := List.getElem?_eq_some_iff.mp found
        rw [List.getElem?_range bound, Option.map_some, (url index download found).1]
    rw [range]
    exact List.nodup_range
  · -- the request was built from the images, one entry for each
    obtain ⟨entries, made, rfl⟩ := kept.built session .traceSpace request isRequested
    obtain ⟨length, each⟩ := imageEntries_entry made
    have images : session.images = trip.downloads.map fun download =>
      { url := download.url, img := download.img } := has.images
    refine ⟨_, entries, rfl, ?_, ?_, fun index download entry face found isEntry isFace => ?_⟩
    · rw [traceSpaceJson, Json.find?_set, if_pos rfl]
    · rw [length, images, List.length_map]
    · have image : session.images[index]? = some { url := download.url, img := download.img } := by
        rw [images, List.getElem?_map, found]
        rfl
      obtain ⟨_, other, isOther, sameUrl, _⟩ := url index download found
      cases isFace.symm.trans isOther
      have entry := each index _ entry face image isEntry sameUrl
      rwa [Nat.zero_add] at entry

/-- Whatever the downloads are answered: where no image comes after an empty response, every image that is
    sent to the trace space is that of the face whose url, rectangle, age and gender are sent with it, and no
    face is sent twice. -/
theorem images_aligned (env : Env) (session : Session) (created : Created env session) (moments : List Moment)
    (trip : Trip) (filled : (tripMachine env session).Meets Trip.Filled (tripMachine env session).start moments)
    (ran : (tripMachine env session).run (tripMachine env session).start moments = some trip)
    (later : Session) (request : RequestInfo)
    (sends : trip.course.pending = .requested later .traceSpace request) :
    Aligned env later request trip.downloads := by
  have kept : trip.Kept env := by
    refine Machine.run_invariant_of_meets ?_ created.kept filled ran
    exact fun _ _ _ kept filled stepped => Trip.kept_step kept filled stepped
  exact kept.aligned sends

/-! ## A face without an image -/

def facesPayload : String :=
  "\x7b\"capture\":\x7b\"pesn\":\x7b\"face\":[\x7b\"uri\":\"h/b/0\"\x7d,\x7b\"uri\":\"h/b/1\"\x7d]\x7d\x7d\x7d"

/-- A trace message with two faces. -/
def facesMessage : String :=
  "\x7b\"data\":\x7b\"app_id\":\"a\",\"did\":\"d\",\"payload\":\"\x7b\\\"capture\\\":\x7b\\\"pesn\\\":\x7b\\\"face\\\":[\x7b\\\"uri\\\":\\\"h/b/0\\\"\x7d,\x7b\\\"uri\\\":\\\"h/b/1\\\"\x7d]\x7d\x7d\x7d\",\"ptype\":8\x7d,\"msg_id\":\"m\"\x7d"

def facesEnv : Env where
  text := tableText
    [(facesMessage, messageJson facesPayload 8),
      (facesPayload, .object [("capture", .object [("pesn", .object [("face",
        .array [.object [("uri", .string "h/b/0")], .object [("uri", .string "h/b/1")]])])])]),
      (personAnswer, .object [("error_code", .int 0),
        ("result", .object [("person_result", .object [("id", .string "p")]), ("track_result", .object [])])])]
  conf := { getValue := fun _ _ => some "/", getIntValue := fun _ _ => none }
  uninit := { timestamp := 0, similar := 0 }

def facesNode : PmPtr := ⟨0, 0, ⟨"gzc", 0, 0, facesMessage⟩⟩

def facesData : BaseData where
  dataClass := .capture
  payloadType := 8
  totalJv := messageJson facesPayload 8
  src := .kafka
  ipc := { spaceId := "adefaultspace", appId := "a", deviceId := "d", timestamp := 0 }
  msgId := "m"
  data := some facesNode
  capture := { type := 1, person := { faces := [{ url := "h/b/0" }, { url := "h/b/1" }] } }
  plugin := { datatype := 1 }

set_option maxRecDepth 4000 in
theorem faces_created : Created facesEnv (.make facesEnv 0 facesData) :=
  .fromKafka 0 facesNode facesData rfl

/-- The plugin is read, each request for an image gets its response, and the trace space is asked. -/
def downloadMoments (responses : List (Option HttpResponse)) : List Moment :=
  ⟨fun _ => FlowCall.succeed, none⟩ ::
    responses.flatMap (fun response =>
      [⟨fun _ => FlowCall.succeed, none⟩, ⟨fun _ => FlowCall.succeed, response⟩]) ++
    [⟨fun _ => FlowCall.succeed, none⟩]

/-- The first request fails once. -/
theorem images_aligned_retried :
    ∃ trip later request, (tripMachine facesEnv (.make facesEnv 0 facesData)).run
        (tripMachine facesEnv (.make facesEnv 0 facesData)).start
        (downloadMoments [none, some ⟨"200 OK", "x"⟩, some ⟨"200 OK", "y"⟩]) = some trip ∧
      trip.course.pending = .requested later .traceSpace request ∧ later.images.length = 2 ∧
      Aligned facesEnv later request trip.downloads :=
  ⟨_, _, _, rfl, rfl, rfl, images_aligned facesEnv _ faces_created
    (downloadMoments [none, some ⟨"200 OK", "x"⟩, some ⟨"200 OK", "y"⟩]) _ (by decide) rfl _ _ rfl⟩

/-- The response for the first face has status 200 and no body: the image of the second face is sent in
    the place of the first. -/
theorem images_not_aligned :
    ∃ trip later request, (tripMachine facesEnv (.make facesEnv 0 facesData)).run
        (tripMachine facesEnv (.make facesEnv 0 facesData)).start
        (downloadMoments [some ⟨"200 OK", ""⟩, some ⟨"200 OK", "y"⟩]) = some trip ∧
      trip.course.pending = .requested later .traceSpace request ∧
      later.images = [{ url := "h/b/1", img := "y" }] ∧ ¬Aligned facesEnv later request trip.downloads := by
  refine ⟨_, _, _, rfl, rfl, rfl, fun aligned => ?_⟩
  have face := (aligned.faces 0 _ rfl).1
  cases face

/-! ## The first face -/

/-- The modules that read the first face of a capture. -/
def ProcType.readsFace : ProcType → Bool
  | businessSave | outputKafka => true
  | downloadImage | traceSpace | generateUrl | picWait | getPlugin => false

/-- No module of the chain reads the first face before a download. -/
def downloadsFirst : List ProcType → Bool
  | [] => true
  | .downloadImage :: _ => true
  | procType :: rest => !procType.readsFace && downloadsFirst rest

theorem downloadsFirst_tail {procType : ProcType} {rest : List ProcType}
    (first : downloadsFirst (procType :: rest) = true) (other : procType ≠ .downloadImage) :
    downloadsFirst rest = true := by
  cases procType <;> first | exact absurd rfl other | exact first | cases first

theorem downloadsFirst_cons {procType : ProcType} {chain : List ProcType} (http : procType.isHttp = true)
    (first : downloadsFirst chain = true) : downloadsFirst (procType :: chain) = true := by
  cases procType <;> first | exact first | rfl | cases http

/-- What is added behind a download comes after it. -/
theorem downloadsFirst_append {chain added : List ProcType} (first : downloadsFirst chain = true)
    (downloads : .downloadImage ∈ chain) : downloadsFirst (chain ++ added) = true := by
  induction chain with
  | nil => cases downloads
  | cons procType rest inductionHypothesis =>
    cases List.mem_cons.mp downloads with
    | inl isFirst => rw [← isFirst]; rfl
    | inr later =>
      by_cases isFirst : procType = .downloadImage
      · rw [isFirst]; rfl
      · have rested := inductionHypothesis (downloadsFirst_tail first isFirst) later
        cases procType <;> first | exact rested | rfl | cases first

/-- There is a face, or a download is to come before any module that reads one. -/
def Itinerary.FaceFirst (itinerary : Itinerary) : Prop :=
  0 < itinerary.urlCount ∨
    (downloadsFirst itinerary.procChain = true ∧ .downloadImage ∈ itinerary.procChain)

/-- The same of a pending session; one that waits for an image has a face. -/
structure FaceKept (dataClass : DataClass) (pending : Pending) : Prop where
  underway : Underway pending
  sameClass : ∀ session, pending.session? = some session → session.album.dataClass = dataClass
  first : ∀ session, pending.session? = some session → session.itinerary.FaceFirst
  asked : ∀ session request, pending = .requested session .downloadImage request →
    0 < session.itinerary.urlCount

theorem Processed.faceFirst {procType : ProcType} {itinerary : Itinerary} {rest added : List ProcType}
    {pending : Pending} (processed : Processed procType { itinerary with procChain := rest } added pending)
    (chain : itinerary.procChain = procType :: rest) (first : itinerary.FaceFirst) :
    (∀ session, pending.session? = some session → session.itinerary.FaceFirst) ∧
      ∀ session request, pending = .requested session .downloadImage request →
        0 < session.itinerary.urlCount := by
  rw [Itinerary.FaceFirst, chain] at first
  -- a module that is no download leaves the one that is to come
  have tail : procType ≠ .downloadImage → 0 < itinerary.urlCount ∨
      (downloadsFirst rest = true ∧ .downloadImage ∈ rest) := by
    intro other
    refine first.imp_right fun later => ⟨downloadsFirst_tail later.1 other, ?_⟩
    cases List.mem_cons.mp later.2 with
    | inl isFirst => exact absurd isFirst.symm other
    | inr inRest => exact inRest
  cases processed with
  | ended => exact ⟨(fun _ found => nomatch found), (fun _ _ found => nomatch found)⟩
  | passed session plain more same =>
    refine ⟨?_, (fun _ _ found => nomatch found)⟩
    rintro _ ⟨⟩
    have other : procType ≠ .downloadImage := by
      intro isDownload
      rw [isDownload] at plain
      cases plain
    rw [same]
    refine (tail other).imp_right fun later => ?_
    exact ⟨downloadsFirst_append later.1 later.2, List.mem_append_left _ later.2⟩
  | requested session request http url same =>
    by_cases isDownload : procType = .downloadImage
    · have faces : 0 < session.itinerary.urlCount := by
        have more := url isDownload
        rw [same, Itinerary.requesting, if_pos isDownload]
        exact Nat.lt_of_le_of_lt (Nat.zero_le _) more
      refine ⟨?_, ?_⟩
      · rintro _ ⟨⟩
        exact .inl faces
      · rintro _ _ ⟨⟩
        exact faces
    · refine ⟨?_, ?_⟩
      · rintro _ ⟨⟩
        rw [same, Itinerary.requesting, if_neg isDownload]
        exact tail isDownload
      · rintro _ _ ⟨⟩
        exact absurd rfl isDownload

theorem Answered.faceFirst {procType : ProcType} {itinerary : Itinerary} {pending : Pending}
    (answered : Answered procType itinerary pending) (http : procType.isHttp = true)
    (first : itinerary.FaceFirst) (asked : procType = .downloadImage → 0 < itinerary.urlCount) :
    (∀ session, pending.session? = some session → session.itinerary.FaceFirst) ∧
      ∀ session request, pending ≠ .requested session .downloadImage request := by
  cases answered with
  | ended => exact ⟨(fun _ found => nomatch found), (fun _ _ found => nomatch found)⟩
  | accepted session more same =>
    refine ⟨?_, (fun _ _ found => nomatch found)⟩
    rintro _ ⟨⟩
    rw [same]
    exact first
  | next session download more same =>
    refine ⟨?_, (fun _ _ found => nomatch found)⟩
    rintro _ ⟨⟩
    rw [same]
    exact .inl (asked download)
  | retried session left same =>
    refine ⟨?_, (fun _ _ found => nomatch found)⟩
    rintro _ ⟨⟩
    rw [same]
    by_cases isDownload : procType = .downloadImage
    · exact .inl (asked isDownload)
    · refine first.imp_right fun later => ?_
      exact ⟨downloadsFirst_cons http later.1, List.mem_cons_of_mem _ later.2⟩

theorem Turns.sameClass {moment : Moment} {pending after : Pending} {dataClass : DataClass}
    (turns : Turns moment pending after)
    (same : ∀ session, pending.session? = some session → session.album.dataClass = dataClass)
    (session : Session) (found : after.session? = some session) : session.album.dataClass = dataClass := by
  cases pending with
  | ended =>
    have ended : after = .ended := turns
    rw [ended] at found
    cases found
  | queued before =>
    rw [Turns] at turns
    split at turns
    · rw [turns] at found
      cases found
    · rw [turns session found, ← same before rfl, Album.requesting]
      split <;> rfl
  | requested before procType request =>
    have shown : Shows (before.album.answered procType moment.response) after := turns.1
    rw [shown session found, ← same before rfl]
    cases moment.response <;> rw [Album.answered] <;> split <;> rfl

theorem faceKept_step {env : Env} {dataClass : DataClass} {course next : Course} {moment : Moment}
    (kept : FaceKept dataClass course.pending) (stepped : course.step env moment = some next) :
    FaceKept dataClass next.pending := by
  have moves := course_moves kept.underway.unfinished stepped
  have turns := (courseStep_turns kept.underway.unfinished stepped).1
  have sameClass := turns.sameClass kept.sameClass
  have underway := moves.underway kept.underway
  cases moves with
  | rests => exact kept
  | stops =>
    exact ⟨underway, sameClass, (fun _ found => nomatch found), (fun _ _ found => nomatch found)⟩
  | processed session procType rest executed subscribed found pending chain finds processed =>
    obtain ⟨first, asked⟩ := processed.faceFirst chain (kept.first session rfl)
    exact ⟨underway, sameClass, first, asked⟩
  | answered session procType request executed subscribed pending answered =>
    have http := kept.underway.http session procType request rfl
    have faces : procType = .downloadImage → 0 < session.itinerary.urlCount := by
      rintro rfl
      exact kept.asked session request rfl
    obtain ⟨first, none⟩ := answered.faceFirst http (kept.first session rfl) faces
    exact ⟨underway, sameClass, first, fun later other found => absurd found (none later other)⟩

/-- A capture, from a device or from the other product. -/
def DataClass.isCapture : DataClass → Bool
  | capture | xiashunCapture => true
  | business | screenshot | xiashunBusiness => false

theorem Created.faceKept {env : Env} {session : Session} (created : Created env session)
    (isCapture : session.kafkaData.dataClass.isCapture = true) :
    FaceKept session.kafkaData.dataClass (.queued session) := by
  obtain ⟨ref, data, payload, kafkaData, parsed, same⟩ := created.unfilled
  have sameClass : session.kafkaData.dataClass = kafkaData.dataClass :=
    congrArg Album.dataClass (album_of_unfilled same)
  constructor
  case underway => exact created.underway
  case sameClass =>
    rintro _ ⟨⟩
    rfl
  case first =>
    rintro _ ⟨⟩
    right
    rw [itinerary_of_unfilled same]
    show downloadsFirst (makeProcessChain kafkaData) = true ∧ .downloadImage ∈ makeProcessChain kafkaData
    rw [sameClass] at isCapture
    rw [makeProcessChain]
    cases isClass : kafkaData.dataClass with
    | capture | xiashunCapture => exact ⟨rfl, by simp⟩
    | business | screenshot | xiashunBusiness => rw [isClass] at isCapture; cases isCapture
  case asked =>
    intro later request found
    cases found

/-- In every run of the session of a capture, whatever is answered: when `BusinessSave` or the output comes
    next, the capture has a face, also when the look-up before the first access has returned. -/
theorem faces_present (env : Env) (session : Session) (created : Created env session)
    (isCapture : session.kafkaData.dataClass.isCapture = true) (moments : List Moment) (course : Course)
    (ran : (courseMachine env session).run (courseMachine env session).start moments = some course)
    (later : Session) (procType : ProcType) (rest : List ProcType)
    (isNext : course.pending = .queued later) (chain : later.procChain = procType :: rest)
    (reads : procType.readsFace = true) :
    later.kafkaData.capture.person.faces ≠ [] ∧
      (switchFaceSetIdBySetName.run { later with procChain := rest }).Makes (fun _ => True)
        fun result => result.2.kafkaData.capture.person.faces ≠ [] := by
  have kept : FaceKept session.kafkaData.dataClass course.pending := by
    have start : FaceKept session.kafkaData.dataClass (courseMachine env session).start.pending :=
      created.faceKept isCapture
    refine @Machine.run_invariant _ _ (courseMachine env session)
      (fun course => FaceKept session.kafkaData.dataClass course.pending) ?_ _ _ _ start ran
    exact fun _ _ _ kept stepped => faceKept_step kept stepped
  have first := kept.first later (by rw [isNext]; rfl)
  have sameClass := kept.sameClass later (by rw [isNext]; rfl)
  have count : 0 < later.kafkaData.getUrlCount := by
    -- either there is a url, or the chain still starts with a download, which these modules do not
    obtain faces | ⟨first, _⟩ := first
    · exact faces
    · have first : downloadsFirst later.procChain = true := first
      have late : downloadsFirst (procType :: rest) = false := by
        cases procType <;> first | rfl | cases reads
      rw [chain, late] at first
      cases first
  have present : later.kafkaData.capture.person.faces ≠ [] := by
    intro none
    have sameClass : later.kafkaData.dataClass = session.kafkaData.dataClass := sameClass
    rw [BaseData.getUrlCount, BaseData.captureFaces] at count
    rw [← sameClass] at isCapture
    cases isClass : later.kafkaData.dataClass with
    | capture | xiashunCapture => simp [isClass, none] at count
    | business | screenshot | xiashunBusiness => rw [isClass] at isCapture; cases isCapture
  refine ⟨present, ?_⟩
  apply ((switchFaceSet_fills { later with procChain := rest }).mono fun _ _ => trivial).weaken
  intro result same
  have sameData : result.2.kafkaData = later.kafkaData := congrArg (fun session => session.unfilled.kafkaData) same
  rw [sameData]
  exact present

/-- The images are downloaded, the trace space answers, nobody waits, and no url is generated. -/
def momentsToOutput : List Moment :=
  downloadMoments [some ⟨"200 OK", "x"⟩, some ⟨"200 OK", "y"⟩] ++
    [⟨fun _ => FlowCall.succeed, some ⟨"200 OK", personAnswer⟩⟩, ⟨fun _ => FlowCall.succeed, none⟩,
      ⟨fun _ => FlowCall.succeed, none⟩, ⟨fun _ => FlowCall.succeed, some ⟨"200 OK", ""⟩⟩]

set_option maxRecDepth 4000 in
theorem faces_present_output :
    ∃ course later, (courseMachine facesEnv (.make facesEnv 0 facesData)).run
        (courseMachine facesEnv (.make facesEnv 0 facesData)).start momentsToOutput = some course ∧
      course.pending = .queued later ∧ later.procChain = [.outputKafka] ∧
      later.kafkaData.capture.person.faces ≠ [] :=
  ⟨_, _, rfl, rfl, rfl, (faces_present facesEnv _ faces_created rfl momentsToOutput _ rfl _ .outputKafka [] rfl rfl
    rfl).1⟩

end XBusiness
