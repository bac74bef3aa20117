import XBusiness.Workflow.Ownership
import XBusiness.Workflow.Poison

/-! # The rectangle of a face

The parsers keep the elements of `pibx` and `fcbx` that are ints, however many these are, and
`getFaceRectByOrder` uses two of the first and four of the second where both have some.

* `parseMessage_boxes` — the boxes of an accepted message are those of its faces.
* `face_rect_translated` — exactly the faces for which the rectangle is computed.
* `face_rect_undefined` — a face box of three ints.
-/

namespace XBusiness

open Interaction

/-! ## Boxes and rectangles -/

/-- The elements that the two corners of the picture box and the four of the face box are. -/
inductive Corners : List Int → List Int → Int → Int → Int → Int → Prop where
  | translated (originX originY left top right bottom : Int) (morePic moreFace : List Int) :
      Corners (originX :: originY :: morePic) (left :: top :: right :: bottom :: moreFace)
        (left - originX) (top - originY) (right - originX) (bottom - originY)

/-- The text of a rectangle. -/
def rectText (left top right bottom : Int) : String :=
  toString left ++ "," ++ toString top ++ "," ++ toString right ++ "," ++ toString bottom

/-- Empty, or the face box less the first corner of the picture box. -/
def RectOf (picBox faceBox : List Int) (rect : String) : Prop :=
  rect = "" ∨ ∃ left top right bottom, Corners picBox faceBox left top right bottom ∧
    rect = rectText left top right bottom

/-- One of the boxes is empty, or all corners are there and the differences are ints. -/
def BoxesFit (picBox faceBox : List Int) : Prop :=
  faceBox = [] ∨ picBox = [] ∨ ∃ left top right bottom, Corners picBox faceBox left top right bottom ∧
    InInt32 left ∧ InInt32 top ∧ InInt32 right ∧ InInt32 bottom

section Corner

variable {face : CaptureFace} {corner origin : Nat}

theorem rectCorner_eq {left right : Int} (foundLeft : face.faceBox[corner]? = some left)
    (foundRight : face.picBox[origin]? = some right) :
    BaseData.rectCorner face corner origin = (checkInt (left - right)).map toString := by
  rw [BaseData.rectCorner, foundLeft, foundRight]

/-- A corner that is computed has both elements, and their difference is an int. -/
theorem rectCorner_ok {text : String} (computed : BaseData.rectCorner face corner origin = .ok text) :
    ∃ left right, face.faceBox[corner]? = some left ∧ face.picBox[origin]? = some right ∧
      InInt32 (left - right) ∧ text = toString (left - right) := by
  cases foundLeft : face.faceBox[corner]? with
  | none =>
    rw [BaseData.rectCorner, foundLeft] at computed
    cases computed
  | some left =>
    cases foundRight : face.picBox[origin]? with
    | none =>
      rw [BaseData.rectCorner, foundLeft, foundRight] at computed
      cases computed
    | some right =>
      rw [rectCorner_eq foundLeft foundRight, checkInt] at computed
      by_cases fits : InInt32 (left - right)
      · rw [if_pos fits] at computed
        cases computed
        exact ⟨left, right, rfl, rfl, fits, rfl⟩
      · rw [if_neg fits] at computed
        cases computed

end Corner

/-- The elements that are found are the heads of the boxes. -/
theorem corners_of_found {picBox faceBox : List Int} {originX originY left top right bottom : Int}
    (foundX : picBox[0]? = some originX) (foundY : picBox[1]? = some originY)
    (foundLeft : faceBox[0]? = some left) (foundTop : faceBox[1]? = some top)
    (foundRight : faceBox[2]? = some right) (foundBottom : faceBox[3]? = some bottom) :
    Corners picBox faceBox (left - originX) (top - originY) (right - originX) (bottom - originY) := by
  obtain _ | ⟨_, _ | ⟨_, morePic⟩⟩ := picBox
  · cases foundX
  · cases foundY
  · obtain _ | ⟨_, _ | ⟨_, _ | ⟨_, _ | ⟨_, moreFace⟩⟩⟩⟩ := faceBox
    · cases foundLeft
    · cases foundTop
    · cases foundRight
    · cases foundBottom
    · cases foundX
      cases foundY
      cases foundLeft
      cases foundTop
      cases foundRight
      cases foundBottom
      exact .translated ..

/-- The corners are computed where the differences are ints. -/
theorem rectCorner_of_corners {face : CaptureFace} {left top right bottom : Int}
    (corners : Corners face.picBox face.faceBox left top right bottom) :
    (InInt32 left → BaseData.rectCorner face 0 0 = .ok (toString left)) ∧
      (InInt32 top → BaseData.rectCorner face 1 1 = .ok (toString top)) ∧
      (InInt32 right → BaseData.rectCorner face 2 0 = .ok (toString right)) ∧
      (InInt32 bottom → BaseData.rectCorner face 3 1 = .ok (toString bottom)) := by
  have computed : ∀ {corner origin : Nat} {left right : Int}, face.faceBox[corner]? = some left →
      face.picBox[origin]? = some right → InInt32 (left - right) →
        BaseData.rectCorner face corner origin = .ok (toString (left - right)) := by
    intro corner origin left right foundLeft foundRight fits
    rw [rectCorner_eq foundLeft foundRight, checkInt, if_pos fits]
    rfl
  obtain ⟨picBox, faceBox⟩ := face
  cases corners
  exact ⟨computed rfl rfl, computed rfl rfl, computed rfl rfl, computed rfl rfl⟩

/-- The rectangle of a face is computed exactly where its boxes fit, and then it is the face box
    translated by the picture box; where there is no face it is the empty text. -/
theorem getFaceRectByOrder_returns (self : BaseData) (faceNum : Nat) :
    (∃ rect, self.getFaceRectByOrder faceNum = .ok rect ∧ (self.captureFaces[faceNum]? = none → rect = "") ∧
        ∀ face, self.captureFaces[faceNum]? = some face → RectOf face.picBox face.faceBox rect) ↔
      ∀ face, self.captureFaces[faceNum]? = some face → BoxesFit face.picBox face.faceBox := by
  cases found : self.captureFaces[faceNum]? with
  | none =>
    apply iff_of_true
    · refine ⟨"", ?_, fun _ => rfl, fun face none => nomatch none⟩
      rw [BaseData.getFaceRectByOrder, found]
    · exact fun face none => nomatch none
  | some face =>
    rw [BaseData.getFaceRectByOrder, found]
    simp only [Option.some.injEq, forall_eq', reduceCtorEq, false_implies, true_and]
    by_cases boxes : face.faceBox ≠ [] ∧ face.picBox ≠ []
    · rw [if_pos boxes]
      constructor
      · -- all four sums were computed, each within its bounds
        rintro ⟨rect, computed, -⟩
        obtain ⟨_, leftOk, computed⟩ := bind_eq_ok.mp computed
        obtain ⟨_, topOk, computed⟩ := bind_eq_ok.mp computed
        obtain ⟨_, rightOk, computed⟩ := bind_eq_ok.mp computed
        obtain ⟨_, bottomOk, -⟩ := bind_eq_ok.mp computed
        obtain ⟨left, originX, foundLeft, foundX, leftFits, -⟩ := rectCorner_ok leftOk
        obtain ⟨top, originY, foundTop, foundY, topFits, -⟩ := rectCorner_ok topOk
        obtain ⟨right, otherX, foundRight, again, rightFits, -⟩ := rectCorner_ok rightOk
        rw [foundX] at again
        cases again
        obtain ⟨bottom, otherY, foundBottom, again, bottomFits, -⟩ := rectCorner_ok bottomOk
        rw [foundY] at again
        cases again
        have corners := corners_of_found foundX foundY foundLeft foundTop foundRight foundBottom
        exact .inr (.inr ⟨_, _, _, _, corners, leftFits, topFits, rightFits, bottomFits⟩)
      · intro fit
        obtain faceBox | picBox | ⟨left, top, right, bottom, corners, leftFits, topFits, rightFits, bottomFits⟩ :=
          fit
        · exact absurd faceBox boxes.1
        · exact absurd picBox boxes.2
        · refine ⟨rectText left top right bottom, ?_, .inr ⟨left, top, right, bottom, corners, rfl⟩⟩
          obtain ⟨leftOk, topOk, rightOk, bottomOk⟩ := rectCorner_of_corners corners
          rw [leftOk leftFits, topOk topFits, rightOk rightFits, bottomOk bottomFits]
          rfl
    · -- an empty box gives the empty text
      rw [if_neg boxes]
      apply iff_of_true ⟨"", rfl, .inl rfl⟩
      by_cases faceBox : face.faceBox = []
      · exact .inl faceBox
      · exact .inr (.inl (by simpa [faceBox] using boxes))

/-! ## The boxes of a message -/

/-- The ints of a member that is an array. -/
def boxOf (face : Json) (name : String) : List Int := (elementsOf face name).filterMap Json.int?

/-- The picture box and the face box. -/
def boxesOf (face : Json) : List Int × List Int := (boxOf face "pibx", boxOf face "fcbx")

def CaptureFace.boxes (face : CaptureFace) : List Int × List Int := (face.picBox, face.faceBox)

/-- The elements of `capture_uris` or of `face`. -/
def facesOf (dataClass : DataClass) (payloadJv : Json) : List Json :=
  match dataClass with
  | .business =>
    (((payloadJv.find? "event").bind Json.object?).map fun eventJv => elementsOf eventJv "capture_uris").getD []
  | .capture | .xiashunCapture =>
    ((((payloadJv.find? "capture").bind Json.object?).bind fun captureJv =>
      (captureJv.find? "pesn").bind Json.object?).map fun pesnJv => elementsOf pesnJv "face").getD []
  | .screenshot | .xiashunBusiness => []

/-- The faces in the documents of a message. -/
def messageFaces (env : Env) (payload : String) : List Json :=
  (do
    let totalJv ← env.text.parseJson payload
    let dataJv ← dataOf env totalJv
    let payloadType ← (dataJv.find? "ptype").bind Json.int?
    let dataClass ← classOf payloadType
    let payloadJv ← documentOf env dataJv "payload"
    return facesOf dataClass payloadJv).getD []

theorem readBox_eq {face : Json} (has : face.hasMembers = true) (name : String) :
    readBox face name = .ok (boxOf face name) := by
  rw [readBox, Json.memberD_eq has]
  rfl

theorem parseFace_boxes (face : Json) :
    Returns (fun read => read.toCaptureFace.boxes = boxesOf face) (parseFace face) := by
  intro read ran
  cases has : face.hasMembers with
  | false =>
    rw [parseFace, Json.memberD_error has] at ran
    cases ran
  | true =>
    simp only [parseFace, Json.memberD_eq has, Json.member?_eq has, readBox_eq has, ok_bind] at ran
    cases ran
    rfl

theorem parseCaptureFace_boxes (face : Json) :
    Returns (fun read => read.boxes = boxesOf face) (parseCaptureFace face) := by
  intro read ran
  cases face with
  | object members =>
    have has : (Json.object members).hasMembers = true := rfl
    simp only [parseCaptureFace, Json.memberD_eq has, readBox_eq has, ok_bind] at ran
    cases ran
    rfl
  | _ => cases ran; rfl

/-- What is read of each element is read of all. -/
theorem returns_mapM {α β γ : Type} {read : α → Except Fault β} {project : β → γ} {value : α → γ}
    (reads : ∀ element, Returns (fun result => project result = value element) (read element))
    (elements : List α) :
    Returns (fun results => results.map project = elements.map value) (elements.mapM read) := by
  induction elements with
  | nil =>
    rintro _ ⟨⟩
    rfl
  | cons element rest inductionHypothesis =>
    rw [List.mapM_cons]
    refine Returns.bind_of (reads element) fun result same => ?_
    refine Returns.bind_of inductionHypothesis fun results sameRest => ?_
    apply Returns.pure
    rw [List.map_cons, List.map_cons, same, sameRest]

theorem readCaptureUris_boxes {event : EventInfo} (faceless : event.captureUris = []) {eventJv : Json}
    (has : eventJv.hasMembers = true) :
    Returns (fun uris => uris.map CaptureFace.boxes = (elementsOf eventJv "capture_uris").map boxesOf)
      (readCaptureUris event eventJv) := by
  unfold readCaptureUris elementsOf
  simp only [Json.member?_eq has, ok_bind]
  cases (eventJv.find? "capture_uris").bind Json.array? with
  | none =>
    apply Returns.pure
    rw [faceless]
    rfl
  | some faces => exact returns_mapM parseCaptureFace_boxes faces

theorem parsePerson_boxes {person : Person} (faceless : person.faces = []) {pesnJv : Json}
    (has : pesnJv.hasMembers = true) :
    Returns (fun read => read.faces.map (fun face => face.toCaptureFace.boxes) =
        (elementsOf pesnJv "face").map boxesOf)
      (parsePerson person pesnJv) := by
  unfold parsePerson
  simp only [Json.memberD_eq has, ok_bind]
  refine Returns.bind_of (returns_mapM parseFace_boxes _) fun faces same => ?_
  apply Returns.pure
  rw [faceless, List.nil_append]
  exact same

/-- An object without faces, as the factory makes it. -/
def BaseData.Faceless (self : BaseData) : Prop := self.event.captureUris = [] ∧ self.capture.person.faces = []

section Payload

variable {self parsed : BaseData} {payloadJv : Json}

theorem parseBusinessEvent_boxes (faceless : self.Faceless) (isClass : self.dataClass = .business)
    (ran : parseBusinessEvent self payloadJv = .ok (some parsed)) (has : payloadJv.hasMembers = true) :
    parsed.captureFaces.map CaptureFace.boxes = (facesOf .business payloadJv).map boxesOf := by
  unfold parseBusinessEvent at ran
  simp only [Json.member?_eq has, ok_bind] at ran
  cases event : (payloadJv.find? "event").bind Json.object? with
  | none =>
    rw [event] at ran
    cases ran
  | some eventJv =>
    have has := Json.hasMembers_of_object event
    simp only [event, Json.memberD_eq has, Json.member?_eq has, ok_bind] at ran
    obtain ⟨datatype, -, ran⟩ := bind_eq_ok.mp ran
    obtain ⟨captureUris, read, ran⟩ := bind_eq_ok.mp ran
    cases ran
    simp only [BaseData.captureFaces, isClass, facesOf, event, Option.map_some, Option.getD_some]
    exact readCaptureUris_boxes faceless.1 has _ read

theorem parseCapture_boxes (faceless : self.Faceless)
    (isClass : self.dataClass = .capture ∨ self.dataClass = .xiashunCapture)
    (ran : parseCapture self payloadJv = .ok (some parsed)) (has : payloadJv.hasMembers = true) :
    parsed.captureFaces.map CaptureFace.boxes = (facesOf self.dataClass payloadJv).map boxesOf := by
  have faces : ∀ capture : CaptureInfo, ({ self with capture := capture } : BaseData).captureFaces =
      capture.person.faces.map Face.toCaptureFace := by
    intro capture
    rw [BaseData.captureFaces]
    obtain isClass | isClass := isClass
    · rw [isClass]
    · rw [isClass]
  -- the faces stand in `capture.pesn.face`
  have wanted : facesOf self.dataClass payloadJv =
      ((((payloadJv.find? "capture").bind Json.object?).bind fun captureJv =>
        (captureJv.find? "pesn").bind Json.object?).map fun pesnJv => elementsOf pesnJv "face").getD [] := by
    obtain isClass | isClass := isClass
    · rw [isClass, facesOf]
    · rw [isClass, facesOf]
  rw [wanted]
  unfold parseCapture at ran
  simp only [Json.member?_eq has, ok_bind] at ran
  cases capture : (payloadJv.find? "capture").bind Json.object? with
  | none =>
    rw [capture] at ran
    cases ran
  | some captureJv =>
    have has := Json.hasMembers_of_object capture
    simp only [capture, Json.memberD_eq has, Json.member?_eq has, ok_bind] at ran
    cases pesn : (captureJv.find? "pesn").bind Json.object? with
    | some pesnJv =>
      simp only [pesn] at ran
      obtain ⟨person, read, ran⟩ := bind_eq_ok.mp ran
      cases ran
      have same := parsePerson_boxes faceless.2 (Json.hasMembers_of_object pesn) person read
      rw [faces, List.map_map]
      simp only [Option.bind_some, pesn, Option.map_some, Option.getD_some]
      exact same
    | none =>
      simp only [pesn] at ran
      simp only [Option.bind_some, pesn, Option.map_none, Option.getD_none, List.map_nil, List.map_eq_nil_iff]
      -- a capture without a person has a background, and no faces
      cases bkgd : (captureJv.find? "bkgd").bind Json.object? with
      | some bkgdJv =>
        simp only [bkgd] at ran
        obtain ⟨background, -, ran⟩ := bind_eq_ok.mp ran
        cases ran
        rw [faces, faceless.2]
        rfl
      | none =>
        simp only [bkgd] at ran
        cases ran
        rw [faces, faceless.2]
        rfl

end Payload

/-- An object that `parse` returns is made by the part of the class, from the payload of the message. -/
theorem parseWith_payload {env : Env} {parsePayload : BaseData → Json → Except Fault (Option BaseData)}
    {self parsed : BaseData} {dataJv : Json} (has : self.totalJv.hasMembers = true)
    (found : dataOf env self.totalJv = some dataJv)
    (ran : parseWith env parsePayload self = .ok (some parsed)) :
    ∃ msgId ipc payloadJv, documentOf env dataJv "payload" = some payloadJv ∧ payloadJv.hasMembers = true ∧
      parsePayload { self with msgId := msgId, ipc := ipc } payloadJv = .ok (some parsed) := by
  have hasData := hasMembers_of_dataOf found
  unfold parseWith at ran
  simp only [readData_eq has, found, Json.memberD_eq has, Json.member?_eq hasData, ok_bind] at ran
  rw [documentOf]
  cases text : (dataJv.find? "payload").bind Json.string? with
  | none =>
    rw [text] at ran
    cases ran
  | some payload =>
    simp only [text] at ran
    cases document : env.text.parseJson payload with
    | none =>
      rw [document] at ran
      cases ran
    | some payloadJv =>
      simp only [document] at ran
      obtain ⟨ipc, -, ran⟩ := bind_eq_ok.mp ran
      cases ipc with
      | none => cases ran
      | some ipc =>
        exact ⟨_, ipc, payloadJv, document, JsonText.hasMembers_of_parseJson document, ran⟩

theorem parse_boxes {env : Env} {self parsed : BaseData} {dataJv : Json}
    (has : self.totalJv.hasMembers = true) (found : dataOf env self.totalJv = some dataJv)
    (faceless : self.Faceless) (ran : self.parse env = .ok (some parsed)) :
    parsed.captureFaces.map CaptureFace.boxes =
      (((documentOf env dataJv "payload").map (facesOf self.dataClass)).getD []).map boxesOf := by
  have sameClass : parsed.dataClass = self.dataClass :=
    congrArg Prod.fst (parse_origin env self _ ran parsed rfl)
  cases isClass : self.dataClass with
  | business =>
    simp only [BaseData.parse, isClass] at ran
    obtain ⟨msgId, ipc, payloadJv, document, hasPayload, ran⟩ := parseWith_payload has found ran
    have faceless : ({ self with msgId := msgId, ipc := ipc } : BaseData).Faceless := faceless
    rw [document]
    exact parseBusinessEvent_boxes faceless isClass ran hasPayload
  | capture =>
    simp only [BaseData.parse, isClass] at ran
    -- what comes behind the parts of the capture does not change its faces
    obtain ⟨read, parses, ran⟩ := bind_eq_ok.mp ran
    cases read with
    | none => cases ran
    | some read =>
      cases ran
      obtain ⟨msgId, ipc, payloadJv, document, hasPayload, parses⟩ := parseWith_payload has found parses
      have faceless : ({ self with msgId := msgId, ipc := ipc } : BaseData).Faceless := faceless
      have boxes := parseCapture_boxes faceless (.inl isClass) parses hasPayload
      rw [document, ← isClass]
      exact boxes
  | xiashunCapture =>
    simp only [BaseData.parse, isClass] at ran
    obtain ⟨msgId, ipc, payloadJv, document, hasPayload, ran⟩ := parseWith_payload has found ran
    have faceless : ({ self with msgId := msgId, ipc := ipc } : BaseData).Faceless := faceless
    have boxes := parseCapture_boxes faceless (.inr isClass) ran hasPayload
    rw [document, ← isClass]
    exact boxes
  | screenshot | xiashunBusiness =>
    rw [BaseData.captureFaces, sameClass, isClass]
    cases documentOf env dataJv "payload" <;> rfl

/-- An accepted message carries the boxes of its faces. -/
theorem parseMessage_boxes {env : Env} {data : Option PmPtr} {payload : String} {parsed : BaseData}
    (accepted : parseMessage env data payload = .ok (some parsed)) :
    parsed.captureFaces.map CaptureFace.boxes = (messageFaces env payload).map boxesOf := by
  obtain ⟨totalJv, dataJv, payloadType, dataClass, read, found, type, isClass, accepted⟩ :=
    parseMessage_reads accepted
  have has : (BaseData.make env dataClass payloadType totalJv data).totalJv.hasMembers = true :=
    JsonText.hasMembers_of_parseJson read
  rw [parse_boxes has found ⟨rfl, rfl⟩ accepted, messageFaces]
  simp only [read, found, type, isClass, Option.bind_eq_bind, Option.bind_some]
  cases documentOf env dataJv "payload" <;> rfl

/-! ## Main result -/

/-- For every accepted message and every number: `getFaceRectByOrder` reads elements that are there, computes
    differences that are ints and returns the empty text or the translated face box, exactly where the boxes
    of the face in the message fit.  Where the message has no face of the number, the text is empty. -/
theorem face_rect_translated (env : Env) (data : Option PmPtr) (payload : String) (parsed : BaseData)
    (accepted : parseMessage env data payload = .ok (some parsed)) (faceNum : Nat) :
    (∃ rect, parsed.getFaceRectByOrder faceNum = .ok rect ∧
        ((messageFaces env payload)[faceNum]? = none → rect = "") ∧
        ∀ face, (messageFaces env payload)[faceNum]? = some face →
          RectOf (boxOf face "pibx") (boxOf face "fcbx") rect) ↔
      ∀ face, (messageFaces env payload)[faceNum]? = some face →
        BoxesFit (boxOf face "pibx") (boxOf face "fcbx") := by
  have boxes := congrArg (fun boxes => boxes[faceNum]?) (parseMessage_boxes accepted)
  simp only [List.getElem?_map] at boxes
  -- the face of the object and the face of the message have the same boxes
  have same : ∀ property : List Int → List Int → Prop,
      (∀ face, (messageFaces env payload)[faceNum]? = some face →
          property (boxOf face "pibx") (boxOf face "fcbx")) ↔
        ∀ face, parsed.captureFaces[faceNum]? = some face → property face.picBox face.faceBox := by
    intro property
    cases read : (messageFaces env payload)[faceNum]? with
    | none =>
      rw [read, Option.map_none, Option.map_eq_none_iff] at boxes
      simp [boxes]
    | some face =>
      rw [read, Option.map_some, Option.map_eq_some_iff] at boxes
      obtain ⟨kept, found, sameBoxes⟩ := boxes
      obtain ⟨samePic, sameFace⟩ := Prod.mk.inj sameBoxes
      simp [found, samePic, sameFace]
  have missing : (messageFaces env payload)[faceNum]? = none ↔ parsed.captureFaces[faceNum]? = none := by
    rw [← Option.map_eq_none_iff (f := boxesOf), ← boxes, Option.map_eq_none_iff]
  rw [same BoxesFit, ← getFaceRectByOrder_returns parsed faceNum, missing]
  refine exists_congr fun rect => and_congr_right fun _ => and_congr_right fun _ => ?_
  exact same fun picBox faceBox => RectOf picBox faceBox rect

/-- A trace message whose face has this face box. -/
def rectMessage (faceBox : String) : String :=
  "\x7b\"data\":\x7b\"app_id\":\"a\",\"did\":\"d\",\"payload\":\"\x7b\\\"capture\\\":\x7b\\\"pesn\\\":\x7b\\\"face\\\":[\x7b\\\"fcbx\\\":["
    ++ faceBox ++ "],\\\"pibx\\\":[5,6]\x7d]\x7d\x7d\x7d\",\"ptype\":8\x7d\x7d"

def rectPayload (faceBox : String) : String :=
  "\x7b\"capture\":\x7b\"pesn\":\x7b\"face\":[\x7b\"fcbx\":[" ++ faceBox ++ "],\"pibx\":[5,6]\x7d]\x7d\x7d\x7d"

def rectEnv (faceBox : String) (values : List Json) : Env where
  text := tableText
    [(rectMessage faceBox, .object [("data", .object [("app_id", .string "a"), ("did", .string "d"),
        ("payload", .string (rectPayload faceBox)), ("ptype", .int 8)])]),
      (rectPayload faceBox, .object [("capture", .object [("pesn", .object [("face",
        .array [.object [("fcbx", .array values), ("pibx", .array [.int 5, .int 6])]])])])])]
  conf := { getValue := fun _ _ => none, getIntValue := fun _ _ => none }
  uninit := { timestamp := 0, similar := 0 }

def rectNode (faceBox : String) : PmPtr := ⟨0, 0, ⟨"gzc", 0, 0, rectMessage faceBox⟩⟩

theorem face_rect_translated_box :
    ∃ env data parsed, parseMessage env (some data) data.msg.payload = .ok (some parsed) ∧
      ∃ rect, parsed.getFaceRectByOrder 0 = .ok rect ∧ rect = rectText 5 14 25 34 ∧
        ((messageFaces env data.msg.payload)[0]? = none → rect = "") ∧
        ∀ face, (messageFaces env data.msg.payload)[0]? = some face →
          RectOf (boxOf face "pibx") (boxOf face "fcbx") rect := by
  have accepted : ∃ parsed, parseMessage (rectEnv "10,20,30,40" [.int 10, .int 20, .int 30, .int 40])
      (some (rectNode "10,20,30,40")) (rectNode "10,20,30,40").msg.payload = .ok (some parsed) := ⟨_, rfl⟩
  obtain ⟨parsed, accepted⟩ := accepted
  obtain ⟨rect, computed, missing, translated⟩ := (face_rect_translated _ _ _ _ accepted 0).mpr (by
    rintro _ ⟨⟩
    exact .inr (.inr ⟨_, _, _, _, .translated 5 6 10 20 30 40 [] [], by decide⟩))
  refine ⟨_, _, parsed, accepted, rect, computed, ?_, missing, translated⟩
  cases accepted
  cases computed
  rfl

/-- The fourth element of a face box of three is read. -/
theorem face_rect_undefined :
    ∃ env data parsed, parseMessage env (some data) data.msg.payload = .ok (some parsed) ∧
      parsed.getFaceRectByOrder 0 = .error .undefined := by
  exact ⟨rectEnv "10,20,30" [.int 10, .int 20, .int 30], rectNode "10,20,30", _, rfl, rfl⟩

end XBusiness
