import XBusiness.Workflow.Modules

/-! # Reading a stored payload again

A payload that waits at a picture key is parsed a second time when it is released, then
without the node of Kafka it came with.  The parsers do not look at that node, nor at the time that
they find in the object they fill, so the data is the same but for these.  What they read of a
trace-space answer does not depend on the session either.

* `parse_relabel` — an object with another label parses to the data with that label.
* `parseMessage_fromRedis` — the second parse gives the data of the first one.
* `TraceAnswer.ReadFrom`, `parseTraceAnswer_readFrom` — what is read of an answer, whatever the session.
-/

namespace XBusiness

/-! ## Data with another label -/

/-- The data as `ParseData` makes it from the text alone. -/
def BaseData.fromRedis (self : BaseData) : BaseData := { self with src := .redis, data := none }

/-- Another origin of data, and what becomes of the time in it. -/
structure Label where
  src : Source
  data : Option PmPtr
  stamp : Int → Int

def BaseData.relabel (self : BaseData) (label : Label) : BaseData :=
  { self with
    src := label.src
    data := label.data
    ipc := { self.ipc with timestamp := label.stamp self.ipc.timestamp } }

/-- A parser that does not look at the label. -/
def Relabels (label : Label) (parser : BaseData → Except Fault (Option BaseData)) : Prop :=
  ∀ self, parser (self.relabel label) = Option.map (·.relabel label) <$> parser self

/-- A parser that does not look at where the data comes from. -/
def Unlinked (parser : BaseData → Except Fault (Option BaseData)) : Prop :=
  ∀ self, parser self.fromRedis = Option.map BaseData.fromRedis <$> parser self

section Parsers

variable {label : Label}

theorem parseBusinessEvent_relabels (payloadJv : Json) :
    Relabels label fun self => parseBusinessEvent self payloadJv := by
  intro self
  unfold parseBusinessEvent
  rw [map_bind]
  apply bind_congr
  intro eventJv
  cases eventJv with
  | none => rfl
  | some eventJv => simp only [map_bind, map_pure]; rfl

theorem parseCapture_relabels (payloadJv : Json) :
    Relabels label fun self => parseCapture self payloadJv := by
  intro self
  unfold parseCapture
  rw [map_bind]
  apply bind_congr
  intro captureJv
  cases captureJv with
  | none => rfl
  | some captureJv =>
    simp only [map_bind]
    apply bind_congr
    intro replay
    apply bind_congr
    intro pesnJv
    cases pesnJv with
    | some pesnJv => simp only [map_bind, map_pure]; rfl
    | none =>
      simp only [map_bind]
      apply bind_congr
      intro bkgdJv
      cases bkgdJv with
      | some bkgdJv => simp only [map_bind, map_pure]; rfl
      | none => rfl

theorem parseScrennshot_relabels (payloadJv : Json) :
    Relabels label fun self => parseScrennshot self payloadJv := by
  intro self
  unfold parseScrennshot
  rw [map_bind]
  apply bind_congr
  intro captureJv
  cases captureJv with
  | none => rfl
  | some captureJv =>
    simp only [map_bind]
    apply bind_congr
    intro replay
    apply bind_congr
    intro bkgdJv
    cases bkgdJv with
    | some bkgdJv => simp only [map_bind, map_pure]; rfl
    | none => rfl

theorem parseFlowEvent_relabels (payloadJv : Json) :
    Relabels label fun self => parseFlowEvent self payloadJv := by
  intro self
  unfold parseFlowEvent
  rw [map_bind]
  apply bind_congr
  intro eventJv
  cases eventJv with
  | none => rfl
  | some eventJv => simp only [map_bind, map_pure]; rfl

theorem parseTasks_relabels (tasksJv : Json) : Relabels label fun self => parseTasks self tasksJv := by
  intro self
  unfold parseTasks
  rw [map_bind]
  apply bind_congr
  intro tasks
  cases tasks with
  | none => rfl
  | some tasks => simp only [map_bind, map_pure]; rfl

/-- One parser after another. -/
theorem Relabels.andThen {first second : BaseData → Except Fault (Option BaseData)}
    (relabelsFirst : Relabels label first) (relabelsSecond : Relabels label second) :
    Relabels label fun self => (do
      match ← first self with
      | none => return none
      | some parsed => second parsed) := by
  intro self
  dsimp only
  rw [relabelsFirst self, map_bind, bind_map_left]
  apply bind_congr
  intro parsed
  cases parsed with
  | none => rfl
  | some parsed => exact relabelsSecond parsed

end Parsers

/-! ## The time of the device -/

/-- `tmst`. -/
def stampOf (dataJv : Json) : Option Int := (dataJv.find? "tmst").bind Json.int64?

/-- The message assigns `timestamp_`. -/
def stamped (env : Env) (totalJv : Json) : Bool :=
  match readData env totalJv with
  | .ok (some dataJv) => (stampOf dataJv).isSome
  | _ => false

/-- The label of what is read: a time of the message is the same under every label. -/
def Label.read (label : Label) (env : Env) (totalJv : Json) : Label :=
  if stamped env totalJv then { label with stamp := id } else label

theorem Label.read_eq {label : Label} {env : Env} {totalJv dataJv : Json}
    (found : readData env totalJv = .ok (some dataJv)) :
    label.read env totalJv = { label with stamp := (stampOf dataJv).elim label.stamp fun _ => id } := by
  rw [Label.read, stamped, found]
  dsimp only
  split
  · next isTime =>
    obtain ⟨time, found⟩ := Option.isSome_iff_exists.mp isTime
    rw [found]
    rfl
  · next noTime =>
    rw [Option.not_isSome_iff_eq_none.mp noTime]
    rfl

theorem parseIpcInfo_stamp (stamp : Int → Int) (ipc : IpcInfo) (dataJv : Json) :
    parseIpcInfo { ipc with timestamp := stamp ipc.timestamp } dataJv =
      Option.map (fun ipc =>
        { ipc with timestamp := (stampOf dataJv).elim stamp (fun _ => id) ipc.timestamp }) <$>
      parseIpcInfo ipc dataJv := by
  unfold parseIpcInfo
  cases has : dataJv.hasMembers with
  | false =>
    rw [Json.memberD_error has]
    rfl
  | true =>
    simp only [Json.memberD_eq has, Json.member?_eq has]
    rw [stampOf]
    cases (dataJv.find? "did").bind Json.string? with
    | none => rfl
    | some deviceId =>
      -- the rest depends on the time in no other place
      generalize (dataJv.find? "tmst").bind Json.int64? = tmst
      cases tmst <;>
        · show (if _ then _ else _) = Option.map _ <$> (if _ then _ else _)
          repeat' split
          all_goals rfl

theorem parseWith_relabel (env : Env) {parsePayload : BaseData → Json → Except Fault (Option BaseData)}
    (relabels : ∀ label payloadJv, Relabels label fun self => parsePayload self payloadJv) (label : Label)
    (self : BaseData) : parseWith env parsePayload (self.relabel label) =
      Option.map (·.relabel (label.read env self.totalJv)) <$> parseWith env parsePayload self := by
  have sameTotal : (self.relabel label).totalJv = self.totalJv := rfl
  unfold parseWith
  rw [sameTotal, map_bind]
  cases found : readData env self.totalJv with
  | error fault => rfl
  | ok dataJv =>
    cases dataJv with
    | none => rfl
    | some dataJv =>
      rw [Label.read_eq found]
      show (self.totalJv.memberD "msg_id" Json.string? self.msgId >>= _) =
        (Option.map _ <$> (self.totalJv.memberD "msg_id" Json.string? self.msgId >>= _))
      rw [map_bind]
      apply bind_congr
      intro msgId
      rw [map_bind]
      apply bind_congr
      intro payload
      cases payload with
      | none => rfl
      | some payload =>
        dsimp only
        cases env.text.parseJson payload with
        | none => rfl
        | some payloadJv =>
          -- the time is the one part of the label that the message may set
          have ipcs : parseIpcInfo (self.relabel label).ipc dataJv = _ :=
            parseIpcInfo_stamp label.stamp self.ipc dataJv
          dsimp only
          rw [ipcs, map_bind, bind_map_left]
          apply bind_congr
          intro ipc
          cases ipc with
          | none => rfl
          | some ipc =>
            exact relabels { label with stamp := (stampOf dataJv).elim label.stamp fun _ => id } payloadJv
              { self with msgId := msgId, ipc := ipc }

theorem parseScreenshoot_relabel (env : Env) (label : Label) (self : BaseData) :
    parseScreenshoot env (self.relabel label) =
      Option.map (·.relabel (label.read env self.totalJv)) <$> parseScreenshoot env self := by
  have sameTotal : (self.relabel label).totalJv = self.totalJv := rfl
  unfold parseScreenshoot
  rw [sameTotal, map_bind]
  cases found : readData env self.totalJv with
  | error fault => rfl
  | ok dataJv =>
    cases dataJv with
    | none => rfl
    | some dataJv =>
      rw [Label.read_eq found]
      show (self.totalJv.memberD "msg_id" Json.string? self.msgId >>= _) =
        (Option.map _ <$> (self.totalJv.memberD "msg_id" Json.string? self.msgId >>= _))
      rw [map_bind]
      apply bind_congr
      intro msgId
      rw [map_bind]
      apply bind_congr
      intro bid
      cases bid with
      | none => rfl
      | some bid =>
        dsimp only
        cases env.text.parseJson bid with
        | none => rfl
        | some tasksJv =>
          dsimp only
          rw [map_bind]
          apply bind_congr
          intro payload
          cases payload with
          | none => rfl
          | some payload =>
            dsimp only
            cases env.text.parseJson payload with
            | none => rfl
            | some payloadJv =>
              -- as in `parseWith`, behind the tasks of `bid`
              have ipcs : parseIpcInfo (self.relabel label).ipc dataJv = _ :=
                parseIpcInfo_stamp label.stamp self.ipc dataJv
              dsimp only
              rw [ipcs, map_bind, bind_map_left]
              apply bind_congr
              intro ipc
              cases ipc with
              | none => rfl
              | some ipc =>
                exact ((parseScrennshot_relabels payloadJv).andThen (parseTasks_relabels tasksJv) :
                  Relabels { label with stamp := (stampOf dataJv).elim label.stamp fun _ => id } _)
                  { self with msgId := msgId, payload := payload, ipc := ipc }

theorem parse_relabel (env : Env) (label : Label) (self : BaseData) :
    (self.relabel label).parse env =
      Option.map (·.relabel (label.read env self.totalJv)) <$> self.parse env := by
  have parsers : (self.relabel label).dataClass = self.dataClass := rfl
  unfold BaseData.parse
  rw [parsers]
  cases self.dataClass with
  | business => exact parseWith_relabel env (fun _ => parseBusinessEvent_relabels) label self
  | capture =>
    show parseCaptureData env _ = _ <$> parseCaptureData env _
    unfold parseCaptureData
    rw [parseWith_relabel env (fun _ => parseCapture_relabels), map_bind, bind_map_left]
    apply bind_congr
    intro parsed
    cases parsed <;> rfl
  | screenshot => exact parseScreenshoot_relabel env label self
  | xiashunBusiness => exact parseWith_relabel env (fun _ => parseFlowEvent_relabels) label self
  | xiashunCapture => exact parseWith_relabel env (fun _ => parseCapture_relabels) label self

theorem parse_unlinked (env : Env) : Unlinked fun self => self.parse env := by
  intro self
  have relabelled := parse_relabel env ⟨.redis, none, id⟩ self
  have unread : (⟨.redis, none, id⟩ : Label).read env self.totalJv = ⟨.redis, none, id⟩ := by
    rw [Label.read]
    split <;> rfl
  rwa [unread] at relabelled

/-! ## The message without its node -/

theorem parseData_fromRedis (env : Env) (data : Option PmPtr) (payload : String) :
    parseData env none payload = Option.map BaseData.fromRedis <$> parseData env data payload := by
  unfold parseData
  cases env.text.parseJson payload with
  | none => rfl
  | some totalJv =>
    simp only [map_bind]
    apply bind_congr
    intro dataJv
    cases dataJv with
    | none => rfl
    | some dataJv =>
      simp only [map_bind]
      apply bind_congr
      intro payloadType
      cases payloadType with
      | none => rfl
      | some payloadType =>
        dsimp only
        -- one case for each class
        repeat' split
        all_goals rfl

/-- The text of a message gives the same data again, but without the node of the message. -/
theorem parseMessage_fromRedis (env : Env) (data : Option PmPtr) (payload : String) :
    parseMessage env none payload = Option.map BaseData.fromRedis <$> parseMessage env data payload := by
  unfold parseMessage
  rw [parseData_fromRedis env data payload, map_bind, bind_map_left]
  apply bind_congr
  intro made
  cases made with
  | none => rfl
  | some made => exact parse_unlinked env made

/-! ## The answer of the trace-space service -/

/-- Whether the computation throws does not depend on its argument. -/
def Uniform {γ α : Type} (computation : γ → Except Fault α) : Prop :=
  (∃ update : γ → α, ∀ given, computation given = .ok (update given)) ∨
    ∃ fault, ∀ given, computation given = .error fault

section Uniform

variable {γ α β : Type}

theorem Uniform.pure (update : γ → α) :
    Uniform fun given => (Pure.pure (update given) : Except Fault α) := .inl ⟨update, fun _ => rfl⟩

/-- Sequencing: what comes second may use what the first part gives, uniformly in it. -/
theorem Uniform.bind {first : γ → Except Fault β} {second : β → γ → Except Fault α}
    (uniformFirst : Uniform first) (uniformSecond : Uniform fun pair : β × γ => second pair.1 pair.2) :
    Uniform fun given => first given >>= fun value => second value given := by
  obtain ⟨update, ran⟩ | ⟨fault, raised⟩ := uniformFirst
  · obtain ⟨updateRest, ranRest⟩ | ⟨fault, raised⟩ := uniformSecond
    · refine .inl ⟨fun given => updateRest (update given, given), fun given => ?_⟩
      dsimp only
      rw [ran]
      exact ranRest (update given, given)
    · refine .inr ⟨fault, fun given => ?_⟩
      dsimp only
      rw [ran]
      exact raised (update given, given)
  · refine .inr ⟨fault, fun given => ?_⟩
    dsimp only
    rw [raised]
    rfl

/-- The same where the first part does not look at the argument: the second need only be uniform
    for what that one gives. -/
theorem Uniform.bind_const {first : Except Fault β} {second : β → γ → Except Fault α}
    (uniform : ∀ value, Uniform (second value)) :
    Uniform fun given => first >>= fun value => second value given := by
  cases first with
  | error fault => exact .inr ⟨fault, fun _ => rfl⟩
  | ok value => exact uniform value

theorem uniform_memberD (json : Json) (name : String) (read : Json → Option α) (kept : γ → α) :
    Uniform fun given => json.memberD name read (kept given) :=
  .bind_const fun found => .pure fun given => found.getD (kept given)

end Uniform

theorem parseTrack_uniform (track : Json) : Uniform (parseTrack track) := by
  apply Uniform.bind (uniform_memberD _ _ _ _)
  apply Uniform.bind (uniform_memberD _ _ _ _)
  apply Uniform.bind (uniform_memberD _ _ _ _)
  exact .pure _

theorem parsePersonResult_uniform (person : Json) : Uniform (parsePersonResult person) := by
  iterate 7 apply Uniform.bind (uniform_memberD _ _ _ _)
  apply Uniform.bind_const
  intro attributeJvs
  apply Uniform.bind_const
  intro attributes
  exact .pure _

/-- What an answer says, to every session alike: its error code, and what it makes of the
    results that a session has. -/
structure TraceAnswer where
  code : Int
  track : TrackResult → TrackResult
  person : PersonResult → PersonResult

/-- The session that was given the answer. -/
def TraceAnswer.giveTo (answer : TraceAnswer) (session : Session) : Session :=
  { session with
    trackResult := answer.track session.trackResult
    personResult := answer.person session.personResult }

/-- `error_code` of a body. -/
def errorCode (env : Env) (body : String) : Option Int :=
  match env.text.parseJson body with
  | none => none
  | some bodyJv =>
    match bodyJv.member? "error_code" Json.int? with
    | .ok code => code
    | .error _ => none

/-- A reading of the body with any codes let through, in any session, finds the answer. -/
def TraceAnswer.ReadFrom (answer : TraceAnswer) (env : Env) (body : String) : Prop :=
  ∀ accepts session, (parseTraceAnswer env accepts body).run session =
    .ok (if accepts answer.code then (true, answer.giveTo session) else (false, session))

theorem lift_ok_bind {α β : Type} (value : α) (continuation : α → SessionFn β) :
    ((liftM (Except.ok value : Except Fault α) : SessionFn α) >>= continuation) = continuation value :=
  rfl

theorem run_get_bind {α : Type} (continuation : Session → SessionFn α) (session : Session) :
    (get >>= continuation : SessionFn α).run session = (continuation session).run session := rfl

theorem run_modify_bind {α : Type} (change : Session → Session) (continuation : PUnit → SessionFn α)
    (session : Session) :
    (modify change >>= continuation : SessionFn α).run session = (continuation ⟨⟩).run (change session) :=
  rfl

/-- A function that returned has read what it needed first. -/
theorem lift_bind_ok {α β : Type} {value : Except Fault α} {continuation : α → SessionFn β}
    {session : Session} {result : β × Session}
    (ran : (liftM value >>= continuation : SessionFn β).run session = .ok result) :
    ∃ read, value = .ok read ∧ (continuation read).run session = .ok result := by
  cases value with
  | error fault => cases ran
  | ok read => exact ⟨read, rfl, ran⟩

/-- An answer that was read with success says the same to every session. -/
theorem parseTraceAnswer_readFrom {env : Env} {accepts : Int → Bool} {body : String}
    {before after : Session}
    (ran : (parseTraceAnswer env accepts body).run before = .ok (true, after)) :
    ∃ answer : TraceAnswer, accepts answer.code = true ∧ errorCode env body = some answer.code ∧
      answer.ReadFrom env body := by
  unfold parseTraceAnswer at ran
  cases parsed : env.text.parseJson body with
  | none => rw [parsed] at ran; cases ran
  | some bodyJv =>
    rw [parsed] at ran
    obtain ⟨_ | code, codeRead, ran⟩ := lift_bind_ok ran
    · cases ran
    by_cases accepted : accepts code = true
    · simp only [accepted, if_true] at ran
      obtain ⟨_ | result, resultRead, ran⟩ := lift_bind_ok ran
      · cases ran
      obtain ⟨_ | track, trackRead, ran⟩ := lift_bind_ok ran
      · cases ran
      dsimp only at ran
      rw [run_get_bind] at ran
      obtain ⟨trackResult, trackParsed, ran⟩ := lift_bind_ok ran
      rw [run_modify_bind] at ran
      obtain ⟨_ | person, personRead, ran⟩ := lift_bind_ok ran
      · cases ran
      dsimp only at ran
      rw [run_get_bind] at ran
      obtain ⟨personResult, personParsed, -⟩ := lift_bind_ok ran
      -- neither parser throws here, so neither does in another session
      obtain ⟨updateTrack, trackUpdated⟩ | ⟨fault, raised⟩ := parseTrack_uniform track
      · obtain ⟨updatePerson, personUpdated⟩ | ⟨fault, raised⟩ := parsePersonResult_uniform person
        · refine ⟨⟨code, updateTrack, updatePerson⟩, accepted, by simp [errorCode, parsed, codeRead],
            fun other session => ?_⟩
          unfold parseTraceAnswer
          simp only [parsed, codeRead, resultRead, trackRead, personRead, trackUpdated, personUpdated,
            lift_ok_bind]
          by_cases accepted : other code = true
          · rw [if_pos accepted, if_pos accepted]
            rfl
          · rw [if_neg accepted, if_neg accepted]
            rfl
        · rw [raised] at personParsed
          cases personParsed
      · rw [raised] at trackParsed
        cases trackParsed
    · simp only [accepted] at ran
      cases ran

/-- A response for the trace space that is accepted is read and stored. -/
theorem procTraceSpaceResponse_accepted {env : Env} {response : HttpResponse} {session after : Session}
    (ran : (procTraceSpaceResponse env response).run session = .ok (true, after)) :
    ∃ read, (parseTraceAnswer env (fun code => code = 0 || code = -10041) response.content).run session =
        .ok (true, read) ∧ after = { read with traceSpaceResult := response.content } := by
  unfold procTraceSpaceResponse at ran
  by_cases status : containsText "200" response.statusCode = true
  · rw [if_pos status, StateT.run_bind] at ran
    cases answered :
        (parseTraceAnswer env (fun code => code = 0 || code = -10041) response.content).run session with
    | error fault => rw [answered] at ran; cases ran
    | ok result =>
      obtain ⟨accepted, read⟩ := result
      rw [answered] at ran
      cases accepted with
      | false => cases ran
      | true =>
        cases ran
        exact ⟨read, rfl, rfl⟩
  · rw [if_neg status] at ran
    cases ran

end XBusiness
