import Mathlib.Data.List.Pairwise
import XBusiness.Lib.Machine
import XBusiness.Lib.StateProg
import XBusiness.Lib.Threads
import XBusiness.Workflow.Modules

/-! # The `user_event` documents

Sessions run `saveBusinessMongo` against a store that maps the key of a document to the
document.  `find_one` and `update_one` are single steps, everything else is between them.
The store is a parameter in one point only: what `$set` makes of a document (`MongoSet`).

* `MongoSet.lookup_of_mem` / `MongoSet.eq_holds_of_applied` — what an update makes of a
  field that it sets, and of one that it does not set to a value.
* `userEventMachine` — sessions that save concurrently.
-/

namespace XBusiness

open Interaction

/-! ## Documents and filters -/

namespace Bson

/-- The number that a value stands for in a comparison. -/
def number? : Bson → Option Rat
  | int32 value => some value
  | int64 value => some value
  | double value => some value
  | _ => none

/-- Equality of a field with the scalar of a filter; numbers compare by value.  (Mongo would
    search a stored array for the value, but no field that is filtered on holds one.) -/
def sameValue (stored value : Bson) : Bool :=
  match stored.number?, value.number? with
  | some left, some right => left = right
  | _, _ =>
    match stored, value with
    | utf8 left, utf8 right => left = right
    | _, _ => false

def isComposite : Bson → Bool
  | array _ => true
  | document _ => true
  | _ => false

theorem sameValue_composite {stored : Bson} (composite : stored.isComposite = true) (value : Bson) :
    stored.sameValue value = false := by
  cases stored <;> simp_all [isComposite, sameValue, number?]

end Bson

/-- A missing field equals nothing, and so satisfies every `$ne`. -/
def Condition.holds (stored : Option Bson) : Condition → Bool
  | .eq value => stored.any (·.sameValue value)
  | .ne value => !stored.any (·.sameValue value)

def Filter.holds (filter : Filter) (view : Document) : Bool :=
  filter.all fun (name, condition) => condition.holds (view.lookup name)

/-- The first segment of a field path. -/
def pathHead (path : String) : String := String.ofList (path.toList.takeWhile (· ≠ '.'))

/-- Two fields of one `$set` that the server does not reject together. -/
def Apart (first second : String × Bson) : Prop :=
  first.1 ≠ pathHead second.1 ∧ second.1 ≠ pathHead first.1

instance : Std.Symm Apart := ⟨fun _ _ apart => ⟨apart.2, apart.1⟩⟩

instance (first second : String × Bson) : Decidable (Apart first second) :=
  inferInstanceAs (Decidable (_ ∧ _))

/-- `$set` on a document, or nothing where the server rejects the update.  A field of the
    result is untouched, or has the value it is set to, or is a composite value with a field
    set inside it; a field is not set twice, nor together with a field inside it. -/
structure MongoSet where
  apply : Document → Document → Option Document
  result : ∀ {view fields after : Document}, apply view fields = some after → ∀ name,
    ((∀ field ∈ fields, pathHead field.1 ≠ name) ∧ after.lookup name = view.lookup name) ∨
    (∃ value, (name, value) ∈ fields ∧ after.lookup name = some value) ∨
    ((∃ field ∈ fields, field.1 ≠ name ∧ pathHead field.1 = name) ∧
      ∃ value, after.lookup name = some value ∧ value.isComposite = true)
  conflictFree : ∀ {view fields after : Document}, apply view fields = some after →
    fields.Pairwise Apart

/-- What `$set` makes of a field that it names. -/
theorem MongoSet.lookup_of_mem {set : MongoSet} {view fields after : Document} {name : String}
    {value : Bson} (applied : set.apply view fields = some after) (mem : (name, value) ∈ fields)
    (plain : pathHead name = name) : after.lookup name = some value := by
  have apart : ∀ ⦃first⦄, first ∈ fields → ∀ ⦃second⦄, second ∈ fields → first ≠ second →
      Apart first second := (set.conflictFree applied).forall
  rcases set.result applied name with
    ⟨untouched, -⟩ | ⟨written, writtenMem, found⟩ | ⟨⟨field, fieldMem, longer, head⟩, -⟩
  · exact absurd plain (untouched _ mem)
  · by_cases same : value = written
    · rw [found, same]
    · have distinct : (name, value) ≠ (name, written) := by simpa using same
      exact absurd plain.symm (apart mem writtenMem distinct).1
  · have distinct : (name, value) ≠ field := by rintro rfl; exact longer rfl
    exact absurd head.symm (apart mem fieldMem distinct).1

/-- A field that an update does not touch. -/
theorem MongoSet.lookup_of_untouched {set : MongoSet} {view fields after : Document}
    {name : String} (applied : set.apply view fields = some after) (plain : pathHead name = name)
    (untouched : ∀ field ∈ fields, pathHead field.1 ≠ name) :
    after.lookup name = view.lookup name := by
  rcases set.result applied name with
    ⟨-, same⟩ | ⟨value, mem, -⟩ | ⟨⟨field, mem, -, head⟩, -⟩
  · exact same
  · exact absurd plain (untouched _ mem)
  · exact absurd head (untouched _ mem)

/-- A condition that no value set under the name meets holds of the result only where it held
    of the document. -/
theorem MongoSet.eq_holds_of_applied {set : MongoSet} {view fields after : Document}
    {name : String} {value : Bson} (applied : set.apply view fields = some after)
    (others : ∀ written, (name, written) ∈ fields → written.sameValue value = false)
    (holds : (Condition.eq value).holds (after.lookup name) = true) :
    (Condition.eq value).holds (view.lookup name) = true := by
  rcases set.result applied name with
    ⟨-, same⟩ | ⟨written, mem, found⟩ | ⟨-, written, found, composite⟩
  · rwa [← same]
  · simp [Condition.holds, found, others written mem] at holds
  · simp [Condition.holds, found, Bson.sameValue_composite composite] at holds

/-! ### Fields without paths -/

/-- The fields replace those of the same name in place, the new ones follow. -/
def setFields (view fields : Document) : Document :=
  view.map (fun field => (field.1, (fields.lookup field.1).getD field.2)) ++
    fields.filter fun field => (view.lookup field.1).isNone

theorem lookup_setFields (view fields : Document) (name : String) :
    (setFields view fields).lookup name = (fields.lookup name).or (view.lookup name) := by
  rw [setFields, List.lookup_append, lookup_map_values view fun name old => (fields.lookup name).getD old,
    lookup_filter fields fun name => (view.lookup name).isNone]
  cases view.lookup name <;> cases fields.lookup name <;> simp

/-- Every field is named once, and without a path. -/
def PlainFields (fields : Document) : Prop :=
  (fields.map Prod.fst).Nodup ∧ ∀ field ∈ fields, pathHead field.1 = field.1

instance (fields : Document) : Decidable (PlainFields fields) :=
  inferInstanceAs (Decidable (_ ∧ _))

/-- `$set` for fields without paths; it refuses any other. -/
def plainSet : MongoSet where
  apply view fields := if PlainFields fields then some (setFields view fields) else none
  result := by
    intro view fields after applied name
    simp only [Option.ite_none_right_eq_some, Option.some.injEq] at applied
    obtain ⟨plain, rfl⟩ := applied
    rw [lookup_setFields]
    cases found : fields.lookup name with
    | none =>
      refine .inl ⟨fun field mem head => ?_, rfl⟩
      rw [plain.2 field mem] at head
      have different := List.lookup_eq_none_iff.mp found field mem
      simp [head] at different
    | some value =>
      obtain ⟨before, behind, split, -⟩ := List.lookup_eq_some_iff.mp found
      exact .inr (.inl ⟨value, by simp [split], rfl⟩)
  conflictFree := by
    intro view fields after applied
    simp only [Option.ite_none_right_eq_some, Option.some.injEq] at applied
    obtain ⟨plain, -⟩ := applied
    refine (List.pairwise_map.mp plain.1).imp_of_mem ?_
    intro first second firstMem secondMem distinct
    rw [Apart, plain.2 first firstMem, plain.2 second secondMem]
    exact ⟨distinct, Ne.symm distinct⟩

/-! ## The store -/

/-- `(device_sn, track_id, app_id, space_id, in_out_type)`. -/
structure UserEventKey where
  deviceSn : String
  trackId : Int
  appId : String
  spaceId : String
  inOutType : Int
  deriving DecidableEq, Repr

/-- The fields that an upsert takes from its filter. -/
def UserEventKey.document (key : UserEventKey) : Document :=
  [("device_sn", .utf8 key.deviceSn), ("track_id", .int64 key.trackId), ("app_id", .utf8 key.appId),
    ("space_id", .utf8 key.spaceId), ("in_out_type", .int32 key.inOutType)]

/-- A filter as `userEventFilter` begins it: the key, and the conditions behind it. -/
def splitFilter : Filter → Option (UserEventKey × Filter)
  | (_, .eq (.utf8 deviceSn)) :: (_, .eq (.int64 trackId)) :: (_, .eq (.utf8 appId)) ::
      (_, .eq (.utf8 spaceId)) :: (_, .eq (.int32 inOutType)) :: rest =>
    some (⟨deviceSn, trackId, appId, spaceId, inOutType⟩, rest)
  | _ => none

/-- The key of the document that a session stores. -/
def userEventKey (session : Session) (data : SaveMongoData) : UserEventKey where
  deviceSn := session.kafkaData.ipc.deviceId
  trackId := data.trackId
  appId := session.kafkaData.ipc.appId
  spaceId := session.kafkaData.ipc.spaceId
  inOutType := data.eventType

@[simp] theorem splitFilter_userEventFilter (session : Session) (data : SaveMongoData)
    (rest : Filter) :
    splitFilter (userEventFilter session data ++ rest) = some (userEventKey session data, rest) := rfl

/-- What happens to the documents, newest first: a guard read of type 1 that finds nothing, and
    an upsert with the message type and the replay flag of its session. -/
inductive UserEvent where
  | guardRead (id : Nat) (key : UserEventKey)
  | write (id : Nat) (key : UserEventKey) (msgType replay : Int)
  deriving DecidableEq, Repr

def UserEvent.id : UserEvent → Nat
  | guardRead id _ => id
  | write id _ _ _ => id

structure UserEvents where
  store : UserEventKey → Option Document
  log : List UserEvent := []

/-- A session that runs `saveBusinessMongo`. -/
abbrev Saving := Thread Session FlowCall FlowCall.Answer Fault (Bool × Session)

/-- The data that a session stores, where it stores any. -/
def savedData (session : Session) : Option SaveMongoData :=
  match getSaveMongoData session.kafkaData session.saveMongoData.urls with
  | .ok data => data
  | .error _ => none

/-- The message type that a session stores. -/
def savedMsgType (session : Session) : Int := (savedData session).elim 0 (·.msgType)

namespace UserEvents

/-- The document of the key has the value in the field. -/
def hasField (world : UserEvents) (key : UserEventKey) (name : String) (value : Bson) : Bool :=
  (world.store key).any fun view => (Condition.eq value).holds (view.lookup name)

def hasMsgType2 (world : UserEvents) (key : UserEventKey) : Bool :=
  world.hasField key "msg_type" (.int32 2)

def hasReplay1 (world : UserEvents) (key : UserEventKey) : Bool :=
  world.hasField key "replay" (.int32 1)

/-- `find_one` on the documents. -/
def find (world : UserEvents) (key : UserEventKey) (rest : Filter) : FindResult :=
  match world.store key with
  | some view => if rest.holds view then .found view else .notFound
  | none => .notFound

def logGuard (world : UserEvents) (id : Nat) (key : UserEventKey) (rest : Filter) : UserEvents :=
  if (rest.lookup "msg_type").isSome then { world with log := .guardRead id key :: world.log }
  else world

/-- An upsert that the server performs. -/
def write (world : UserEvents) (id : Nat) (session : Session) (key : UserEventKey)
    (after : Document) : UserEvents where
  store := Function.update world.store key (some after)
  log := .write id key (savedMsgType session) session.kafkaData.getReplay :: world.log

/-- One call of a saving session.  The face set and the clock answer as they like, any command
    may fail, and `applied` says whether the server performs an update: it may be reported as
    failed all the same. -/
def exec (set : MongoSet) (id : Nat) (session : Session) (applied : Bool) (world : UserEvents) :
    (request : FlowCall) → request.Answer → Option (request.Answer × UserEvents)
  | .tryAcquire, acquired => some (acquired, world)
  | .time, seconds => some (seconds, world)
  | .findOne collection filter, answer =>
    if collection = "faceset" then some (answer, world)
    else
      match answer, splitFilter filter with
      | .exception, _ => some (.exception, world)
      | _, none => none
      | _, some (key, rest) =>
        match world.find key rest with
        | .notFound => some (.notFound, world.logGuard id key rest)
        | result => some (result, world)
  | .updateOne _ filter fields, reported =>
    match splitFilter filter with
    | none => none
    | some (key, _) =>
      if applied then
        match set.apply ((world.store key).getD key.document) fields with
        | some after => some (reported, world.write id session key after)
        | none => some (false, world)
      else some (false, world)
  | _, _ => none

end UserEvents

/-! ## Runs -/

structure SavingState where
  world : UserEvents
  running : List Saving := []
  started : Nat := 0

inductive SavingLabel where
  | save (session : Session)
  | advance (index : Nat) (answer : ∀ request : FlowCall, request.Answer) (applied : Bool)

def SavingState.step (set : MongoSet) (state : SavingState) : SavingLabel → Option SavingState
  | .save session => some { state with
      running := state.running ++
        [{ id := state.started, info := session, program := saveBusinessMongo.run session }]
      started := state.started + 1 }
  | .advance index answer applied =>
    state.running[index]?.bind fun saving =>
      match saving.program with
      | .ret _ => some { state with running := state.running.eraseIdx index }
      | .raise _ => none
      | .call request next =>
        (state.world.exec set saving.id saving.info applied request (answer request)).map
          fun result => { state with
            world := result.2
            running := state.running.set index { saving with program := next result.1 } }

/-- The session that a step makes a call of. -/
def SavingState.caller (state : SavingState) : SavingLabel → Option Saving
  | .save _ => none
  | .advance index _ _ => state.running[index]?

/-- Sessions that save concurrently into a store. -/
def userEventMachine (set : MongoSet) (store : UserEventKey → Option Document) :
    Machine SavingState SavingLabel where
  start := { world := { store := store } }
  step := SavingState.step set

end XBusiness
