import XBusiness.Workflow.UserEvent

/-! # The guards of `saveBusinessMongo`

What a session may count on between its `find_one` and its `update_one`, and what it
guarantees to the others, as a contract on the store of `user_event` documents.

* `saveBusinessMongo_safe` — the program keeps the contract, whatever its calls answer.
* `SavingInv` — the contract of every running session, along every run.
* `never_downgraded` — data of type 1 does not overwrite a document of type 2, along every
  run in which no type 2 upsert lands between the guard read and the upsert of a type 1
  session; `downgraded` is such a run.
* `replay_keeps_normal` — replayed data does not overwrite normal data when sessions run
  one after the other and normal data is never stored onto a document that carries the
  replay mark; `replay_overwrites_normal` is the run of the other case.
-/

namespace XBusiness

open Interaction

/-! ## The fields of an upsert -/

theorem attributeFields_value {attributes : List PersonResultAttribute} {name : String}
    {value : Bson} (mem : (name, value) ∈ attributeFields attributes) :
    (∃ text, value = .utf8 text) ∨ name ∈ ["gender", "manual_age", "age"] := by
  induction attributes with
  | nil => cases mem
  | cons elem rest inductionHypothesis =>
    simp only [attributeFields] at mem
    split at mem
    · cases mem with
      | head =>
        -- only the three numeric attributes are not stored as they are
        split
        · next numeric => simp_all; tauto
        · exact .inl ⟨_, rfl⟩
      | tail _ mem => exact inductionHypothesis mem
    · exact inductionHypothesis mem

theorem exists_mem_attributeFields {attributes : List PersonResultAttribute}
    {elem : PersonResultAttribute} (mem : elem ∈ attributes) (named : elem.type ≠ "") :
    ∃ value, (elem.type, value) ∈ attributeFields attributes := by
  induction attributes with
  | nil => cases mem
  | cons head rest inductionHypothesis =>
    simp only [attributeFields]
    cases mem with
    | head =>
      rw [if_pos named]
      exact ⟨_, List.mem_cons_self⟩
    | tail _ mem =>
      obtain ⟨value, stored⟩ := inductionHypothesis mem
      split
      · exact ⟨value, List.mem_cons_of_mem _ stored⟩
      · exact ⟨value, stored⟩

/-- An attribute of the person lands in the field that carries the replay mark. -/
def writesReplay (session : Session) : Prop :=
  savedMsgType session = 2 ∧ ∃ elem ∈ session.personResult.personAttributes, elem.type = "replay"

instance (session : Session) : Decidable (writesReplay session) :=
  inferInstanceAs (Decidable (_ ∧ _))

/-- What the fields of an upsert say about the message type and the replay mark. -/
structure FieldsOf (session : Session) (data : SaveMongoData) (fields : Document) : Prop where
  typeTwo : data.msgType = 2 → ("msg_type", .int32 2) ∈ fields
  notTypeTwo : data.msgType ≠ 2 → ∀ value, ("msg_type", value) ∈ fields →
    value.sameValue (.int32 2) = false
  noType : data.msgType ≠ 1 → data.msgType ≠ 2 → ∀ field ∈ fields, pathHead field.1 ≠ "msg_type"
  marked : session.kafkaData.getReplay = 1 → ("replay", .int32 1) ∈ fields
  unmarked : session.kafkaData.getReplay ≠ 1 → ∀ value, ("replay", value) ∈ fields →
    value.sameValue (.int32 1) = false
  named : writesReplay session → ∃ value, ("replay", value) ∈ fields

/-- The parts of the fields that do not depend on the replay flag. -/
theorem userEventFields_typeTwo (session : Session) (data : SaveMongoData) (currentTime : String)
    (typeTwo : data.msgType = 2) :
    ("msg_type", .int32 2) ∈ userEventFields session data currentTime := by
  simp [userEventFields, typeTwo]

theorem userEventFields_notTypeTwo (session : Session) (data : SaveMongoData) (currentTime : String)
    (notTypeTwo : data.msgType ≠ 2) (value : Bson)
    (mem : ("msg_type", value) ∈ userEventFields session data currentTime) :
    value.sameValue (.int32 2) = false := by
  by_cases typeOne : data.msgType = 1
  · obtain rfl : value = .int32 1 := by simpa [userEventFields, typeOne] using mem
    rfl
  · simp [userEventFields, notTypeTwo, typeOne] at mem

theorem userEventFields_noType (session : Session) (data : SaveMongoData) (currentTime : String)
    (notTypeOne : data.msgType ≠ 1) (notTypeTwo : data.msgType ≠ 2) :
    ∀ field ∈ userEventFields session data currentTime, pathHead field.1 ≠ "msg_type" := by
  simp only [userEventFields, if_neg notTypeTwo, if_neg notTypeOne, List.cons_append,
    List.nil_append, List.forall_mem_cons]
  decide

theorem userEventFields_replay (session : Session) (data : SaveMongoData) (currentTime : String)
    (value : Bson) (mem : ("replay", value) ∈ userEventFields session data currentTime) :
    value.sameValue (.int32 1) = false := by
  by_cases typeTwo : data.msgType = 2
  · have stored : ("replay", value) ∈ attributeFields session.personResult.personAttributes := by
      simpa [userEventFields, typeTwo] using mem
    cases attributeFields_value stored with
    | inl text => obtain ⟨text, rfl⟩ := text; rfl
    | inr numeric => simp at numeric
  · by_cases typeOne : data.msgType = 1 <;> simp [userEventFields, typeTwo, typeOne] at mem

theorem fieldsOf_userEventFields (session : Session) (data : SaveMongoData) (currentTime : String)
    (saved : savedData session = some data) (loaded : Session)
    (attributes : loaded.personResult.personAttributes = session.personResult.personAttributes)
    (mark : Document)
    (marking : mark = if session.kafkaData.getReplay = 1 then [("replay", .int32 1)] else []) :
    FieldsOf session data (userEventFields loaded data currentTime ++ mark) := by
  have markField : ∀ field ∈ mark, field = ("replay", .int32 1) := by
    subst marking
    split <;> simp
  constructor
  case typeTwo =>
    intro typeTwo
    exact List.mem_append_left _ (userEventFields_typeTwo _ _ _ typeTwo)
  case notTypeTwo =>
    intro notTypeTwo value mem
    cases List.mem_append.mp mem with
    | inl mem => exact userEventFields_notTypeTwo _ _ _ notTypeTwo value mem
    | inr mem => exact absurd (markField _ mem) (by simp)
  case noType =>
    intro notTypeOne notTypeTwo field mem
    cases List.mem_append.mp mem with
    | inl mem => exact userEventFields_noType _ _ _ notTypeOne notTypeTwo field mem
    | inr mem => rw [markField _ mem]; decide
  case marked =>
    intro replayed
    simp [marking, replayed]
  case unmarked =>
    intro normal value mem
    rw [marking, if_neg normal, List.append_nil] at mem
    exact userEventFields_replay _ _ _ value mem
  case named =>
    rintro ⟨typeTwo, elem, mem, named⟩
    have typeTwo : data.msgType = 2 := by simpa [savedMsgType, saved] using typeTwo
    obtain ⟨value, stored⟩ := exists_mem_attributeFields (attributes ▸ mem) (by simp [named])
    exact ⟨value, by simp [userEventFields, typeTwo, ← named, stored]⟩

/-! ## Single calls -/

/-- What one call of a saving session does to the documents. -/
inductive SavingCall (set : MongoSet) (id : Nat) (session : Session) (applied : Bool)
    (world : UserEvents) : FlowCall → UserEvents → Prop
  | kept (request : FlowCall) : SavingCall set id session applied world request world
  | guardRead (collection : String) (filter : Filter) (key : UserEventKey) :
    SavingCall set id session applied world (.findOne collection filter)
      { world with log := .guardRead id key :: world.log }
  | write (collection : String) (filter rest : Filter) (fields after : Document) (key : UserEventKey)
      (performing : applied = true) (split : splitFilter filter = some (key, rest))
      (performed : set.apply ((world.store key).getD key.document) fields = some after) :
    SavingCall set id session applied world (.updateOne collection filter fields)
      (world.write id session key after)

namespace UserEvents

theorem logGuard_eq (world : UserEvents) (id : Nat) (key : UserEventKey) (rest : Filter) :
    world.logGuard id key rest = world ∨
      world.logGuard id key rest = { world with log := .guardRead id key :: world.log } := by
  unfold logGuard
  split
  · exact .inr rfl
  · exact .inl rfl

theorem exec_cases {set : MongoSet} {id : Nat} {session : Session} {applied : Bool}
    {world after : UserEvents} {request : FlowCall} {given answer : request.Answer}
    (executed : world.exec set id session applied request given = some (answer, after)) :
    SavingCall set id session applied world request after := by
  cases request with
  | tryAcquire => cases executed; exact .kept _
  | time => cases executed; exact .kept _
  | findOne collection filter =>
    simp only [exec] at executed
    split at executed
    · cases executed; exact .kept _
    · split at executed
      · cases executed; exact .kept _
      · cases executed
      · next key rest _ _ =>
        split at executed
        · cases executed
          cases world.logGuard_eq id key rest with
          | inl same => rw [same]; exact .kept _
          | inr logged => rw [logged]; exact .guardRead _ _ _
        · cases executed; exact .kept _
  | updateOne collection filter fields =>
    simp only [exec] at executed
    split at executed
    · cases executed
    · next key rest split =>
      split at executed
      · next performing =>
        split at executed
        · next document performed =>
          cases executed; exact .write _ _ rest _ _ _ performing split performed
        · cases executed; exact .kept _
      · cases executed; exact .kept _
  | _ => cases executed

@[simp] theorem write_store_self (world : UserEvents) (id : Nat) (session : Session)
    (key : UserEventKey) (after : Document) :
    (world.write id session key after).store key = some after := by
  simp [write]

theorem write_store_of_ne (world : UserEvents) (id : Nat) (session : Session)
    {key other : UserEventKey} (after : Document) (ne : other ≠ key) :
    (world.write id session key after).store other = world.store other := by
  simp [write, ne]

theorem write_hasField_of_ne (world : UserEvents) (id : Nat) (session : Session)
    {key other : UserEventKey} (after : Document) (ne : other ≠ key) (name : String) (value : Bson) :
    (world.write id session key after).hasField other name value =
      world.hasField other name value := by
  simp [hasField, write_store_of_ne world id session after ne]

/-- An upsert does not bring a value into a field that it does not set to it. -/
theorem hasField_of_write {set : MongoSet} {world : UserEvents} {id : Nat} {session : Session}
    {key : UserEventKey} {fields after : Document} {name : String} {value : Bson}
    (performed : set.apply ((world.store key).getD key.document) fields = some after)
    (others : ∀ written, (name, written) ∈ fields → written.sameValue value = false)
    (noKey : key.document.lookup name = none)
    (holds : (world.write id session key after).hasField key name value = true) :
    world.hasField key name value = true := by
  have before := set.eq_holds_of_applied performed others (by simpa [hasField] using holds)
  cases stored : world.store key with
  | none => simp [stored, noKey, Condition.holds] at before
  | some view => simpa [hasField, stored] using before

/-- An upsert that sets a field sets it in the document. -/
theorem write_hasField_of_mem {set : MongoSet} {world : UserEvents} {id : Nat} {session : Session}
    {key : UserEventKey} {fields after : Document} {name : String} {value written : Bson}
    (performed : set.apply ((world.store key).getD key.document) fields = some after)
    (mem : (name, written) ∈ fields) (plain : pathHead name = name) :
    (world.write id session key after).hasField key name value = written.sameValue value := by
  simp [hasField, Condition.holds, set.lookup_of_mem performed mem plain]

/-- An upsert that does not touch a field leaves its value. -/
theorem write_hasField_of_untouched {set : MongoSet} {world : UserEvents} {id : Nat}
    {session : Session} {key : UserEventKey} {fields after : Document} {name : String} {value : Bson}
    (performed : set.apply ((world.store key).getD key.document) fields = some after)
    (plain : pathHead name = name) (untouched : ∀ field ∈ fields, pathHead field.1 ≠ name)
    (holds : world.hasField key name value = true) :
    (world.write id session key after).hasField key name value = true := by
  cases stored : world.store key with
  | none => simp [hasField, stored] at holds
  | some view =>
    rw [stored] at performed
    have same := set.lookup_of_untouched performed plain untouched
    simpa [hasField, stored, same] using holds

end UserEvents

/-! ## The contract of a session -/

namespace UserEvent

/-- An upsert of data of type 2 under the key. -/
def typeTwo (key : UserEventKey) : UserEvent → Bool
  | write _ written msgType _ => written = key && msgType = 2
  | guardRead _ _ => false

/-- An upsert of normal data under the key. -/
def normal (key : UserEventKey) : UserEvent → Bool
  | write _ written _ replay => written = key && replay ≠ 1
  | guardRead _ _ => false

/-- The guard read of a session. -/
def isGuard (id : Nat) : UserEvent → Bool
  | guardRead reader _ => reader = id
  | write .. => false

end UserEvent

/-- What happened since the guard read of a session. -/
def sinceGuard (id : Nat) (log : List UserEvent) : List UserEvent :=
  log.takeWhile fun event => !event.isGuard id

namespace UserEvents

/-- No upsert of type 2 under the key has happened since the guard read of the session. -/
def Undisturbed (world : UserEvents) (id : Nat) (key : UserEventKey) : Prop :=
  ∀ event ∈ sinceGuard id world.log, event.typeTwo key = false

instance (world : UserEvents) (id : Nat) (key : UserEventKey) : Decidable (world.Undisturbed id key) :=
  inferInstanceAs (Decidable (∀ event ∈ _, _))

/-- The guard read of the session found no document of type 2, so there is one only if an upsert
    of type 2 has happened since. -/
def Guarded (world : UserEvents) (id : Nat) (key : UserEventKey) : Prop :=
  world.Undisturbed id key → world.hasMsgType2 key = false

/-- What the sessions other than `id` do: their events, and no document of type 2 without an
    upsert of type 2. -/
def Others (id : Nat) (world later : UserEvents) : Prop :=
  ∃ events, later.log = events ++ world.log ∧ (∀ event ∈ events, event.id ≠ id) ∧
    ∀ key, (∀ event ∈ events, event.typeTwo key = false) →
      later.hasMsgType2 key = true → world.hasMsgType2 key = true

theorem Others.refl (id : Nat) (world : UserEvents) : Others id world world :=
  ⟨[], rfl, nofun, fun _ _ holds => holds⟩

theorem Others.trans {id : Nat} {first second third : UserEvents} (before : Others id first second)
    (after : Others id second third) : Others id first third := by
  obtain ⟨early, earlyLog, earlyIds, earlyHolds⟩ := before
  obtain ⟨late, lateLog, lateIds, lateHolds⟩ := after
  refine ⟨late ++ early, by rw [lateLog, earlyLog, List.append_assoc], ?_, ?_⟩
  · intro event mem
    cases List.mem_append.mp mem with
    | inl mem => exact lateIds event mem
    | inr mem => exact earlyIds event mem
  · intro key none holds
    apply earlyHolds key fun event mem => none event (List.mem_append_right _ mem)
    exact lateHolds key (fun event mem => none event (List.mem_append_left _ mem)) holds

theorem isGuard_of_id_ne {event : UserEvent} {id : Nat} (ne : event.id ≠ id) :
    event.isGuard id = false := by
  cases event with
  | guardRead reader key => simpa [UserEvent.isGuard, UserEvent.id] using ne
  | write _ _ _ _ => rfl

/-- The others do not take the guarantee of the guard read away. -/
theorem Guarded.others {world later : UserEvents} {id : Nat} {key : UserEventKey}
    (guarded : world.Guarded id key) (moved : Others id world later) : later.Guarded id key := by
  obtain ⟨events, log, ids, holds⟩ := moved
  intro undisturbed
  -- the events of the others stand before the guard read, so they belong to `sinceGuard`
  have passed : sinceGuard id later.log = events ++ sinceGuard id world.log := by
    rw [log, sinceGuard, sinceGuard, List.takeWhile_append_of_pos]
    intro event mem
    simp [isGuard_of_id_ne (ids event mem)]
  rw [Undisturbed, passed] at undisturbed
  have before : world.hasMsgType2 key = false :=
    guarded fun event mem => undisturbed event (List.mem_append_right _ mem)
  by_contra after
  rw [holds key (fun event mem => undisturbed event (List.mem_append_left _ mem))
    (by simpa using after)] at before
  cases before

end UserEvents

/-- An upsert that a session may ask for: one of its data under their key, with no condition on
    the document, and justified by the guards. `quiet` is whether the session runs alone. -/
structure Upsert (quiet : Prop) (id : Nat) (session : Session) (world : UserEvents)
    (filter : Filter) (fields : Document) (data : SaveMongoData) : Prop where
  saved : savedData session = some data
  split : splitFilter filter = some (userEventKey session data, [])
  fieldsOf : FieldsOf session data fields
  guarded : data.msgType = 1 → world.Guarded id (userEventKey session data)
  replayed : quiet → session.kafkaData.getReplay = 1 →
    ∀ view, world.store (userEventKey session data) = some view →
      world.hasReplay1 (userEventKey session data) = true

/-- The contract of a session that saves, next to others or alone. -/
def savingContract (set : MongoSet) (quiet : Prop) (id : Nat) (session : Session) :
    Contract UserEvents FlowCall FlowCall.Answer where
  rely world later := UserEvents.Others id world later ∧ (quiet → later = world)
  allowed world
    | .updateOne _ filter fields => ∃ data, Upsert quiet id session world filter fields data
    | _ => True
  effect world request answer after :=
    ∃ applied given, world.exec set id session applied request given = some (answer, after)
  rely_refl world := ⟨.refl id world, fun _ => rfl⟩
  rely_trans first second :=
    ⟨first.1.trans second.1, fun quiet => (second.2 quiet).trans (first.2 quiet)⟩

/-! ## The program keeps the contract -/

section Program

variable {set : MongoSet} {quiet : Prop} {id : Nat} {session : Session} {world : UserEvents}

/-- The fields of a session that the guards depend on. -/
structure SameData (session other : Session) : Prop where
  kafkaData : other.kafkaData = session.kafkaData
  urls : other.saveMongoData.urls = session.saveMongoData.urls
  attributes : other.personResult.personAttributes = session.personResult.personAttributes

theorem SameData.refl (session : Session) : SameData session session := ⟨rfl, rfl, rfl⟩

theorem switchFaceSet_safe :
    StateProg.Safe (savingContract set quiet id session) (fun _ => True)
      (fun _ _ loaded => SameData session loaded) switchFaceSetIdBySetName world session := by
  apply StateProg.Safe.get
  dsimp only
  split
  · exact StateProg.Safe.pure fun _ _ => .refl session
  · apply StateProg.Safe.call
    intro later _
    refine ⟨trivial, fun acquired after _ => ?_⟩
    split
    · apply StateProg.Safe.call
      intro later _
      refine ⟨trivial, fun found after _ => ?_⟩
      cases found with
      | found view =>
        dsimp only
        split
        · exact StateProg.Safe.pure fun _ _ => .refl session
        · apply StateProg.Safe.modify
          split
          · exact StateProg.Safe.pure fun _ _ => ⟨rfl, rfl, rfl⟩
          · apply StateProg.Safe.modify
            exact StateProg.Safe.pure fun _ _ => ⟨rfl, rfl, rfl⟩
      | notFound => exact StateProg.Safe.pure fun _ _ => .refl session
      | exception => exact StateProg.Safe.pure fun _ _ => .refl session
    · exact StateProg.Safe.pure fun _ _ => .refl session

theorem userEventCollection_ne (loaded : Session) : userEventCollection loaded ≠ "faceset" := by
  intro same
  have length := congrArg String.length same
  simp only [userEventCollection, String.length_append] at length
  have suffix : "_user_event".length = 11 := rfl
  have whole : "faceset".length = 7 := rfl
  omega

theorem userEventKey_of_sameData {loaded : Session} (same : SameData session loaded)
    (data : SaveMongoData) : userEventKey loaded data = userEventKey session data := by
  simp [userEventKey, same.kafkaData]

/-- A read of the documents that finds none. -/
theorem notFound_of_exec {loaded : Session} {data : SaveMongoData} {rest : Filter} {applied : Bool}
    {given : FindResult} {after : UserEvents} (same : SameData session loaded)
    (executed : world.exec set id session applied
      (.findOne (userEventCollection loaded) (userEventFilter loaded data ++ rest)) given =
        some (.notFound, after)) :
    (∀ view, world.store (userEventKey session data) = some view → rest.holds view = false) ∧
      after = world.logGuard id (userEventKey session data) rest := by
  simp only [UserEvents.exec, if_neg (userEventCollection_ne loaded), splitFilter_userEventFilter,
    userEventKey_of_sameData same] at executed
  split at executed
  · cases executed
  · cases executed
  · next key remaining _ split =>
    cases split
    cases missing : world.find (userEventKey session data) rest with
    | notFound =>
      rw [missing] at executed
      cases executed
      refine ⟨fun view stored => ?_, rfl⟩
      simpa [UserEvents.find, stored] using missing
    | _ =>
      rw [missing] at executed
      cases executed

theorem upsertUserEvent_safe {loaded object : Session} {data : SaveMongoData} {fields : Document}
    (same : SameData session loaded) (saved : savedData session = some data)
    (fieldsOf : FieldsOf session data fields)
    (guarded : data.msgType = 1 → world.Guarded id (userEventKey session data))
    (replayed : session.kafkaData.getReplay = 1 →
      ∀ view, world.store (userEventKey session data) = some view →
        world.hasReplay1 (userEventKey session data) = true) :
    StateProg.Safe (savingContract set quiet id session) (fun _ => True) (fun _ _ _ => True)
      (upsertUserEvent loaded data fields) world object := by
  intro later relied
  refine ⟨⟨data, saved, ?_, fieldsOf, fun typeOne => (guarded typeOne).others relied.1, ?_⟩,
    fun _ _ _ _ _ => trivial⟩
  · rw [← userEventKey_of_sameData same]
    rfl
  · intro quiet
    rw [relied.2 quiet]
    exact replayed

theorem saveReplay_safe {loaded object : Session} {data : SaveMongoData} {currentTime : String}
    (same : SameData session loaded) (saved : savedData session = some data)
    (guarded : data.msgType = 1 → world.Guarded id (userEventKey session data)) :
    StateProg.Safe (savingContract set quiet id session) (fun _ => True) (fun _ _ _ => True)
      (saveReplay loaded data (userEventFields loaded data currentTime)) world object := by
  have fieldsOf := fieldsOf_userEventFields session data currentTime saved loaded same.attributes
  unfold saveReplay
  rw [same.kafkaData]
  split
  · next replay =>
    apply StateProg.Safe.call
    intro later relied
    refine ⟨trivial, fun found after executed => ?_⟩
    cases found with
    | found view => exact StateProg.Safe.pure fun _ _ => trivial
    | exception => exact StateProg.Safe.pure fun _ _ => trivial
    | notFound =>
      obtain ⟨applied, given, executed⟩ := executed
      obtain ⟨missing, logged⟩ := notFound_of_exec same executed
      have unlogged : after = later := logged
      rw [unlogged]
      apply upsertUserEvent_safe same saved (fieldsOf _ (by rw [if_pos replay]))
      · exact fun typeOne => (guarded typeOne).others relied.1
      · -- a document that does not satisfy `$ne` has the mark
        intro _ view stored
        have marked := missing view stored
        simp only [Filter.holds, List.all_cons, List.all_nil, Bool.and_true, Condition.holds,
          Bool.not_eq_false'] at marked
        simpa [UserEvents.hasReplay1, UserEvents.hasField, stored, Condition.holds] using marked
  · -- normal data is stored without a look, and without the mark
    next normal =>
    have unmarked := fieldsOf [] (by rw [if_neg normal])
    rw [List.append_nil] at unmarked
    exact upsertUserEvent_safe same saved unmarked guarded fun replay => absurd replay normal

theorem saveBusinessMongo_safe :
    StateProg.Safe (savingContract set quiet id session) (fun _ => True) (fun _ _ _ => True)
      saveBusinessMongo world session := by
  apply StateProg.Safe.bind
  apply switchFaceSet_safe.mono
  intro world switched loaded same
  split
  · apply StateProg.Safe.call
    intro later _
    refine ⟨trivial, fun acquired after _ => ?_⟩
    split
    · apply StateProg.Safe.get
      cases gathered : getSaveMongoData loaded.kafkaData loaded.saveMongoData.urls with
      | error fault => exact trivial
      | ok optional =>
        have data : savedData session = optional := by
          rw [same.kafkaData, same.urls] at gathered
          simp only [savedData, gathered]
        rw [Flow.ofExcept_ok, pure_bind]
        cases optional with
        | none => exact StateProg.Safe.pure fun _ _ => trivial
        | some gatheredData =>
          apply StateProg.Safe.modify
          apply StateProg.Safe.call
          intro later _
          refine ⟨trivial, fun seconds after _ => ?_⟩
          dsimp only
          split
          · apply StateProg.Safe.call
            intro later _
            refine ⟨trivial, fun found after executed => ?_⟩
            cases found with
            | found view => exact StateProg.Safe.pure fun _ _ => trivial
            | exception => exact StateProg.Safe.pure fun _ _ => trivial
            | notFound =>
              obtain ⟨applied, given, executed⟩ := executed
              obtain ⟨missing, rfl⟩ := notFound_of_exec same executed
              apply saveReplay_safe same data
              intro _ _
              -- the read that found nothing is the guard read itself
              simp only [UserEvents.logGuard, UserEvents.hasMsgType2, UserEvents.hasField]
              cases stored : later.store (userEventKey session gatheredData) with
              | none => simp [stored]
              | some view =>
                simpa [stored, Filter.holds] using missing view stored
          · next notTypeOne =>
            exact saveReplay_safe same data fun typeOne => absurd typeOne notTypeOne
    · exact StateProg.Safe.pure fun _ _ => trivial
  · exact StateProg.Safe.pure fun _ _ => trivial

end Program

/-! ## Running sessions -/

/-- What a call leaves for the other sessions to rely on. -/
theorem SavingCall.others {set : MongoSet} {quiet : Prop} {id other : Nat} {session : Session}
    {applied : Bool} {world after : UserEvents} {request : FlowCall}
    (called : SavingCall set id session applied world request after)
    (allowed : (savingContract set quiet id session).allowed world request) (ne : id ≠ other) :
    UserEvents.Others other world after := by
  cases called with
  | kept request => exact .refl other world
  | guardRead collection filter key =>
    refine ⟨[.guardRead id key], rfl, ?_, fun _ _ holds => holds⟩
    intro event mem
    rw [List.mem_singleton.mp mem]
    exact ne
  | write collection filter rest fields document key performing split performed =>
    obtain ⟨data, upsert⟩ := allowed
    refine ⟨[.write id key (savedMsgType session) session.kafkaData.getReplay], rfl, ?_, ?_⟩
    · intro event mem
      rw [List.mem_singleton.mp mem]
      exact ne
    · intro read notTypeTwo holds
      by_cases same : read = key
      · subst same
        -- without data of type 2 the upsert does not set the type to 2
        have notTwo : data.msgType ≠ 2 := by
          have none := notTypeTwo _ (List.mem_singleton_self _)
          simpa [UserEvent.typeTwo, savedMsgType, upsert.saved] using none
        exact UserEvents.hasField_of_write performed (upsert.fieldsOf.notTypeTwo notTwo) rfl holds
      · rwa [UserEvents.hasMsgType2, UserEvents.write_hasField_of_ne _ _ _ _ same] at holds

/-- The steps of the machine. -/
inductive SavingStep (set : MongoSet) (state : SavingState) : SavingLabel → SavingState → Prop
  | save (session : Session) : SavingStep set state (.save session) { state with
      running := state.running ++
        [{ id := state.started, info := session, program := saveBusinessMongo.run session }]
      started := state.started + 1 }
  | leave (index : Nat) (answer : ∀ request : FlowCall, request.Answer) (applied : Bool) :
    SavingStep set state (.advance index answer applied)
      { state with running := state.running.eraseIdx index }
  | call (index : Nat) (answer : ∀ request : FlowCall, request.Answer) (applied : Bool)
      (saving : Saving) (request : FlowCall) (next : request.Answer → FlowProg (Bool × Session))
      (reply : request.Answer) (after : UserEvents) (found : state.running[index]? = some saving)
      (calling : saving.program = .call request next)
      (executed : state.world.exec set saving.id saving.info applied request (answer request) =
        some (reply, after)) :
    SavingStep set state (.advance index answer applied) { state with
      world := after
      running := state.running.set index { saving with program := next reply } }

theorem savingState_step_cases {set : MongoSet} {state next : SavingState} {label : SavingLabel}
    (stepped : state.step set label = some next) : SavingStep set state label next := by
  cases label with
  | save session => cases stepped; exact .save session
  | advance index answer applied =>
    obtain ⟨saving, found, moved⟩ := Option.bind_eq_some_iff.mp stepped
    split at moved
    · cases moved; exact .leave index answer applied
    · cases moved
    · next request continuation calling =>
      obtain ⟨⟨reply, after⟩, executed, rfl⟩ := Option.map_eq_some_iff.mp moved
      exact .call index answer applied saving request continuation reply after found calling executed

/-- Every running session keeps its contract. -/
structure SavingInv (set : MongoSet) (quiet : Prop) (state : SavingState) : Prop where
  threads : Threads.Safe (savingContract set quiet) (fun _ => True) (fun _ _ _ => True) state.world
    state.running
  fresh : ∀ saving ∈ state.running, saving.id < state.started
  alone : quiet → state.running.length ≤ 1

theorem SavingInv.start (set : MongoSet) (quiet : Prop) (store : UserEventKey → Option Document) :
    SavingInv set quiet (userEventMachine set store).start where
  threads := .nil
  fresh _ mem := absurd mem List.not_mem_nil
  alone _ := Nat.zero_le 1

theorem SavingInv.step {set : MongoSet} {quiet : Prop} {state next : SavingState}
    {label : SavingLabel} (inv : SavingInv set quiet state)
    (turn : ∀ session, label = .save session → quiet → state.running = [])
    (stepped : state.step set label = some next) : SavingInv set quiet next := by
  cases savingState_step_cases stepped with
  | save session =>
    constructor
    · apply inv.threads.add
      · exact saveBusinessMongo_safe
      · exact fun other mem => Nat.ne_of_lt (inv.fresh other mem)
    · intro saving mem
      cases List.mem_append.mp mem with
      | inl mem => exact Nat.lt_succ_of_lt (inv.fresh saving mem)
      | inr mem => rw [List.mem_singleton.mp mem]; exact Nat.lt_succ_self _
    · intro quiet
      simp [turn session rfl quiet]
  | leave index answer applied =>
    have sublist := List.eraseIdx_sublist state.running index
    exact ⟨inv.threads.remove index, fun saving mem => inv.fresh saving (sublist.subset mem),
      fun quiet => sublist.length_le.trans (inv.alone quiet)⟩
  | call index answer applied saving request continuation reply after found calling executed =>
    have called := UserEvents.exec_cases executed
    have allowed := inv.threads.allowed found calling
    constructor
    · apply inv.threads.call found calling ⟨applied, answer request, executed⟩
      intro other mem ne
      refine ⟨called.others allowed ne.symm, fun quiet => absurd ?_ ne⟩
      -- a session that runs alone has no other one next to it
      have single := inv.alone quiet
      have own := List.mem_of_getElem? found
      obtain ⟨last, only⟩ := List.length_eq_one_iff.mp
        (Nat.le_antisymm single (List.length_pos_of_mem own))
      rw [only] at mem own
      rw [List.mem_singleton.mp mem, List.mem_singleton.mp own]
    · intro member mem
      cases List.mem_or_eq_of_mem_set mem with
      | inl mem => exact inv.fresh member mem
      | inr same => subst same; exact inv.fresh saving (List.mem_of_getElem? found)
    · intro quiet
      rw [List.length_set]
      exact inv.alone quiet

/-! ## Data of type 2 is not overwritten by data of type 1 -/

namespace SavingState

/-- The session whose upsert a step performs. -/
def upserting (state : SavingState) (label : SavingLabel) : Option Saving :=
  (state.caller label).filter fun saving =>
    match label, saving.program with
    | .advance _ _ applied, .call (.updateOne _ _ _) _ => applied
    | _, _ => false

/-- The condition on a step: if it is the upsert of a session with data of type 1, then no upsert
    of type 2 under its key has happened since its guard read. -/
def NotOvertaken (state : SavingState) (label : SavingLabel) : Prop :=
  ∀ saving ∈ state.upserting label, ∀ data ∈ savedData saving.info, data.msgType = 1 →
    state.world.Undisturbed saving.id (userEventKey saving.info data)

instance (state : SavingState) (label : SavingLabel) : Decidable (state.NotOvertaken label) :=
  inferInstanceAs (Decidable (∀ saving ∈ _, ∀ data ∈ _, _))

theorem upserting_of_call {state : SavingState} {index : Nat}
    {answer : ∀ request : FlowCall, request.Answer} {saving : Saving} {collection : String}
    {filter : Filter} {fields : Document} {next : Bool → FlowProg (Bool × Session)}
    (found : state.running[index]? = some saving)
    (calling : saving.program = .call (.updateOne collection filter fields) next) :
    state.upserting (.advance index answer true) = some saving := by
  simp [upserting, caller, found, calling]

end SavingState

theorem savedMsgType_of_saved {session : Session} {data : SaveMongoData}
    (saved : savedData session = some data) : savedMsgType session = data.msgType := by
  simp [savedMsgType, saved]

theorem Upsert.key_eq {quiet : Prop} {id : Nat} {session : Session} {world : UserEvents}
    {filter rest : Filter} {fields : Document} {data : SaveMongoData} {key : UserEventKey}
    (upsert : Upsert quiet id session world filter fields data)
    (split : splitFilter filter = some (key, rest)) : userEventKey session data = key := by
  have same := upsert.split.symm.trans split
  simp only [Option.some.injEq, Prod.mk.injEq] at same
  exact same.1

/-- A document of type 2 keeps its type, and no step of a session with data of type 1 changes it. -/
theorem msgType2_step {set : MongoSet} {state next : SavingState} {label : SavingLabel}
    {key : UserEventKey} (inv : SavingInv set False state) (guarded : state.NotOvertaken label)
    (stored : state.world.hasMsgType2 key = true) (stepped : state.step set label = some next) :
    next.world.hasMsgType2 key = true ∧
      ∀ saving, state.caller label = some saving → savedMsgType saving.info = 1 →
        next.world.store key = state.world.store key := by
  cases savingState_step_cases stepped with
  | save session => exact ⟨stored, fun _ _ _ => rfl⟩
  | leave index answer applied => exact ⟨stored, fun _ _ _ => rfl⟩
  | call index answer applied saving request continuation reply after found calling executed =>
    have allowed := inv.threads.allowed found calling
    cases UserEvents.exec_cases executed with
    | kept request => exact ⟨stored, fun _ _ _ => rfl⟩
    | guardRead collection filter written => exact ⟨stored, fun _ _ _ => rfl⟩
    | write collection filter rest fields document written performing split performed =>
      subst performing
      by_cases same : key = written
      · subst same
        obtain ⟨data, upsert⟩ := allowed
        have notTypeOne : data.msgType ≠ 1 := by
          intro typeOne
          -- the guard read still holds, as no data of type 2 came in between
          have undisturbed := guarded saving (SavingState.upserting_of_call found calling) data
            upsert.saved typeOne
          have absent := upsert.guarded typeOne undisturbed
          rw [upsert.key_eq split, stored] at absent
          cases absent
        constructor
        · by_cases typeTwo : data.msgType = 2
          · rw [UserEvents.hasMsgType2, UserEvents.write_hasField_of_mem performed
              (upsert.fieldsOf.typeTwo typeTwo) (by decide)]
            rfl
          · exact UserEvents.write_hasField_of_untouched performed (by decide)
              (upsert.fieldsOf.noType notTypeOne typeTwo) stored
        · intro other foundOther typeOne
          obtain rfl : saving = other := Option.some.inj (found.symm.trans foundOther)
          rw [savedMsgType_of_saved upsert.saved] at typeOne
          exact absurd typeOne notTypeOne
      · constructor
        · rwa [UserEvents.hasMsgType2, UserEvents.write_hasField_of_ne _ _ _ _ same]
        · exact fun _ _ _ => UserEvents.write_store_of_ne _ _ _ _ same

theorem never_downgraded (set : MongoSet) (store : UserEventKey → Option Document)
    (key : UserEventKey) (before after : List SavingLabel) (label : SavingLabel)
    (middle last next : SavingState) (saving : Saving)
    (meets : (userEventMachine set store).Meets SavingState.NotOvertaken
      (userEventMachine set store).start (before ++ (after ++ [label])))
    (ran : (userEventMachine set store).run (userEventMachine set store).start before = some middle)
    (stored : middle.world.hasMsgType2 key = true)
    (ranOn : (userEventMachine set store).run middle after = some last)
    (typeOne : savedMsgType saving.info = 1) (calling : last.caller label = some saving)
    (stepped : last.step set label = some next) :
    last.world.hasMsgType2 key = true ∧ next.world.store key = last.world.store key := by
  have invMiddle : SavingInv set False middle := by
    apply Machine.run_invariant ?_ (SavingInv.start set False store) ran
    exact fun _ _ _ inv stepped => inv.step (fun _ _ quiet => quiet.elim) stepped
  have meetsOn := Machine.meets_of_append meets ran
  have kept : SavingInv set False last ∧ last.world.hasMsgType2 key = true := by
    apply Machine.run_invariant_of_meets ?_ ⟨invMiddle, stored⟩ (Machine.meets_append meetsOn) ranOn
    intro _ _ _ holds guarded stepped
    exact ⟨holds.1.step (fun _ _ quiet => quiet.elim) stepped,
      (msgType2_step holds.1 guarded holds.2 stepped).1⟩
  have guarded := (Machine.meets_of_append meetsOn ranOn).1
  exact ⟨kept.2, (msgType2_step kept.1 guarded kept.2 stepped).2 saving calling typeOne⟩

/-- A business session of one device and track. -/
def savingSession (msgType replay : Int) : Session where
  ref := 0
  kafkaData := {
    dataClass := .business
    payloadType := PayloadType.business
    totalJv := .null
    src := .kafka
    ipc := { appId := "a", spaceId := "s", deviceId := "d", timestamp := 0 }
    data := none
    event := { msgType := msgType, trackId := 7, replay := replay } }
  httpRetryTime := 3
  uid := "m"
  sessionId := "m"
  personResult := { id := "p", similar := 0 }
  procChain := []

def savingKey : UserEventKey := userEventKey (savingSession 1 0) { trackId := 7 }

/-- Calls of one session, all of which succeed. -/
def saveCalls (index calls : Nat) : List SavingLabel :=
  List.replicate calls (.advance index FlowCall.succeed true)

/-- A session with data of type 2 saves it; one with data of type 1 comes up to its guard read. -/
def savedBeforeGuard : List SavingLabel := .save (savingSession 2 0) :: saveCalls 0 4

theorem never_downgraded_savedBeforeGuard :
    ∃ middle last next saving,
      (userEventMachine plainSet fun _ => none).run (userEventMachine plainSet fun _ => none).start
        savedBeforeGuard = some middle ∧
      middle.world.hasMsgType2 savingKey = true ∧
      (userEventMachine plainSet fun _ => none).run middle
        (.save (savingSession 1 0) :: saveCalls 0 2) = some last ∧
      last.caller (.advance 0 FlowCall.succeed true) = some saving ∧
      last.step plainSet (.advance 0 FlowCall.succeed true) = some next ∧
      last.world.hasMsgType2 savingKey = true ∧ next.world.store savingKey = last.world.store savingKey :=
  ⟨_, _, _, _, rfl, by decide, rfl, rfl, rfl,
    never_downgraded plainSet (fun _ => none) savingKey savedBeforeGuard
      (.save (savingSession 1 0) :: saveCalls 0 2) (.advance 0 FlowCall.succeed true) _ _ _ _
      (by decide) rfl (by decide) rfl rfl rfl rfl⟩

/-- The upsert of type 2 lands between the guard read and the upsert of type 1. -/
def overtaken : List SavingLabel :=
  .save (savingSession 1 0) :: saveCalls 0 3 ++ .save (savingSession 2 0) :: saveCalls 1 3

theorem downgraded :
    ∃ middle saving next,
      (userEventMachine plainSet fun _ => none).run (userEventMachine plainSet fun _ => none).start
        overtaken = some middle ∧
      middle.world.hasMsgType2 savingKey = true ∧
      middle.caller (.advance 0 FlowCall.succeed true) = some saving ∧
      savedMsgType saving.info = 1 ∧
      middle.step plainSet (.advance 0 FlowCall.succeed true) = some next ∧
      next.world.hasMsgType2 savingKey = false :=
  ⟨_, _, _, rfl, by decide, rfl, rfl, rfl, by decide⟩

/-! ## Replayed data does not overwrite normal data -/

namespace SavingState

/-- Sessions save one after the other. -/
def OneAtATime (state : SavingState) : SavingLabel → Prop
  | .save _ => state.running = []
  | .advance _ _ _ => True

instance (state : SavingState) : ∀ label, Decidable (state.OneAtATime label)
  | .save _ => inferInstanceAs (Decidable (_ = []))
  | .advance _ _ _ => inferInstanceAs (Decidable True)

/-- The condition on a step: if it is the upsert of a session with normal data, then the document
    does not carry the replay mark, or an attribute of the person takes the place of the mark. -/
def KeepsUnmarked (state : SavingState) (label : SavingLabel) : Prop :=
  ∀ saving ∈ state.upserting label, saving.info.kafkaData.getReplay ≠ 1 →
    ∀ data ∈ savedData saving.info,
      state.world.hasReplay1 (userEventKey saving.info data) = false ∨ writesReplay saving.info

instance (state : SavingState) (label : SavingLabel) : Decidable (state.KeepsUnmarked label) :=
  inferInstanceAs (Decidable (∀ saving ∈ _, _ → ∀ data ∈ _, _))

/-- Once normal data was stored, there is a document without the mark. -/
def Unmarked (key : UserEventKey) (state : SavingState) : Prop :=
  (∃ event ∈ state.world.log, event.normal key = true) →
    (state.world.store key).isSome = true ∧ state.world.hasReplay1 key = false

end SavingState

theorem unmarked_step {set : MongoSet} {state next : SavingState} {label : SavingLabel}
    {key : UserEventKey} (inv : SavingInv set True state) (guarded : state.KeepsUnmarked label)
    (unmarked : state.Unmarked key) (stepped : state.step set label = some next) :
    next.Unmarked key ∧
      ((∃ event ∈ state.world.log, event.normal key = true) → ∀ saving,
        state.caller label = some saving → saving.info.kafkaData.getReplay = 1 →
          next.world.store key = state.world.store key) := by
  cases savingState_step_cases stepped with
  | save session => exact ⟨unmarked, fun _ _ _ _ => rfl⟩
  | leave index answer applied => exact ⟨unmarked, fun _ _ _ _ => rfl⟩
  | call index answer applied saving request continuation reply after found calling executed =>
    have allowed := inv.threads.allowed found calling
    cases UserEvents.exec_cases executed with
    | kept request => exact ⟨unmarked, fun _ _ _ _ => rfl⟩
    | guardRead collection filter written =>
      refine ⟨fun normal => unmarked ?_, fun _ _ _ _ => rfl⟩
      simpa [UserEvent.normal] using normal
    | write collection filter rest fields document written performing split performed =>
      subst performing
      by_cases same : key = written
      · subst same
        obtain ⟨data, upsert⟩ := allowed
        by_cases replayed : saving.info.kafkaData.getReplay = 1
        · -- the replay guard let the upsert through, so no normal data was stored
          have none : ¬ ∃ event ∈ state.world.log, event.normal key = true := by
            intro normal
            obtain ⟨exists_, clear⟩ := unmarked normal
            obtain ⟨view, stored⟩ := Option.isSome_iff_exists.mp exists_
            have marked := upsert.replayed trivial replayed view (by rwa [upsert.key_eq split])
            rw [upsert.key_eq split, clear] at marked
            cases marked
          constructor
          · rintro ⟨event, mem, normal⟩
            cases mem with
            | head => simp [UserEvent.normal, replayed] at normal
            | tail _ mem => exact absurd ⟨event, mem, normal⟩ none
          · exact fun normal => absurd normal none
        · -- normal data: the event is there now, and a mark on it would have been there before
          constructor
          · intro _
            constructor
            · simp
            · by_contra marked
              rw [Bool.not_eq_false] at marked
              have before := UserEvents.hasField_of_write performed
                (upsert.fieldsOf.unmarked replayed) rfl marked
              cases guarded saving (SavingState.upserting_of_call found calling) replayed data
                upsert.saved with
              | inl clear =>
                rw [upsert.key_eq split] at clear
                exact absurd (before.symm.trans clear) (by simp)
              | inr writes =>
                obtain ⟨value, mem⟩ := upsert.fieldsOf.named writes
                rw [UserEvents.hasReplay1, UserEvents.write_hasField_of_mem performed mem
                  (by decide), upsert.fieldsOf.unmarked replayed value mem] at marked
                cases marked
          · intro _ other foundOther otherReplayed
            obtain rfl : saving = other := Option.some.inj (found.symm.trans foundOther)
            exact absurd otherReplayed replayed
      · -- an update of another event
        have kept := UserEvents.write_store_of_ne state.world saving.id saving.info document same
        refine ⟨fun normal => ?_, fun _ _ _ _ => kept⟩
        have normal : ∃ event ∈ state.world.log, event.normal key = true := by
          simpa [UserEvents.write, UserEvent.normal, Ne.symm same] using normal
        rw [UserEvents.hasReplay1, UserEvents.write_hasField_of_ne _ _ _ _ same, kept]
        exact unmarked normal

theorem replay_keeps_normal (set : MongoSet) (store : UserEventKey → Option Document)
    (key : UserEventKey) (labels : List SavingLabel) (label : SavingLabel)
    (state next : SavingState) (saving : Saving)
    (sequential : (userEventMachine set store).Meets SavingState.OneAtATime
      (userEventMachine set store).start (labels ++ [label]))
    (meets : (userEventMachine set store).Meets SavingState.KeepsUnmarked
      (userEventMachine set store).start (labels ++ [label]))
    (ran : (userEventMachine set store).run (userEventMachine set store).start labels = some state)
    (stored : ∃ event ∈ state.world.log, event.normal key = true)
    (replayed : saving.info.kafkaData.getReplay = 1) (calling : state.caller label = some saving)
    (stepped : state.step set label = some next) :
    next.world.store key = state.world.store key := by
  have both := sequential.and meets
  have kept : SavingInv set True state ∧ state.Unmarked key := by
    have start : (userEventMachine set store).start.Unmarked key :=
      fun ⟨_, mem, _⟩ => absurd mem List.not_mem_nil
    apply Machine.run_invariant_of_meets ?_ ⟨SavingInv.start set True store, start⟩
      (Machine.meets_append both) ran
    intro _ _ _ holds guarded stepped
    refine ⟨holds.1.step ?_ stepped, (unmarked_step holds.1 guarded.2 holds.2 stepped).1⟩
    rintro session rfl -
    exact guarded.1
  have guarded := (Machine.meets_of_append both ran).1
  exact (unmarked_step kept.1 guarded.2 kept.2 stepped).2 stored saving calling replayed

/-- Normal data is stored; a session with replayed data comes up to its replay guard. -/
def normalThenReplay : List SavingLabel :=
  .save (savingSession 2 0) :: saveCalls 0 4 ++ .save (savingSession 2 1) :: saveCalls 0 2

theorem replay_keeps_normal_normalThenReplay :
    ∃ state next saving,
      (userEventMachine plainSet fun _ => none).run (userEventMachine plainSet fun _ => none).start
        normalThenReplay = some state ∧
      (∃ event ∈ state.world.log, event.normal savingKey = true) ∧
      state.caller (.advance 0 FlowCall.succeed true) = some saving ∧
      saving.info.kafkaData.getReplay = 1 ∧
      state.step plainSet (.advance 0 FlowCall.succeed true) = some next ∧
      next.world.store savingKey = state.world.store savingKey :=
  ⟨_, _, _, rfl, by decide, rfl, rfl, rfl,
    replay_keeps_normal plainSet (fun _ => none) savingKey normalThenReplay
      (.advance 0 FlowCall.succeed true) _ _ _ (by decide) (by decide) rfl (by decide) rfl rfl rfl⟩

/-- Normal data is stored onto a replayed document and leaves the mark, so that the replay guard
    of a third session finds no normal data. -/
def markedByReplay : List SavingLabel :=
  .save (savingSession 1 1) :: saveCalls 0 6 ++ .save (savingSession 1 0) :: saveCalls 0 5 ++
    .save (savingSession 2 1) :: saveCalls 0 3

theorem replay_overwrites_normal :
    ∃ state next saving,
      (userEventMachine plainSet fun _ => none).Meets SavingState.OneAtATime
        (userEventMachine plainSet fun _ => none).start
        (markedByReplay ++ [.advance 0 FlowCall.succeed true]) ∧
      (userEventMachine plainSet fun _ => none).run (userEventMachine plainSet fun _ => none).start
        markedByReplay = some state ∧
      (∃ event ∈ state.world.log, event.normal savingKey = true) ∧
      state.caller (.advance 0 FlowCall.succeed true) = some saving ∧
      saving.info.kafkaData.getReplay = 1 ∧
      state.step plainSet (.advance 0 FlowCall.succeed true) = some next ∧
      next.world.store savingKey ≠ state.world.store savingKey := by
  refine ⟨_, _, _, by decide, rfl, by decide, rfl, rfl, rfl, fun same => ?_⟩
  have kept := congrArg (fun document : Option Document =>
    document.any fun view => (Condition.eq (.int32 2)).holds (view.lookup "msg_type")) same
  revert kept
  decide

end XBusiness
