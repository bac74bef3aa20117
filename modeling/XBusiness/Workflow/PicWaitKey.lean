import Mathlib.Order.Bounds.Basic
import Mathlib.Data.String.Basic
import XBusiness.Workflow.Rendezvous

/-! # The key of a picture wait

An event and the trace of its person name the same pictures, each device in an order of its own
and sometimes twice.  `getPicWaitKey` is a fold over the urls with the empty text both as "no key
yet" and as a last segment that a url may have; it is the greatest element of the set of last
segments that are not empty.  Texts are compared by code points, which is the order of their
bytes.

* `IsLastSegment` — what stands behind the last slash, said without a search.
* `IsWaitKey` — the greatest element of a set of texts, the empty text for the empty set.
* `getPicWaitKey_isWaitKey` — both copies of the fold compute it.
* `getResultOfWait_atKey` — the Redis commands of a picture wait name its record and its lock.
* `pic_wait_key_agrees` — so an event and a trace with the same pictures meet.
-/

namespace XBusiness

open Interaction
open BaseData (greatestSegment)

/-! ## The last segment of a url -/

/-- No slash stands in the segment, and it is the whole url or a slash stands before it. -/
def IsLastSegment (url segment : String) : Prop :=
  '/' ∉ segment.toList ∧ (url = segment ∨ ∃ front, url = front ++ "/" ++ segment)

theorem findLastOf_eq_none {char : Char} {text : List Char} (absent : findLastOf char text = none) :
    char ∉ text := by
  induction text with
  | nil => simp
  | cons first rest inductionHypothesis =>
    simp only [findLastOf] at absent
    cases found : findLastOf char rest with
    | some index => simp [found] at absent
    | none =>
      simp only [found, ite_eq_right_iff, reduceCtorEq, imp_false] at absent
      simp only [List.mem_cons, not_or]
      exact ⟨fun same => absent same.symm, inductionHypothesis found⟩

theorem findLastOf_eq_some {char : Char} {text : List Char} {index : Nat}
    (found : findLastOf char text = some index) :
    text = text.take index ++ char :: text.drop (index + 1) ∧ char ∉ text.drop (index + 1) := by
  induction text generalizing index with
  | nil => cases found
  | cons first rest inductionHypothesis =>
    simp only [findLastOf] at found
    cases later : findLastOf char rest with
    | some position =>
      simp only [later, Option.some.injEq] at found
      subst found
      obtain ⟨split, absent⟩ := inductionHypothesis later
      refine ⟨?_, by simpa using absent⟩
      simpa using split
    | none =>
      simp only [later, Option.ite_none_right_eq_some, Option.some.injEq] at found
      obtain ⟨rfl, rfl⟩ := found
      exact ⟨by simp, by simpa using findLastOf_eq_none later⟩

theorem getsplitstr_isLastSegment (url : String) : IsLastSegment url (getsplitstr url) := by
  unfold getsplitstr
  by_cases empty : url = ""
  · rw [if_neg (by simpa using empty)]
    refine ⟨?_, .inl rfl⟩
    simp [empty]
  · rw [if_pos empty]
    cases found : findLastOf '/' url.toList with
    | none => exact ⟨findLastOf_eq_none found, .inl rfl⟩
    | some index =>
      obtain ⟨split, absent⟩ := findLastOf_eq_some found
      refine ⟨by simpa using absent, .inr ⟨String.ofList (url.toList.take index), ?_⟩⟩
      apply String.toList_injective
      simpa using split

/-- A text is cut at its last slash in one way. -/
theorem append_slash_injective {front front' back back' : List Char}
    (same : front ++ '/' :: back = front' ++ '/' :: back') (absent : '/' ∉ back) (absent' : '/' ∉ back') :
    back = back' := by
  induction front generalizing front' with
  | nil =>
    cases front' with
    | nil => simpa using same
    | cons first rest =>
      simp only [List.nil_append, List.cons_append, List.cons.injEq] at same
      exact absurd (by rw [same.2]; simp) absent
  | cons first rest inductionHypothesis =>
    cases front' with
    | nil =>
      simp only [List.nil_append, List.cons_append, List.cons.injEq] at same
      exact absurd (by rw [← same.2]; simp) absent'
    | cons first' rest' =>
      simp only [List.cons_append, List.cons.injEq] at same
      exact inductionHypothesis same.2

theorem IsLastSegment.unique {url segment other : String} (first : IsLastSegment url segment)
    (second : IsLastSegment url other) : segment = other := by
  obtain ⟨absent, cut⟩ := first
  obtain ⟨absent', cut'⟩ := second
  apply String.toList_injective
  rcases cut with rfl | ⟨front, rfl⟩
  · rcases cut' with rfl | ⟨front', rfl⟩
    · rfl
    · simp at absent
  · rcases cut' with rfl | ⟨front', same⟩
    · simp at absent'
    · have sameList := congrArg String.toList same
      simp only [String.toList_append, List.append_assoc] at sameList
      exact append_slash_injective sameList absent absent'

theorem getsplitstr_eq_iff (url segment : String) : getsplitstr url = segment ↔ IsLastSegment url segment := by
  constructor
  · rintro rfl
    exact getsplitstr_isLastSegment url
  · exact (getsplitstr_isLastSegment url).unique

/-! ## The greatest segment -/

/-- The greatest text of the set; the empty text when there is none. -/
def IsWaitKey (segments : Set String) (key : String) : Prop :=
  (segments = ∅ ∧ key = "") ∨ IsGreatest segments key

theorem IsWaitKey.unique {segments : Set String} {key other : String} (first : IsWaitKey segments key)
    (second : IsWaitKey segments other) : key = other := by
  rcases first with ⟨empty, rfl⟩ | greatest
  · rcases second with ⟨-, rfl⟩ | greatest
    · rfl
    · exact absurd greatest.1 (by simp [empty])
  · rcases second with ⟨empty, rfl⟩ | greatest'
    · exact absurd greatest.1 (by simp [empty])
    · exact greatest.unique greatest'

theorem empty_le (text : String) : "" ≤ text := by
  rw [String.le_iff_toList_le]
  exact not_lt.mp (List.not_lt_nil text.toList)

/-- One round of the loop, the first one included: the empty text is below every other. -/
theorem greatestSegment_cons (maxurl : String) (face : CaptureFace) (rest : List CaptureFace) :
    greatestSegment maxurl (face :: rest) = greatestSegment (max maxurl (getsplitstr face.url)) rest := by
  simp only [greatestSegment]
  by_cases none : maxurl = ""
  · rw [if_pos none, none, max_eq_right (empty_le _)]
  · rw [if_neg none]
    by_cases later : maxurl < getsplitstr face.url
    · rw [if_pos later, max_eq_right (le_of_lt later)]
    · rw [if_neg later, max_eq_left (not_lt.mp later)]

theorem greatestSegment_eq_or_mem (maxurl : String) (faces : List CaptureFace) :
    greatestSegment maxurl faces = maxurl ∨
      ∃ face ∈ faces, getsplitstr face.url = greatestSegment maxurl faces := by
  induction faces generalizing maxurl with
  | nil => exact .inl rfl
  | cons face rest inductionHypothesis =>
    rw [greatestSegment_cons]
    cases inductionHypothesis (max maxurl (getsplitstr face.url)) with
    | inl same =>
      rw [same]
      cases max_choice maxurl (getsplitstr face.url) with
      | inl left => exact .inl left
      | inr right => exact .inr ⟨face, by simp, right.symm⟩
    | inr found =>
      obtain ⟨other, listed, segment⟩ := found
      exact .inr ⟨other, by simp [listed], segment⟩

theorem le_greatestSegment (maxurl : String) (faces : List CaptureFace) :
    maxurl ≤ greatestSegment maxurl faces ∧
      ∀ face ∈ faces, getsplitstr face.url ≤ greatestSegment maxurl faces := by
  induction faces generalizing maxurl with
  | nil => exact ⟨le_refl maxurl, by simp⟩
  | cons face rest inductionHypothesis =>
    rw [greatestSegment_cons]
    obtain ⟨above, all⟩ := inductionHypothesis (max maxurl (getsplitstr face.url))
    refine ⟨le_trans (le_max_left _ _) above, ?_⟩
    intro other listed
    cases List.mem_cons.mp listed with
    | inl same => rw [same]; exact le_trans (le_max_right _ _) above
    | inr listed => exact all other listed

namespace BaseData

/-- The last segments of the pictures that are not empty. -/
def segments (self : BaseData) : Set String :=
  { segment | segment ≠ "" ∧ ∃ face ∈ self.captureFaces, IsLastSegment face.url segment }

theorem mem_segments (self : BaseData) (segment : String) :
    segment ∈ self.segments ↔
      segment ≠ "" ∧ segment ∈ self.captureFaces.map fun face => getsplitstr face.url := by
  simp only [segments, Set.mem_ofPred_eq, List.mem_map, getsplitstr_eq_iff]

/-- The classes that have a `getPicWaitKey`. -/
def WaitsForPictures (self : BaseData) : Prop :=
  self.dataClass = .business ∨ self.dataClass = .capture

theorem getPicWaitKey_eq {self : BaseData} (waits : self.WaitsForPictures) :
    self.getPicWaitKey = greatestSegment "" self.captureFaces := by
  unfold getPicWaitKey
  cases waits with
  | inl business => rw [business]
  | inr capture => rw [capture]

theorem getPicWaitKey_isWaitKey {self : BaseData} (waits : self.WaitsForPictures) :
    IsWaitKey self.segments self.getPicWaitKey := by
  rw [getPicWaitKey_eq waits]
  have above : ∀ segment ∈ self.segments, segment ≤ greatestSegment "" self.captureFaces := by
    rintro segment ⟨-, face, listed, last⟩
    rw [← (getsplitstr_eq_iff face.url segment).mpr last]
    exact (le_greatestSegment "" self.captureFaces).2 face listed
  by_cases none : greatestSegment "" self.captureFaces = ""
  · left
    refine ⟨?_, none⟩
    rw [Set.eq_empty_iff_forall_notMem]
    intro segment mem
    have below := above segment mem
    rw [none] at below
    exact mem.1 (le_antisymm below (empty_le segment))
  · right
    refine ⟨⟨none, ?_⟩, above⟩
    cases greatestSegment_eq_or_mem "" self.captureFaces with
    | inl same => exact absurd same none
    | inr found =>
      obtain ⟨face, listed, segment⟩ := found
      exact ⟨face, listed, (getsplitstr_eq_iff _ _).mp segment⟩

end BaseData

/-! ## The record and the lock -/

/-- A Redis command names the record of the key, or its lock. -/
def FlowCall.AtKey (key : String) : FlowCall → Prop
  | .redisGet name => name = key
  | .redisSet name _ _ nx => name = if nx then lockKeyOf key else key
  | .redisUnlock name _ => name = lockKeyOf key
  | _ => True

/-- Every Redis command of a picture wait names the record or the lock of the key of its session. -/
theorem getResultOfWait_atKey (env : Env) (session : Session) :
    ((getResultOfWait env).run session).Makes (FlowCall.AtKey session.kafkaData.getPicWaitKey)
      fun _ => True := by
  let key := session.kafkaData.getPicWaitKey
  have calls : WaitCalls (FlowCall.AtKey key) key :=
    ⟨rfl, fun _ _ => rfl, fun request sessionCall => by cases request <;> trivial⟩
  have locks : LockCalls (FlowCall.AtKey key) ("lock_" ++ key) :=
    ⟨fun _ _ => rfl, trivial, trivial, fun _ => rfl⟩
  -- nothing of the session is observed: only the commands are gone through
  have own : ∀ body, (getPersonResult env body).Preserves fun _ => () := fun _ _ _ _ _ => rfl
  have makes := getResultOfWait_makes calls locks own
  exact makes.weaken fun _ _ => trivial

/-- The pairing key does not depend on how a device lists its pictures: an event and a trace
    with the same last segments, in any order and with any duplicates, have the same key, which is
    the greatest of them, and their sessions wait at the same record under the same lock. -/
theorem pic_wait_key_agrees (event trace : BaseData) (isEvent : event.dataClass = .business)
    (isTrace : trace.dataClass = .capture) (same : event.segments = trace.segments) :
    event.getPicWaitKey = trace.getPicWaitKey ∧ IsWaitKey event.segments event.getPicWaitKey ∧
      ∀ env (session other : Session), session.kafkaData = event → other.kafkaData = trace →
        ((getResultOfWait env).run session).Makes (FlowCall.AtKey event.getPicWaitKey) (fun _ => True) ∧
          ((getResultOfWait env).run other).Makes (FlowCall.AtKey event.getPicWaitKey) fun _ => True := by
  have ofEvent : IsWaitKey event.segments event.getPicWaitKey :=
    BaseData.getPicWaitKey_isWaitKey (.inl isEvent)
  have ofTrace : IsWaitKey trace.segments trace.getPicWaitKey :=
    BaseData.getPicWaitKey_isWaitKey (.inr isTrace)
  have agrees : event.getPicWaitKey = trace.getPicWaitKey := by
    rw [same] at ofEvent
    exact ofEvent.unique ofTrace
  refine ⟨agrees, ofEvent, ?_⟩
  rintro env session other rfl sameTrace
  refine ⟨getResultOfWait_atKey env session, ?_⟩
  rw [agrees, ← sameTrace]
  exact getResultOfWait_atKey env other

/-- An event that names one of its two pictures twice. -/
def doubledEvent : BaseData where
  dataClass := .business
  payloadType := PayloadType.business
  totalJv := .null
  src := .kafka
  ipc := { timestamp := 0 }
  data := none
  event := { captureUris := [{ url := "s/p/b" }, { url := "a" }, { url := "s/p/b" }] }

/-- A trace with the same two pictures in the other order, and a url that ends in a slash. -/
def reorderedTrace : BaseData where
  dataClass := .capture
  payloadType := PayloadType.trace
  totalJv := .null
  src := .kafka
  ipc := { timestamp := 0 }
  data := none
  capture := { person := { faces := [{ url := "s/a" }, { url := "q/" }, { url := "t/b" }] } }

theorem pic_wait_key_agrees_reordered :
    doubledEvent.getPicWaitKey = "b" ∧ doubledEvent.getPicWaitKey = reorderedTrace.getPicWaitKey := by
  refine ⟨by decide, (pic_wait_key_agrees doubledEvent reorderedTrace rfl rfl ?_).1⟩
  have ofEvent : (doubledEvent.captureFaces.map fun face => getsplitstr face.url) = ["b", "a", "b"] := by
    decide
  have ofTrace : (reorderedTrace.captureFaces.map fun face => getsplitstr face.url) = ["a", "", "b"] := by
    decide
  ext segment
  rw [BaseData.mem_segments, BaseData.mem_segments, ofEvent, ofTrace]
  simp only [List.mem_cons, List.not_mem_nil, or_false]
  tauto

end XBusiness
