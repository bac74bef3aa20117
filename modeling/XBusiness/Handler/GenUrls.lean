import XBusiness.Lib.Outcome
import XBusiness.Handler.PreHandler

/-! # The results of the url generation

`GetGenUrl` reads one element of `resultlist` for each face, in order, and stops at the first one that
is not complete.

* `readGenUrl_eq`, `readGenUrl_error` — what is read of one element.
* `genFaceUrls_eq` — the loop over the faces, from the elements alone.
-/

namespace XBusiness

open Interaction

/-! ## One element -/

/-- The url and its expiry, where the element has an error code, a url and an expiry. -/
def genUrlOf (result : Json) : Option (Bool × String × Int) :=
  ((result.find? "errorcode").bind Json.int?).bind fun _ =>
    ((result.find? "url").bind Json.string?).bind fun url =>
      ((result.find? "expiretime").bind Json.int?).map fun expire =>
        (((result.find? "errorcode").getD .null).isIntConst 1, url, expire)

theorem readGenUrl_eq {result : Json} (has : result.hasMembers = true) :
    readGenUrl result = .ok (genUrlOf result) := by
  unfold readGenUrl genUrlOf
  simp only [Json.member?_eq has, Json.member_eq has, ok_bind]
  cases (result.find? "errorcode").bind Json.int? with
  | none => rfl
  | some code =>
    simp only [Option.bind_some]
    cases (result.find? "url").bind Json.string? with
    | none => rfl
    | some url =>
      simp only [Option.bind_some]
      cases (result.find? "expiretime").bind Json.int? <;> rfl

theorem readGenUrl_error {result : Json} (hasNot : result.hasMembers = false) :
    readGenUrl result = .error .exception := by
  rw [readGenUrl, Json.member?_error hasNot]
  rfl

/-- What has no members is not complete. -/
theorem hasMembers_of_genUrlOf {result : Json} {read : Bool × String × Int}
    (complete : genUrlOf result = some read) : result.hasMembers = true := by
  cases result with
  | null => rfl
  | object members => rfl
  | _ => cases complete

/-! ## The loop -/

/-- The first element that is not complete is asked for members, and throws where it has none. -/
def unreadable (results : List Json) : Option Fault :=
  (results.find? fun result => (genUrlOf result).isNone).bind fun result =>
    if result.hasMembers then none else some .exception

/-- The elements are complete. -/
def allGenerated (results : List Json) : Bool := results.all fun result => (genUrlOf result).isSome

@[simp] theorem unreadable_nil : unreadable [] = none := rfl

theorem unreadable_cons_complete {result : Json} {read : Bool × String × Int}
    (complete : genUrlOf result = some read) (rest : List Json) :
    unreadable (result :: rest) = unreadable rest := by
  simp [unreadable, complete]

theorem unreadable_cons_incomplete {result : Json} (incomplete : genUrlOf result = none) (rest : List Json) :
    unreadable (result :: rest) = if result.hasMembers then none else some .exception := by
  simp [unreadable, incomplete]

theorem unreadable_of_all {results : List Json} (all : allGenerated results = true) :
    unreadable results = none := by
  have none : (results.find? fun result => (genUrlOf result).isNone) = none := by
    simpa [allGenerated, Option.isSome_iff_ne_none] using all
  rw [unreadable, none]
  rfl

/-- Complete elements are passed. -/
theorem unreadable_append (front back : List Json) :
    unreadable (front ++ back) = if allGenerated front then unreadable back else unreadable front := by
  induction front with
  | nil => rfl
  | cons result rest inductionHypothesis =>
    cases read : genUrlOf result with
    | none => simp [unreadable_cons_incomplete read, allGenerated, read]
    | some complete =>
      rw [List.cons_append, unreadable_cons_complete read, unreadable_cons_complete read, inductionHypothesis]
      simp [allGenerated, read]

/-- A face with what was generated for it. -/
def CaptureFace.generatedBy (face : CaptureFace) (result : Json) : CaptureFace :=
  match genUrlOf result with
  | some (true, url, expire) => { face with genUrl := url, genUrlExpire := expire }
  | _ => face

section Loop

variable {results front back : List Json} {index : Nat} {faces : List CaptureFace}

theorem element_of_drop {result : Json} {rest : List Json} (split : results.drop index = result :: rest) :
    (Json.array results).element index = .ok result ∧ results.drop (index + 1) = rest := by
  have found : results[index]? = some result := by
    rw [← List.head?_drop, split]
    rfl
  constructor
  · rw [Json.element, List.getD_eq_getElem?_getD, found]
    rfl
  · rw [← List.tail_drop, split]
    rfl

/-- The loop throws on the first element that is not complete, or it returns whether all of them are,
    and then every face has what was generated for it. -/
theorem genFaceUrls_eq (split : results.drop index = front ++ back) (same : front.length = faces.length) :
    fault? (genFaceUrls (.array results) index faces) = unreadable front ∧
      ∀ complete updated, genFaceUrls (.array results) index faces = .ok (complete, updated) →
        complete = allGenerated front ∧
          (complete = true → updated = List.zipWith CaptureFace.generatedBy faces front) := by
  induction faces generalizing index front with
  | nil =>
    obtain rfl := List.eq_nil_of_length_eq_zero same
    refine ⟨rfl, ?_⟩
    rintro _ _ ⟨⟩
    exact ⟨rfl, fun _ => rfl⟩
  | cons face rest inductionHypothesis =>
    cases front with
    | nil => cases same
    | cons result front =>
      obtain ⟨found, splitRest⟩ := element_of_drop split
      obtain ⟨faultRest, okRest⟩ := inductionHypothesis splitRest (Nat.succ.inj same)
      cases read : genUrlOf result with
      | none =>
        rw [genFaceUrls, found, ok_bind, unreadable_cons_incomplete read]
        -- an element that is no object throws; one without the members ends the loop with false
        cases has : result.hasMembers with
        | false =>
          rw [readGenUrl_error has]
          refine ⟨rfl, ?_⟩
          rintro _ _ ⟨⟩
        | true =>
          rw [readGenUrl_eq has, read]
          refine ⟨rfl, ?_⟩
          rintro _ _ ⟨⟩
          exact ⟨by simp [allGenerated, read], fun complete => nomatch complete⟩
      | some complete =>
        obtain ⟨generated, url, expire⟩ := complete
        rw [genFaceUrls, found, ok_bind, readGenUrl_eq (hasMembers_of_genUrlOf read), read,
          unreadable_cons_complete read, ← faultRest]
        -- a complete element leaves the outcome to the rest
        simp only [ok_bind]
        cases looped : genFaceUrls (.array results) (index + 1) rest with
        | error fault =>
          refine ⟨rfl, ?_⟩
          rintro _ _ ⟨⟩
        | ok loop =>
          obtain ⟨complete, updated⟩ := loop
          obtain ⟨all, zipped⟩ := okRest complete updated looped
          refine ⟨rfl, ?_⟩
          rintro _ _ ⟨⟩
          refine ⟨by simp [allGenerated, read, all], fun complete => ?_⟩
          rw [zipped complete]
          cases generated <;> simp [CaptureFace.generatedBy, read]

end Loop

end XBusiness
