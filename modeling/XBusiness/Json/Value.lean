import Mathlib.Data.Rat.Floor
import XBusiness.Lib.AssocList

/-! # JSON values as jsoncpp holds them

`Json` is `Json::Value` once it is read: strings are texts, numbers are the integers and
the doubles that the reader produces, and the members of an object are kept in the order
of their names, as in the `std::map` behind it.  The accessors are those the service
calls.  Where jsoncpp would fail an assertion (`isMember` on a string, say) they throw, so
every definition built on them shows which exceptions can leave it.
-/

namespace XBusiness

/-- What ends a call other than by returning: a C++ exception, or undefined behaviour (a null
    dereference, an access past the end). -/
inductive Fault where
  | exception
  | undefined
  deriving DecidableEq, Repr

inductive Json where
  | null
  | int (value : Int)
  | real (value : Rat)
  | string (value : String)
  | bool (value : Bool)
  | array (values : List Json)
  | object (members : List (String × Json))

namespace Json

/-! ## Numbers -/

/-- The double nearest to an integer, ties to even. -/
def doubleOfInt (value : Int) : Int :=
  if value.natAbs < 2 ^ 53 then value
  else
    let unit := 2 ^ (value.natAbs.log2 - 52)
    let quotient := value.natAbs / unit
    let rest := value.natAbs % unit
    let rounded :=
      if unit < 2 * rest ∨ (2 * rest = unit ∧ quotient % 2 = 1) then quotient + 1 else quotient
    value.sign * (rounded * unit)

/-- `isInt` and `asInt`. -/
def int? : Json → Option Int
  | int value => if -2 ^ 31 ≤ value ∧ value < 2 ^ 31 then some value else none
  | real value => if -2 ^ 31 ≤ value ∧ value < 2 ^ 31 ∧ value.den = 1 then some value.num else none
  | _ => none

/-- `isInt64` and `asInt64`. -/
def int64? : Json → Option Int
  | int value => if -2 ^ 63 ≤ value ∧ value < 2 ^ 63 then some value else none
  | real value => if -2 ^ 63 ≤ value ∧ value < 2 ^ 63 ∧ value.den = 1 then some value.num else none
  | _ => none

/-- `isDouble` and `asDouble`. -/
def double? : Json → Option Rat
  | int value => some (doubleOfInt value)
  | real value => some value
  | _ => none

/-- `asUInt`, which throws on what does not convert.  A double is compared with `maxUInt` before it is
    truncated. -/
def asUInt : Json → Except Fault Int
  | null => .ok 0
  | int value => if 0 ≤ value ∧ value < 2 ^ 32 then .ok value else .error .exception
  | real value => if 0 ≤ value ∧ value ≤ 4294967295 then .ok value.floor else .error .exception
  | bool value => .ok (if value then 1 else 0)
  | _ => .error .exception

/-! ## Other kinds -/

/-- `isString` and `asString`. -/
def string? : Json → Option String
  | string value => some value
  | _ => none

/-- `isBool` and `asBool`. -/
def bool? : Json → Option Bool
  | bool value => some value
  | _ => none

/-- `isArray`, with the elements. -/
def array? : Json → Option (List Json)
  | array values => some values
  | _ => none

/-- `isObject`, with the object itself. -/
def object? : Json → Option Json
  | object members => some (object members)
  | _ => none

/-- `size`. -/
def size : Json → Nat
  | array values => values.length
  | object members => members.length
  | _ => 0

/-! ## Members and elements -/

/-- `isMember`: an assertion of jsoncpp wants an object or null. -/
def isMember (json : Json) (name : String) : Except Fault Bool :=
  match json with
  | null => .ok false
  | object members => .ok (members.lookup name).isSome
  | _ => .error .exception

/-- `operator[]` with a name. -/
def member (json : Json) (name : String) : Except Fault Json :=
  match json with
  | null => .ok null
  | object members => .ok ((members.lookup name).getD null)
  | _ => .error .exception

/-- `operator[]` with an index. -/
def element (json : Json) (index : Nat) : Except Fault Json :=
  match json with
  | null => .ok null
  | array values => .ok (values.getD index null)
  | _ => .error .exception

/-- The test `isMember(name) && json[name].isX()` with the `asX()` that follows it. -/
def member? {α : Type} (json : Json) (name : String) (read : Json → Option α) :
    Except Fault (Option α) := do
  if ← json.isMember name then
    return read (← json.member name)
  else
    return none

/-- The same test on a field that keeps its value when the member is absent or of another
    kind. -/
def memberD {α : Type} (json : Json) (name : String) (read : Json → Option α) (value : α) :
    Except Fault α := do
  return (← json.member? name read).getD value

/-- Insertion in the order of the names, replacing the member of that name. -/
def insertMember (name : String) (value : Json) : List (String × Json) → List (String × Json)
  | [] => [(name, value)]
  | (other, kept) :: rest =>
    if name < other then (name, value) :: (other, kept) :: rest
    else if name = other then (name, value) :: rest
    else (other, kept) :: insertMember name value rest

/-- `json[name] = value` on an object or null. -/
def set (json : Json) (name : String) (value : Json) : Json :=
  match json with
  | object members => object (insertMember name value members)
  | _ => object [(name, value)]

/-- `append`. -/
def append (json : Json) (value : Json) : Except Fault Json :=
  match json with
  | null => .ok (array [value])
  | array values => .ok (array (values ++ [value]))
  | _ => .error .exception

/-- Equality with an integer constant, which never holds of a double. -/
def isIntConst (json : Json) (constant : Int) : Bool :=
  match json with
  | int value => value = constant
  | _ => false

end Json

namespace Json

/-! ## Which accesses throw -/

/-- A value that can be asked for members. -/
def hasMembers : Json → Bool
  | null => true
  | object _ => true
  | _ => false

/-- The member of that name, where there is one. -/
def find? (json : Json) (name : String) : Option Json :=
  match json with
  | object members => members.lookup name
  | _ => none

/-- `isConvertibleTo(uintValue)`, on values that `asUInt` is asked of. -/
def convertsToUInt : Json → Bool
  | null => true
  | int value => decide (0 ≤ value ∧ value < 2 ^ 32)
  | real value => decide (0 ≤ value ∧ value ≤ 4294967295)
  | bool _ => true
  | _ => false

section Access

variable {α : Type} {json : Json}

theorem member_eq (has : json.hasMembers = true) (name : String) :
    json.member name = .ok ((json.find? name).getD null) := by
  cases json <;> first | rfl | cases has

theorem member?_eq (has : json.hasMembers = true) (name : String) (read : Json → Option α) :
    json.member? name read = .ok ((json.find? name).bind read) := by
  cases json with
  | null => rfl
  | object members =>
    simp only [member?, isMember, member, find?, pure, Except.pure, bind, Except.bind]
    cases members.lookup name <;> rfl
  | _ => cases has

theorem memberD_eq (has : json.hasMembers = true) (name : String) (read : Json → Option α) (value : α) :
    json.memberD name read value = .ok (((json.find? name).bind read).getD value) := by
  rw [memberD, member?_eq has]
  rfl

theorem member?_error (hasNot : json.hasMembers = false) (name : String) (read : Json → Option α) :
    json.member? name read = .error .exception := by
  cases json <;> first | rfl | cases hasNot

theorem memberD_error (hasNot : json.hasMembers = false) (name : String) (read : Json → Option α)
    (value : α) : json.memberD name read value = .error .exception := by
  rw [memberD, member?_error hasNot]
  rfl

/-- What `isObject` holds of can be asked for members. -/
theorem hasMembers_of_object {found : Option Json} {value : Json}
    (isObject : found.bind object? = some value) : value.hasMembers = true := by
  obtain ⟨json, -, isObject⟩ := Option.bind_eq_some_iff.mp isObject
  cases json with
  | object members => cases isObject; rfl
  | _ => cases isObject

theorem asUInt_eq (converts : json.convertsToUInt = true) : ∃ value, json.asUInt = .ok value := by
  cases json with
  | null => exact ⟨0, rfl⟩
  | int value => exact ⟨value, if_pos (of_decide_eq_true converts)⟩
  | real value => exact ⟨value.floor, if_pos (of_decide_eq_true converts)⟩
  | bool value => exact ⟨_, rfl⟩
  | _ => cases converts

theorem asUInt_error (convertsNot : json.convertsToUInt = false) : json.asUInt = .error .exception := by
  cases json with
  | int value => exact if_neg (of_decide_eq_false convertsNot)
  | real value => exact if_neg (of_decide_eq_false convertsNot)
  | null => cases convertsNot
  | bool value => cases convertsNot
  | _ => rfl

end Access

/-! ## What writing a member changes -/

section Write

open Interaction

variable (name : String) (value : Json)

theorem lookup_insertMember (key : String) (members : List (String × Json)) :
    (insertMember name value members).lookup key = if key = name then some value else members.lookup key := by
  induction members with
  | nil => exact lookup_cons_ite key name value []
  | cons member rest inductionHypothesis =>
    obtain ⟨other, kept⟩ := member
    rw [insertMember]
    by_cases before : name < other
    · rw [if_pos before, lookup_cons_ite]
    · rw [if_neg before]
      by_cases replaced : name = other
      · subst replaced
        rw [if_pos rfl, lookup_cons_ite, lookup_cons_ite]
        by_cases same : key = name
        · rw [if_pos same, if_pos same]
        · rw [if_neg same, if_neg same, if_neg same]
      · rw [if_neg replaced, lookup_cons_ite, lookup_cons_ite, inductionHypothesis]
        by_cases found : key = other
        · rw [if_pos found, if_neg fun same => replaced (same.symm.trans found), if_pos found]
        · rw [if_neg found, if_neg found]

/-- Writing a member leaves the others as they are. -/
@[simp] theorem find?_set (json : Json) (key : String) :
    (json.set name value).find? key = if key = name then some value else json.find? key := by
  cases json with
  | object members => exact lookup_insertMember name value key members
  | _ => exact lookup_cons_ite key name value []

theorem insertMember_insertMember (kept : Json) (members : List (String × Json)) :
    insertMember name value (insertMember name kept members) = insertMember name value members := by
  induction members with
  | nil => simp [insertMember]
  | cons member rest inductionHypothesis =>
    obtain ⟨other, found⟩ := member
    simp only [insertMember]
    by_cases before : name < other
    · simp [before, insertMember]
    · by_cases same : name = other
      · simp [same, insertMember]
      · simp [before, same, insertMember, inductionHypothesis]

/-- A member that is written again has the last value. -/
@[simp] theorem set_set (json kept : Json) : (json.set name kept).set name value = json.set name value := by
  cases json with
  | object members => exact congrArg object (insertMember_insertMember name value kept members)
  | _ => simp [set, insertMember]

end Write

end Json

/-! ## Reading and writing texts -/

/-- What the service uses of jsoncpp's text layer.  A reader gives no value for a text that
    does not parse and throws on one nested too deeply. -/
structure JsonText where
  reader : String → Except Fault (Option Json)
  charReader : String → Except Fault (Option Json)
  toStyledString : Json → String
  realToString : Rat → String

namespace JsonText

/-- `hobotcommon::parse_json`. -/
def parseJson (text : JsonText) (input : String) : Option Json :=
  match text.charReader input with
  | .ok (some json) => json.object?
  | _ => none

/-- `asString`, which converts scalars and throws on arrays and objects. -/
def asString (text : JsonText) : Json → Except Fault String
  | .null => .ok ""
  | .int value => .ok (toString value)
  | .real value => .ok (text.realToString value)
  | .string value => .ok value
  | .bool value => .ok (if value then "true" else "false")
  | .array _ => .error .exception
  | .object _ => .error .exception

/-- What `parse_json` returns is an object. -/
theorem hasMembers_of_parseJson {text : JsonText} {input : String} {json : Json}
    (parsed : text.parseJson input = some json) : json.hasMembers = true := by
  unfold parseJson at parsed
  split at parsed
  · next found _ =>
    have isObject : (some found).bind Json.object? = some json := parsed
    exact Json.hasMembers_of_object isObject
  · cases parsed

end JsonText

/-- Reads the texts of a table and nothing else. -/
def tableText (table : List (String × Json)) : JsonText where
  reader input := .ok (table.lookup input)
  charReader input := .ok (table.lookup input)
  toStyledString _ := ""
  realToString _ := ""

end XBusiness
