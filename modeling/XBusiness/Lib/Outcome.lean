import Mathlib.Data.List.Basic

/-! # Which computations throw

`fault?` is the exception that an `Except` computation ends with, if any.  Its equations follow the
shape of a `do` block, so the exceptions of a reader can be computed from the document alone.

* `fault?_bind`, `fault?_mapM` — sequencing, and a list of computations.
* `fault?_eq_none` — a computation without one returns a value.
-/

namespace Interaction

variable {Fault α β : Type}

/-- The exception that a computation ends with. -/
def fault? : Except Fault α → Option Fault
  | .ok _ => none
  | .error fault => some fault

@[simp] theorem fault?_pure (value : α) : fault? (pure value : Except Fault α) = none := rfl

@[simp] theorem fault?_ok (value : α) : fault? (.ok value : Except Fault α) = none := rfl

@[simp] theorem fault?_error (fault : Fault) : fault? (.error fault : Except Fault α) = some fault := rfl

@[simp] theorem ok_bind (value : α) (continuation : α → Except Fault β) :
    (Except.ok value >>= continuation) = continuation value := rfl

@[simp] theorem error_bind (fault : Fault) (continuation : α → Except Fault β) :
    (Except.error fault >>= continuation) = .error fault := rfl

theorem fault?_eq_none {computation : Except Fault α} :
    fault? computation = none ↔ ∃ value, computation = .ok value := by
  cases computation <;> simp

theorem fault?_eq_some {computation : Except Fault α} {fault : Fault} :
    fault? computation = some fault ↔ computation = .error fault := by
  cases computation <;> simp

theorem fault?_map (function : α → β) (computation : Except Fault α) :
    fault? (function <$> computation) = fault? computation := by
  cases computation <;> rfl

/-- A sequence that returns has returned from its first part. -/
theorem bind_eq_ok {computation : Except Fault α} {continuation : α → Except Fault β} {value : β} :
    computation >>= continuation = .ok value ↔
      ∃ middle, computation = .ok middle ∧ continuation middle = .ok value := by
  cases computation <;> simp

/-- What comes after a computation that returns decides, where it throws whatever was returned. -/
theorem fault?_bind {computation : Except Fault α} {continuation : α → Except Fault β}
    {later : Option Fault} (same : ∀ value, fault? (continuation value) = later) :
    fault? (computation >>= continuation) = (fault? computation).or later := by
  cases computation with
  | error fault => rfl
  | ok value => simp [same]

/-- The first of the computations that throws. -/
theorem fault?_mapM (computation : α → Except Fault β) (values : List α) :
    fault? (values.mapM computation) = values.findSome? fun value => fault? (computation value) := by
  induction values with
  | nil => rfl
  | cons head rest inductionHypothesis =>
    rw [List.mapM_cons, List.findSome?_cons]
    cases computed : computation head with
    | error fault => rfl
    | ok value =>
      simp only [ok_bind, fault?_ok, ← inductionHypothesis]
      cases rest.mapM computation <;> rfl

end Interaction
