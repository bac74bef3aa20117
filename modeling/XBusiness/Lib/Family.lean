import Mathlib.Logic.Function.Basic
import XBusiness.Lib.Machine

/-! # Machines side by side

Many copies of one machine that come into being one after the other, each under a key of its own and
in a state that it may begin in.  They share nothing: a step of one leaves the others as they are.

* `family` — the machine of all of them.
* `family_member` — each member is in a state that the machine reaches on its own.
* `observed` — a machine together with what an observer has gathered along its run.
-/

namespace Interaction

namespace Machine

variable {Key State Label Seen : Type} [DecidableEq Key]

/-- A member begins, or the member with the key takes a step. -/
inductive FamilyLabel (Key State Label : Type) where
  | begin (key : Key) (start : State)
  | move (key : Key) (label : Label)

open Classical in
/-- The members by their keys, none of them at first. -/
noncomputable def family (step : State → Label → Option State) (begins : Key → State → Prop) :
    Machine (Key → Option State) (FamilyLabel Key State Label) where
  start := fun _ => none
  step members
    | .begin key start =>
      if members key = none ∧ begins key start then some (Function.update members key (some start)) else none
    | .move key label =>
      (members key).bind fun state =>
        (step state label).map fun next => Function.update members key (some next)

variable {step : State → Label → Option State} {begins : Key → State → Prop}
  {members : Key → Option State} {key : Key} {state next : State}

theorem family_begin (free : members key = none) (start : begins key state) :
    (family step begins).run members [.begin key state] = some (Function.update members key (some state)) := by
  rw [run_cons]
  simp [family, free, start]

theorem family_move {label : Label} (found : members key = some state) (stepped : step state label = some next) :
    (family step begins).run members [.move key label] = some (Function.update members key (some next)) := by
  rw [run_cons]
  simp [family, found, stepped]

/-- A member has got where it is by steps of its own. -/
theorem family_member (reachable : (family step begins).Reachable members) (found : members key = some state) :
    ∃ start, begins key start ∧ Reachable ⟨start, step⟩ state := by
  suffices all : ∀ key state, members key = some state →
      ∃ start, begins key start ∧ Reachable ⟨start, step⟩ state from all key state found
  refine @Reachable.invariant _ _ _ (fun members => ∀ key state, members key = some state →
    ∃ start, begins key start ∧ Reachable ⟨start, step⟩ state) ?_ ?_ _ reachable
  · intro key state impossible
    cases impossible
  · intro before label after holds stepped key state found
    cases label with
    | begin newcomer start =>
      simp only [family, Option.ite_none_right_eq_some, Option.some.injEq] at stepped
      obtain ⟨⟨-, mayBegin⟩, rfl⟩ := stepped
      by_cases same : key = newcomer
      · subst same
        rw [Function.update_self] at found
        cases found
        exact ⟨state, mayBegin, .start⟩
      · rw [Function.update_of_ne same] at found
        exact holds key state found
    | move mover label =>
      simp only [family, Option.bind_eq_some_iff, Option.map_eq_some_iff] at stepped
      obtain ⟨old, present, new, moved, rfl⟩ := stepped
      by_cases same : key = mover
      · subst same
        rw [Function.update_self] at found
        cases found
        obtain ⟨start, mayBegin, reached⟩ := holds key old present
        exact ⟨start, mayBegin, reached.step moved⟩
      · rw [Function.update_of_ne same] at found
        exact holds key state found

/-! ## With an observer -/

/-- The machine with what the observer has gathered so far. -/
def observed (machine : Machine State Label) (observer : State → Label → Seen → Seen) (seen : Seen) :
    Machine (State × Seen) Label where
  start := (machine.start, seen)
  step both label := (machine.step both.1 label).map fun next => (next, observer both.1 label both.2)

theorem run_observed {machine : Machine State Label} {observer : State → Label → Seen → Seen}
    {first seen : Seen} {state final : State} {labels : List Label}
    (ran : machine.run state labels = some final) :
    (machine.observed observer first).run (state, seen) labels =
      some (final, machine.observe observer state labels seen) := by
  induction labels generalizing state seen with
  | nil => cases ran; rfl
  | cons label labels inductionHypothesis =>
    obtain ⟨next, stepped, rest⟩ := run_cons_eq_some ran
    rw [run_cons]
    simp only [observed, stepped, observe, Option.map_some, Option.bind_some, Option.elim_some]
    exact inductionHypothesis rest

end Machine

end Interaction
