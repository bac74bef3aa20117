import Mathlib.Data.List.Basic

/-! # Labelled machines, their runs and their invariants

A machine is a start state and an executable step: from a state and a label it
gives the next state, or `none` when the label is not enabled there.  All the
nondeterminism of a system sits in the labels, so a run is a list of labels and
can be evaluated.

* `run` / `Reachable` — a run, and the states that some run reaches.
* `Reachable.invariant` — the induction over runs, packaged once.
* `Meets` / `run_invariant_of_meets` — the same induction for the runs whose
  steps all meet a condition on the label and on the state before the step.
* `done_of_rank` — a rank that every step lowers bounds the runs.
* `Along` / `along_iff_meets` — the runs that keep an invariant all along, characterised by
  such a condition.
* `observe` / `run_invariant_observed` — what an observer gathers along a run without taking part
  in it, and the induction for an invariant that speaks of it.
-/

namespace Interaction

/-- A start state and a partial step, driven by labels. -/
structure Machine (State Label : Type) where
  start : State
  step : State → Label → Option State

namespace Machine

variable {State Label : Type} (machine : Machine State Label)

/-- The state after the labels, or `none` when one of them is not enabled. -/
def run : State → List Label → Option State
  | state, [] => some state
  | state, label :: labels => (machine.step state label).bind fun next => run next labels

@[simp] theorem run_nil (state : State) : machine.run state [] = some state := rfl

theorem run_cons (state : State) (label : Label) (labels : List Label) :
    machine.run state (label :: labels) =
      (machine.step state label).bind fun next => machine.run next labels := rfl

theorem run_append (state : State) (first second : List Label) :
    machine.run state (first ++ second) =
      (machine.run state first).bind fun next => machine.run next second := by
  induction first generalizing state with
  | nil => rfl
  | cons label labels inductionHypothesis =>
    simp only [List.cons_append, run_cons, Option.bind_assoc]
    congr 1
    funext next
    exact inductionHypothesis next

/-- Some run from the start ends in the state. -/
def Reachable (state : State) : Prop := ∃ labels, machine.run machine.start labels = some state

variable {machine}

theorem run_cons_eq_some {state final : State} {label : Label} {labels : List Label}
    (h : machine.run state (label :: labels) = some final) :
    ∃ next, machine.step state label = some next ∧ machine.run next labels = some final := by
  rw [run_cons] at h
  exact Option.bind_eq_some_iff.mp h

theorem run_append_eq_some {state final : State} {first second : List Label}
    (h : machine.run state (first ++ second) = some final) :
    ∃ middle, machine.run state first = some middle ∧ machine.run middle second = some final := by
  rw [run_append] at h
  exact Option.bind_eq_some_iff.mp h

theorem Reachable.start : machine.Reachable machine.start := ⟨[], rfl⟩

theorem Reachable.step {state next : State} {label : Label} (reachable : machine.Reachable state)
    (stepped : machine.step state label = some next) : machine.Reachable next := by
  obtain ⟨labels, ran⟩ := reachable
  refine ⟨labels ++ [label], ?_⟩
  rw [run_append, ran]
  simp [run_cons, stepped]

/-- What every step preserves, every run preserves. -/
theorem run_invariant {Inv : State → Prop}
    (preserved : ∀ state label next, Inv state → machine.step state label = some next → Inv next)
    {state final : State} {labels : List Label} (holds : Inv state)
    (ran : machine.run state labels = some final) : Inv final := by
  induction labels generalizing state with
  | nil => cases ran; exact holds
  | cons label labels inductionHypothesis =>
    obtain ⟨next, stepped, rest⟩ := run_cons_eq_some ran
    exact inductionHypothesis (preserved _ _ _ holds stepped) rest

/-- What holds at the start and is preserved by every step holds in every reachable state. -/
theorem Reachable.invariant {Inv : State → Prop} (initial : Inv machine.start)
    (preserved : ∀ state label next, Inv state → machine.step state label = some next → Inv next)
    {state : State} (reachable : machine.Reachable state) : Inv state := by
  obtain ⟨labels, ran⟩ := reachable
  exact run_invariant preserved initial ran

/-! ## Runs under a condition on their steps -/

variable (machine)

/-- Every step of the run meets the condition on its label and on the state before it. -/
def Meets (condition : State → Label → Prop) : State → List Label → Prop
  | _, [] => True
  | state, label :: labels =>
    condition state label ∧ ∀ next, machine.step state label = some next → Meets condition next labels

variable {machine}

theorem meets_cons_of_none {condition : State → Label → Prop} {state : State} {label : Label}
    {labels : List Label} (stuck : machine.step state label = none) :
    machine.Meets condition state (label :: labels) ↔ condition state label := by
  simp [Meets, stuck]

theorem meets_cons_of_some {condition : State → Label → Prop} {state next : State} {label : Label}
    {labels : List Label} (stepped : machine.step state label = some next) :
    machine.Meets condition state (label :: labels) ↔
      condition state label ∧ machine.Meets condition next labels := by
  simp [Meets, stepped]

/-- A run can be checked against a decidable condition. -/
instance Meets.decidable {condition : State → Label → Prop}
    [∀ state label, Decidable (condition state label)] :
    ∀ labels state, Decidable (machine.Meets condition state labels)
  | [], _ => isTrue trivial
  | label :: labels, state =>
    match stepped : machine.step state label with
    | none => decidable_of_iff _ (meets_cons_of_none stepped).symm
    | some next =>
      have : Decidable (machine.Meets condition next labels) := Meets.decidable labels next
      decidable_of_iff _ (meets_cons_of_some stepped).symm

theorem meets_append {condition : State → Label → Prop} {state : State} {first second : List Label}
    (meets : machine.Meets condition state (first ++ second)) :
    machine.Meets condition state first := by
  induction first generalizing state with
  | nil => trivial
  | cons label labels inductionHypothesis =>
    obtain ⟨head, tail⟩ := meets
    exact ⟨head, fun next stepped => inductionHypothesis (tail next stepped)⟩

/-- Two conditions that a run meets. -/
theorem Meets.and {first second : State → Label → Prop} {state : State} {labels : List Label}
    (meetsFirst : machine.Meets first state labels) (meetsSecond : machine.Meets second state labels) :
    machine.Meets (fun state label => first state label ∧ second state label) state labels := by
  induction labels generalizing state with
  | nil => trivial
  | cons label labels inductionHypothesis =>
    refine ⟨⟨meetsFirst.1, meetsSecond.1⟩, fun next stepped => ?_⟩
    exact inductionHypothesis (meetsFirst.2 next stepped) (meetsSecond.2 next stepped)

/-- The rest of a run that meets a condition. -/
theorem meets_of_append {condition : State → Label → Prop} {state middle : State}
    {first second : List Label} (meets : machine.Meets condition state (first ++ second))
    (ran : machine.run state first = some middle) : machine.Meets condition middle second := by
  induction first generalizing state with
  | nil => cases ran; exact meets
  | cons label labels inductionHypothesis =>
    obtain ⟨next, stepped, rest⟩ := run_cons_eq_some ran
    exact inductionHypothesis (meets.2 next stepped) rest

/-- What every step that meets the condition preserves, a run of such steps preserves. -/
theorem run_invariant_of_meets {condition : State → Label → Prop} {Inv : State → Prop}
    (preserved : ∀ state label next, Inv state → condition state label →
      machine.step state label = some next → Inv next)
    {state final : State} {labels : List Label} (holds : Inv state)
    (meets : machine.Meets condition state labels)
    (ran : machine.run state labels = some final) : Inv final := by
  induction labels generalizing state with
  | nil => cases ran; exact holds
  | cons label labels inductionHypothesis =>
    obtain ⟨next, stepped, rest⟩ := run_cons_eq_some ran
    exact inductionHypothesis (preserved _ _ _ holds meets.1 stepped) (meets.2 next stepped) rest

/-! ## Runs that come to an end -/

/-- Where every step lowers a rank until the machine is done, a run of as many steps as the rank
    of its first state is done. -/
theorem done_of_rank {Inv done : State → Prop} {rank : State → Nat}
    (preserved : ∀ state label next, Inv state → machine.step state label = some next → Inv next)
    (stays : ∀ state label next, done state → machine.step state label = some next → done next)
    (lowers : ∀ state label next, Inv state → ¬ done state → machine.step state label = some next →
      done next ∨ rank next < rank state)
    (positive : ∀ state, Inv state → ¬ done state → 0 < rank state)
    {state final : State} {labels : List Label} (holds : Inv state)
    (ran : machine.run state labels = some final) (enough : rank state ≤ labels.length) : done final := by
  induction labels generalizing state with
  | nil =>
    cases ran
    by_contra unfinished
    have := positive _ holds unfinished
    simp at enough
    omega
  | cons label labels inductionHypothesis =>
    obtain ⟨next, stepped, rest⟩ := run_cons_eq_some ran
    have doneAfter : done next → done final := fun finished =>
      run_invariant (fun state label next => stays state label next) finished rest
    by_cases finished : done state
    · exact doneAfter (stays _ _ _ finished stepped)
    · cases lowers _ _ _ holds finished stepped with
      | inl finished => exact doneAfter finished
      | inr lower =>
        simp only [List.length_cons] at enough
        exact inductionHypothesis (preserved _ _ _ holds stepped) rest (by omega)

/-! ## Every state of a run -/

variable (machine)

/-- The property holds in the state before each step of the run and in the last one. -/
def Along (property : State → Prop) : State → List Label → Prop
  | state, [] => property state
  | state, label :: labels =>
    property state ∧ ∀ next, machine.step state label = some next → Along property next labels

variable {machine}

theorem Along.head {property : State → Prop} {state : State} {labels : List Label}
    (along : machine.Along property state labels) : property state := by
  cases labels with
  | nil => exact along
  | cons label labels => exact along.1

/-- Where the condition says of each step whether it preserves the invariant, it says of a run
    whether the invariant holds all along. -/
theorem along_iff_meets {condition : State → Label → Prop} {Inv : State → Prop}
    (exactly : ∀ state label next, Inv state → machine.step state label = some next →
      (Inv next ↔ condition state label))
    {state final : State} {labels : List Label} (holds : Inv state)
    (ran : machine.run state labels = some final) :
    machine.Along Inv state labels ↔ machine.Meets condition state labels := by
  induction labels generalizing state with
  | nil => simp [Along, Meets, holds]
  | cons label labels inductionHypothesis =>
    obtain ⟨next, stepped, rest⟩ := run_cons_eq_some ran
    have step := exactly state label next holds stepped
    rw [meets_cons_of_some stepped]
    constructor
    · intro along
      have later := along.2 next stepped
      exact ⟨step.mp later.head, (inductionHypothesis later.head rest).mp later⟩
    · rintro ⟨condition, meets⟩
      refine ⟨holds, fun other steppedOther => ?_⟩
      rw [stepped] at steppedOther
      cases steppedOther
      exact (inductionHypothesis (step.mpr condition) rest).mpr meets

/-! ## Observers -/

variable {Seen : Type} (machine)

/-- What an observer has gathered when the labels were taken; it looks at the state before each
    step. -/
def observe (observer : State → Label → Seen → Seen) : State → List Label → Seen → Seen
  | _, [], seen => seen
  | state, label :: labels, seen =>
    (machine.step state label).elim seen fun next =>
      observe observer next labels (observer state label seen)

variable {machine}

theorem run_invariant_observed {observer : State → Label → Seen → Seen} {Inv : State → Seen → Prop}
    (preserved : ∀ state seen label next, Inv state seen → machine.step state label = some next →
      Inv next (observer state label seen))
    {state final : State} {labels : List Label} {seen : Seen} (holds : Inv state seen)
    (ran : machine.run state labels = some final) : Inv final (machine.observe observer state labels seen) := by
  induction labels generalizing state seen with
  | nil => cases ran; exact holds
  | cons label labels inductionHypothesis =>
    obtain ⟨next, stepped, rest⟩ := run_cons_eq_some ran
    simp only [observe, stepped, Option.elim_some]
    exact inductionHypothesis (preserved _ _ _ _ holds stepped) rest

end Machine

end Interaction
