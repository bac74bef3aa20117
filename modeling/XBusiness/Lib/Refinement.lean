import XBusiness.Lib.Machine

/-! # Simulation of one machine by another

A concrete machine is simulated by an abstract one when each of its steps can be answered by a run of
the abstract machine, with a relation between their states kept throughout.  The relation may say more
of the concrete states than the abstract ones show, so it also carries the invariants that the answer
needs; what the abstract machine guarantees of its reachable states may be used for free.

* `Simulates` — the relation holds at the start, and every concrete step has its abstract run.
* `Simulates.reachable` — what the concrete machine reaches is related to what the abstract one reaches.
-/

namespace Interaction

namespace Machine

variable {State Label Spec Act : Type} {concrete : Machine State Label} {abstract : Machine Spec Act}

theorem Reachable.run {state final : State} {labels : List Label} (reachable : concrete.Reachable state)
    (ran : concrete.run state labels = some final) : concrete.Reachable final := by
  obtain ⟨before, reached⟩ := reachable
  refine ⟨before ++ labels, ?_⟩
  rw [run_append, reached]
  exact ran

/-- The abstract machine answers every step of the concrete one. -/
structure Simulates (concrete : Machine State Label) (abstract : Machine Spec Act)
    (rel : State → Spec → Prop) : Prop where
  start : rel concrete.start abstract.start
  step : ∀ {state spec label next}, abstract.Reachable spec → rel state spec →
    concrete.step state label = some next → ∃ acts after, abstract.run spec acts = some after ∧ rel next after

variable {rel : State → Spec → Prop}

/-- A run of the concrete machine is answered by the runs of its steps, one after the other. -/
theorem Simulates.run (simulates : Simulates concrete abstract rel) {state final : State} {spec : Spec}
    {labels : List Label} (reachable : abstract.Reachable spec) (related : rel state spec)
    (ran : concrete.run state labels = some final) :
    ∃ acts after, abstract.run spec acts = some after ∧ rel final after := by
  induction labels generalizing state spec with
  | nil =>
    cases ran
    exact ⟨[], spec, rfl, related⟩
  | cons label labels inductionHypothesis =>
    obtain ⟨next, stepped, rest⟩ := run_cons_eq_some ran
    obtain ⟨acts, middle, answered, relatedNext⟩ := simulates.step reachable related stepped
    obtain ⟨more, after, ranMore, relatedFinal⟩ :=
      inductionHypothesis (reachable.run answered) relatedNext rest
    refine ⟨acts ++ more, after, ?_, relatedFinal⟩
    rw [run_append, answered]
    exact ranMore

theorem Simulates.reachable (simulates : Simulates concrete abstract rel) {state : State}
    (reachable : concrete.Reachable state) : ∃ spec, abstract.Reachable spec ∧ rel state spec := by
  obtain ⟨labels, ran⟩ := reachable
  obtain ⟨acts, spec, answered, related⟩ := simulates.run .start simulates.start ran
  exact ⟨spec, ⟨acts, answered⟩, related⟩

end Machine

end Interaction
