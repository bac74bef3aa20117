import XBusiness.Lib.Prog

/-! # Handling a part of the calls

A handler answers some calls of a program from a state of its own and leaves the others to
whoever runs the rest.  `Prog.handled` is the program that remains, so an equation about it
says what a program does to one component of its world and what it still asks of the others.

* `handled_bind` — a sequence is handled part by part, the state being passed on.
* `handled_of_unanswered` — a program that makes no call of the handler is left as it is.
* `handled_inside` — a handler that keeps the state of another one inside its own.
* `Prog.Faultless` — the program ends in a value, whatever its calls are answered.
-/

namespace Interaction

namespace Prog

variable {Request : Type} {Answer : Request → Type} {Fault α β State : Type}

/-- The program with the calls that `answers` knows answered from the state. -/
def handled (answers : State → (request : Request) → Option (Answer request × State)) :
    Prog Request Answer Fault α → State → Prog Request Answer Fault (α × State)
  | ret value, state => ret (value, state)
  | raise fault, _ => raise fault
  | call request next, state =>
    match answers state request with
    | some (answer, after) => (next answer).handled answers after
    | none => call request fun answer => (next answer).handled answers state

section Handled

variable {answers : State → (request : Request) → Option (Answer request × State)}

@[simp] theorem handled_ret (value : α) (state : State) :
    (ret value : Prog Request Answer Fault α).handled answers state = ret (value, state) := rfl

@[simp] theorem handled_raise (fault : Fault) (state : State) :
    (raise fault : Prog Request Answer Fault α).handled answers state = raise fault := rfl

theorem handled_answered {request : Request} {next : Answer request → Prog Request Answer Fault α}
    {state after : State} {answer : Answer request}
    (answered : answers state request = some (answer, after)) :
    (call request next).handled answers state = (next answer).handled answers after := by
  rw [handled, answered]

theorem handled_left {request : Request} {next : Answer request → Prog Request Answer Fault α}
    {state : State} (left : answers state request = none) :
    (call request next).handled answers state =
      call request fun answer => (next answer).handled answers state := by
  rw [handled, left]

theorem handled_bind (program : Prog Request Answer Fault α)
    (continuation : α → Prog Request Answer Fault β) (state : State) :
    (program >>= continuation).handled answers state =
      program.handled answers state >>= fun result =>
        (continuation result.1).handled answers result.2 := by
  induction program generalizing state with
  | ret value => rfl
  | raise fault => rfl
  | call request next inductionHypothesis =>
    rw [call_bind]
    cases answered : answers state request with
    | some result =>
      rw [handled_answered answered, handled_answered answered]
      exact inductionHypothesis result.1 result.2
    | none =>
      rw [handled_left answered, handled_left answered, call_bind]
      congr 1
      exact funext fun answer => inductionHypothesis answer state

/-- The calls of the others pass through, and the state stays. -/
theorem handled_of_unanswered {kind : Request → Prop} {post : α → Prop}
    {program : Prog Request Answer Fault α} (makes : program.Makes kind post) (state : State)
    (unanswered : ∀ request, kind request → answers state request = none) :
    program.handled answers state = program >>= fun value => ret (value, state) := by
  induction program with
  | ret value => rfl
  | raise fault => rfl
  | call request next inductionHypothesis =>
    rw [handled_left (unanswered request makes.1), call_bind]
    congr 1
    exact funext fun answer => inductionHypothesis answer (makes.2 answer)

/-- A handler that keeps the state of another one inside its own, for the calls of a kind. -/
theorem handled_inside {Outer : Type}
    {answersOuter : Outer → (request : Request) → Option (Answer request × Outer)} (embed : State → Outer)
    {kind : Request → Prop} {post : α → Prop} {program : Prog Request Answer Fault α}
    (makes : program.Makes kind post)
    (same : ∀ state request, kind request → answersOuter (embed state) request =
      (answers state request).map fun result => (result.1, embed result.2)) (state : State) :
    program.handled answersOuter (embed state) =
      program.handled answers state >>= fun result => ret (result.1, embed result.2) := by
  induction program generalizing state with
  | ret value => rfl
  | raise fault => rfl
  | call request next inductionHypothesis =>
    have answered := same state request makes.1
    cases inner : answers state request with
    | none =>
      rw [inner] at answered
      rw [handled_left inner, handled_left answered, call_bind]
      congr 1
      exact funext fun answer => inductionHypothesis answer (makes.2 answer) state
    | some result =>
      rw [inner] at answered
      rw [handled_answered inner, handled_answered answered]
      exact inductionHypothesis result.1 (makes.2 result.1) result.2

end Handled

/-- The program ends in a value and never raises, whatever its calls are answered. -/
def Faultless : Prog Request Answer Fault α → Prop
  | ret _ => True
  | raise _ => False
  | call _ next => ∀ answer, (next answer).Faultless

/-- What is made of the value does not matter. -/
theorem faultless_map (function : α → β) (program : Prog Request Answer Fault α) :
    (program >>= fun value => ret (function value)).Faultless ↔ program.Faultless := by
  induction program with
  | ret value => exact Iff.rfl
  | raise fault => exact Iff.rfl
  | call request next inductionHypothesis => exact forall_congr' inductionHypothesis

end Prog

end Interaction
