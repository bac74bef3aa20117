import Mathlib.Data.List.Forall2
import XBusiness.Lib.Prog

/-! # Two programs side by side

A coupling says which call of one program may stand beside which call of another, and how
their answers are then related.  `Prog.Coupled` holds of two programs that make calls side by
side from beginning to end, as long as their answers are related; `StateProg.Coupled` is the
same for programs that work on an object.

* `Coupled.bind`, `Coupled.mono` — sequencing and consequence, as in a relational Hoare logic.
* `Coupled.observed` — coupled programs keep observers in related states.
* `Coupled.calls` — under related answers the calls of the two programs are related one by one.
-/

namespace Interaction

/-- The calls that may be made side by side, with the relation of their answers. -/
abbrev Coupling (Request : Type) (Answer : Request → Type) :=
  (first second : Request) → (Answer first → Answer second → Prop) → Prop

namespace Prog

variable {Request : Type} {Answer : Request → Type} {Fault α β α' β' State : Type}

/-- The programs make their calls side by side, raise the same fault or return related values. -/
inductive Coupled (coupling : Coupling Request Answer) (post : α → β → Prop) :
    Prog Request Answer Fault α → Prog Request Answer Fault β → Prop where
  | ret {value : α} {other : β} (related : post value other) :
      Coupled coupling post (.ret value) (.ret other)
  | raise (fault : Fault) : Coupled coupling post (.raise fault) (.raise fault)
  | call {first second : Request} {answers : Answer first → Answer second → Prop}
      {next : Answer first → Prog Request Answer Fault α}
      {nextSecond : Answer second → Prog Request Answer Fault β}
      (together : coupling first second answers)
      (rest : ∀ answer other, answers answer other →
        Coupled coupling post (next answer) (nextSecond other)) :
      Coupled coupling post (.call first next) (.call second nextSecond)

variable {coupling : Coupling Request Answer}

theorem Coupled.mono {post weaker : α → β → Prop} {program : Prog Request Answer Fault α}
    {second : Prog Request Answer Fault β} (coupled : Coupled coupling post program second)
    (weaken : ∀ value other, post value other → weaker value other) :
    Coupled coupling weaker program second := by
  induction coupled with
  | ret related => exact .ret (weaken _ _ related)
  | raise fault => exact .raise fault
  | call together _ inductionHypothesis => exact .call together inductionHypothesis

/-- What the first program returns, it returns beside the second one. -/
theorem Coupled.and_makes {kind : Request → Prop} {returns : α → Prop} {post : α → β → Prop}
    {program : Prog Request Answer Fault α} {second : Prog Request Answer Fault β}
    (coupled : Coupled coupling post program second) (makes : program.Makes kind returns) :
    Coupled coupling (fun value other => post value other ∧ returns value) program second := by
  induction coupled with
  | ret related => exact .ret ⟨related, makes⟩
  | raise fault => exact .raise fault
  | call together _ inductionHypothesis =>
    exact .call together fun answer other answers => inductionHypothesis answer other answers (makes.2 answer)

/-- A program beside itself, where its calls may stand beside themselves with equal answers. -/
theorem Coupled.refl {kind : Request → Prop} {post : α → Prop} {program : Prog Request Answer Fault α}
    (makes : program.Makes kind post) (together : ∀ request, kind request → coupling request request Eq) :
    Coupled coupling Eq program program := by
  induction program with
  | ret value => exact .ret rfl
  | raise fault => exact .raise fault
  | call request next inductionHypothesis =>
    refine .call (together request makes.1) ?_
    rintro answer _ rfl
    exact inductionHypothesis answer (makes.2 answer)

theorem Coupled.bind {middle : α → β → Prop} {post : α' → β' → Prop}
    {program : Prog Request Answer Fault α} {second : Prog Request Answer Fault β}
    {continuation : α → Prog Request Answer Fault α'}
    {continuationSecond : β → Prog Request Answer Fault β'}
    (coupled : Coupled coupling middle program second)
    (coupledRest : ∀ value other, middle value other →
      Coupled coupling post (continuation value) (continuationSecond other)) :
    Coupled coupling post (program >>= continuation) (second >>= continuationSecond) := by
  induction coupled with
  | ret related => exact coupledRest _ _ related
  | raise fault => exact .raise fault
  | call together _ inductionHypothesis => exact .call together inductionHypothesis

/-! ## Observers -/

/-- The program with a state that watches its calls. -/
def observed (watch : State → Request → State) :
    Prog Request Answer Fault α → State → Prog Request Answer Fault (α × State)
  | ret value, state => ret (value, state)
  | raise fault, _ => raise fault
  | call request next, state =>
    call request fun answer => (next answer).observed watch (watch state request)

theorem Coupled.observed {post : α → β → Prop} {states : State → State → Prop}
    {watch : State → Request → State} {program : Prog Request Answer Fault α}
    {second : Prog Request Answer Fault β} (coupled : Coupled coupling post program second)
    (watched : ∀ state other first second answers answer otherAnswer, coupling first second answers →
      answers answer otherAnswer → states state other → states (watch state first) (watch other second))
    {state other : State} (related : states state other) :
    Coupled coupling (fun result resultSecond => post result.1 resultSecond.1 ∧
      states result.2 resultSecond.2) (program.observed watch state) (second.observed watch other) := by
  induction coupled generalizing state other with
  | ret returned => exact .ret ⟨returned, related⟩
  | raise fault => exact .raise fault
  | call together _ inductionHypothesis =>
    refine .call together fun answer otherAnswer answers => ?_
    exact inductionHypothesis answer otherAnswer answers
      (watched _ _ _ _ _ answer otherAnswer together answers related)

/-! ## Runs -/

/-- The calls that the program makes when the call with the number `index` and those after it
    are answered by the function. -/
def calls (answer : Nat → (request : Request) → Answer request) :
    Prog Request Answer Fault α → Nat → List Request
  | ret _, _ => []
  | raise _, _ => []
  | call request next, index => request :: (next (answer index request)).calls answer (index + 1)

/-- The answers need only be related for the calls that the first program makes. -/
theorem Coupled.calls_of_made {post : α → β → Prop} {program : Prog Request Answer Fault α}
    {second : Prog Request Answer Fault β} (coupled : Coupled coupling post program second)
    {answer other : Nat → (request : Request) → Answer request} {made : Request → Prop}
    (agree : ∀ index first second answers, coupling first second answers → made first →
      answers (answer index first) (other index second)) (index : Nat)
    (makes : ∀ request ∈ program.calls answer index, made request) :
    List.Forall₂ (fun first second => ∃ answers, coupling first second answers)
      (program.calls answer index) (second.calls other index) := by
  induction coupled generalizing index with
  | ret related => exact .nil
  | raise fault => exact .nil
  | call together _ inductionHypothesis =>
    refine .cons ⟨_, together⟩ ?_
    apply inductionHypothesis
    · exact agree index _ _ _ together (makes _ List.mem_cons_self)
    · exact fun request later => makes request (List.mem_cons_of_mem _ later)

theorem Coupled.calls {post : α → β → Prop} {program : Prog Request Answer Fault α}
    {second : Prog Request Answer Fault β} (coupled : Coupled coupling post program second)
    {answer other : Nat → (request : Request) → Answer request}
    (agree : ∀ index first second answers, coupling first second answers →
      answers (answer index first) (other index second)) (index : Nat) :
    List.Forall₂ (fun first second => ∃ answers, coupling first second answers)
      (program.calls answer index) (second.calls other index) := by
  have made : ∀ request ∈ program.calls answer index, True := fun _ _ => trivial
  exact coupled.calls_of_made (fun index _ _ _ together _ => agree index _ _ _ together) index made

end Prog

/-! ## Programs that work on an object -/

namespace StateProg

variable {Request : Type} {Answer : Request → Type} {Fault σ α β α' β' : Type}
variable {coupling : Coupling Request Answer} {objects : σ → σ → Prop}

/-- The programs are coupled from related objects on, and leave related objects. -/
def Coupled (coupling : Coupling Request Answer) (objects : σ → σ → Prop) (values : α → β → Prop)
    (program : StateT σ (Prog Request Answer Fault) α)
    (second : StateT σ (Prog Request Answer Fault) β) : Prop :=
  ∀ object other, objects object other →
    Prog.Coupled coupling (fun result resultSecond => values result.1 resultSecond.1 ∧
      objects result.2 resultSecond.2) (program.run object) (second.run other)

theorem Coupled.pure {values : α → β → Prop} {value : α} {other : β} (related : values value other) :
    Coupled coupling objects values (Pure.pure value : StateT σ (Prog Request Answer Fault) α)
      (Pure.pure other) :=
  fun _ _ objectsRelated => .ret ⟨related, objectsRelated⟩

theorem Coupled.bind {middle : α → β → Prop} {values : α' → β' → Prop}
    {program : StateT σ (Prog Request Answer Fault) α} {second : StateT σ (Prog Request Answer Fault) β}
    {continuation : α → StateT σ (Prog Request Answer Fault) α'}
    {continuationSecond : β → StateT σ (Prog Request Answer Fault) β'}
    (coupled : Coupled coupling objects middle program second)
    (coupledRest : ∀ value other, middle value other →
      Coupled coupling objects values (continuation value) (continuationSecond other)) :
    Coupled coupling objects values (program >>= continuation) (second >>= continuationSecond) :=
  fun object other related => Prog.Coupled.bind (coupled object other related)
    fun result resultSecond returned => coupledRest result.1 resultSecond.1 returned.1 result.2
      resultSecond.2 returned.2

theorem Coupled.get {values : α → β → Prop}
    {continuation : σ → StateT σ (Prog Request Answer Fault) α}
    {continuationSecond : σ → StateT σ (Prog Request Answer Fault) β}
    (coupled : ∀ object other, objects object other →
      Coupled coupling objects values (continuation object) (continuationSecond other)) :
    Coupled coupling objects values (MonadState.get >>= continuation)
      (MonadState.get >>= continuationSecond) :=
  fun object other related => coupled object other related object other related

theorem Coupled.modify {change changeSecond : σ → σ}
    (kept : ∀ object other, objects object other → objects (change object) (changeSecond other)) :
    Coupled coupling objects Eq
      (modify change : StateT σ (Prog Request Answer Fault) PUnit) (modify changeSecond) :=
  fun object other related => .ret ⟨rfl, kept object other related⟩

theorem Coupled.lift {values : α → β → Prop} {program : Prog Request Answer Fault α}
    {second : Prog Request Answer Fault β} (coupled : Prog.Coupled coupling values program second) :
    Coupled coupling objects values
      (StateT.lift program : StateT σ (Prog Request Answer Fault) α) (StateT.lift second) :=
  fun _ _ related => Prog.Coupled.bind coupled fun _ _ returned => .ret ⟨returned, related⟩

end StateProg

end Interaction
