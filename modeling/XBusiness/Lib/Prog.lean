import Mathlib.Logic.Basic

/-! # Programs that interact with a world

A `Prog` is a finite tree of calls: it returns a value, raises a fault, or makes
a call and goes on with whatever is answered.  A program says nothing about what
its calls mean; that is fixed by whoever runs it, so one program can be run
against a store, interleaved with other programs, or read with every answer
left open.

* `Prog` with its monad, and `Prog.perform` for one call.
* `Contract` — what the rest of the system may do to a shared world between two
  calls of a program (`rely`), which calls the program may make there
  (`allowed`), and what a call does (`effect`).
* `Prog.Safe` — every call the program makes is allowed, whatever it is answered
  and whatever the others do in between, and the postcondition holds at the end.
  `Safe.perform`, `Safe.bind`, `Safe.mono` and `Safe.stable` are the rules the proofs use.
* `Prog.Makes` — the kinds of calls a program makes and what it returns, whatever the calls are
  answered; `Makes.safe` turns it into a contract for a property that such calls keep.
* `Prog.followed` — one run of a program, with the answers to its calls given by their numbers.
-/

namespace Interaction

/-- A tree of calls. `Answer request` is the type of the answers to a call. -/
inductive Prog (Request : Type) (Answer : Request → Type) (Fault : Type) (α : Type) where
  | ret (value : α)
  | raise (fault : Fault)
  | call (request : Request) (next : Answer request → Prog Request Answer Fault α)

namespace Prog

variable {Request : Type} {Answer : Request → Type} {Fault α β γ : Type}

def bind : Prog Request Answer Fault α → (α → Prog Request Answer Fault β) →
    Prog Request Answer Fault β
  | ret value, continuation => continuation value
  | raise fault, _ => raise fault
  | call request next, continuation => call request fun answer => (next answer).bind continuation

instance : Monad (Prog Request Answer Fault) where
  pure := ret
  bind := bind

/-- Make one call and return its answer. -/
def perform (request : Request) : Prog Request Answer Fault (Answer request) :=
  call request ret

@[simp] theorem pure_eq (value : α) : (pure value : Prog Request Answer Fault α) = ret value := rfl

@[simp] theorem ret_bind (value : α) (continuation : α → Prog Request Answer Fault β) :
    ret value >>= continuation = continuation value := rfl

@[simp] theorem raise_bind (fault : Fault) (continuation : α → Prog Request Answer Fault β) :
    raise fault >>= continuation = raise fault := rfl

@[simp] theorem call_bind (request : Request) (next : Answer request → Prog Request Answer Fault α)
    (continuation : α → Prog Request Answer Fault β) :
    call request next >>= continuation = call request fun answer => next answer >>= continuation := rfl

@[simp] theorem perform_bind (request : Request)
    (continuation : Answer request → Prog Request Answer Fault β) :
    perform request >>= continuation = call request continuation := rfl

theorem bind_ret (program : Prog Request Answer Fault α) : program.bind ret = program := by
  induction program with
  | ret _ => rfl
  | raise _ => rfl
  | call request next inductionHypothesis =>
    simp only [bind, call.injEq, heq_eq_eq, true_and]
    exact funext inductionHypothesis

theorem bind_bind (program : Prog Request Answer Fault α) (first : α → Prog Request Answer Fault β)
    (second : β → Prog Request Answer Fault γ) :
    (program.bind first).bind second = program.bind fun value => (first value).bind second := by
  induction program with
  | ret _ => rfl
  | raise _ => rfl
  | call request next inductionHypothesis =>
    simp only [bind, call.injEq, heq_eq_eq, true_and]
    exact funext inductionHypothesis

instance : LawfulMonad (Prog Request Answer Fault) :=
  LawfulMonad.mk' _ bind_ret (fun _ _ => rfl) bind_bind

end Prog

/-! ## Contracts between a program and the rest of the system -/

/-- What a program may count on, what it may ask for, and what its calls do. -/
structure Contract (World Request : Type) (Answer : Request → Type) where
  rely : World → World → Prop
  allowed : World → Request → Prop
  effect : (world : World) → (request : Request) → Answer request → World → Prop
  rely_refl : ∀ world, rely world world
  rely_trans : ∀ {first second third}, rely first second → rely second third → rely first third

namespace Contract

variable {World Request : Type} {Answer : Request → Type}

/-- The contract of a program that runs undisturbed. -/
def alone (allowed : World → Request → Prop)
    (effect : (world : World) → (request : Request) → Answer request → World → Prop) :
    Contract World Request Answer where
  rely := Eq
  allowed := allowed
  effect := effect
  rely_refl _ := rfl
  rely_trans := Eq.trans

end Contract

namespace Prog

variable {World Request : Type} {Answer : Request → Type} {Fault α β : Type}

/-- The program keeps the contract from the world on: every call is allowed where it is
    made, `fault` holds of what it raises and `post` of what it returns. -/
def Safe (contract : Contract World Request Answer) (fault : Fault → Prop)
    (post : World → α → Prop) : Prog Request Answer Fault α → World → Prop
  | ret value, world => ∀ later, contract.rely world later → post later value
  | raise raised, _ => fault raised
  | call request next, world =>
    ∀ later, contract.rely world later → contract.allowed later request ∧
      ∀ answer after, contract.effect later request answer after →
        (next answer).Safe contract fault post after

variable {contract : Contract World Request Answer} {fault : Fault → Prop}

/-- What the others do between two calls does not break the contract. -/
theorem Safe.stable {post : World → α → Prop} {program : Prog Request Answer Fault α}
    {world later : World} (safe : program.Safe contract fault post world)
    (moved : contract.rely world later) : program.Safe contract fault post later := by
  cases program with
  | ret _ => exact fun last relied => safe last (contract.rely_trans moved relied)
  | raise _ => exact safe
  | call _ _ => exact fun last relied => safe last (contract.rely_trans moved relied)

/-- The call at hand, when it is made before anyone else moves. -/
theorem Safe.called {post : World → α → Prop} {request : Request}
    {next : Answer request → Prog Request Answer Fault α} {world : World}
    (safe : (call request next).Safe contract fault post world) :
    contract.allowed world request ∧ ∀ answer after, contract.effect world request answer after →
      (next answer).Safe contract fault post after :=
  safe world (contract.rely_refl world)

theorem Safe.mono {post weaker : World → α → Prop} {program : Prog Request Answer Fault α}
    {world : World} (safe : program.Safe contract fault post world)
    (weaken : ∀ world value, post world value → weaker world value) :
    program.Safe contract fault weaker world := by
  induction program generalizing world with
  | ret value => exact fun later relied => weaken _ _ (safe later relied)
  | raise _ => exact safe
  | call request next inductionHypothesis =>
    intro later relied
    refine ⟨(safe later relied).1, fun answer after effect => ?_⟩
    exact inductionHypothesis answer ((safe later relied).2 answer after effect)

/-- Two postconditions of one program. -/
theorem Safe.and {first second : World → α → Prop} {program : Prog Request Answer Fault α} {world : World}
    (safeFirst : program.Safe contract fault first world)
    (safeSecond : program.Safe contract fault second world) :
    program.Safe contract fault (fun world value => first world value ∧ second world value) world := by
  induction program generalizing world with
  | ret value => exact fun later relied => ⟨safeFirst later relied, safeSecond later relied⟩
  | raise _ => exact safeFirst
  | call request next inductionHypothesis =>
    intro later relied
    refine ⟨(safeFirst later relied).1, fun answer after effect => ?_⟩
    exact inductionHypothesis answer ((safeFirst later relied).2 answer after effect)
      ((safeSecond later relied).2 answer after effect)

/-- Consequence for contracts: less to rely on, more allowed, fewer effects to expect. -/
theorem Safe.weaken {other : Contract World Request Answer} {post : World → α → Prop}
    {program : Prog Request Answer Fault α} {world : World}
    (safe : program.Safe contract fault post world)
    (rely : ∀ world later, other.rely world later → contract.rely world later)
    (allowed : ∀ world request, contract.allowed world request → other.allowed world request)
    (effect : ∀ world request answer after, other.effect world request answer after →
      contract.effect world request answer after) :
    program.Safe other fault post world := by
  induction program generalizing world with
  | ret _ => exact fun later relied => safe later (rely _ _ relied)
  | raise _ => exact safe
  | call request next inductionHypothesis =>
    intro later relied
    obtain ⟨here, rest⟩ := safe later (rely _ _ relied)
    refine ⟨allowed _ _ here, fun answer after happened => ?_⟩
    exact inductionHypothesis answer (rest answer after (effect _ _ _ _ happened))

/-- One call, at the world the others have left when it is made. -/
theorem Safe.perform {post : World → α → Prop} {request : Request}
    {continuation : Answer request → Prog Request Answer Fault α} {world : World}
    (step : ∀ later, contract.rely world later → contract.allowed later request ∧
      ∀ answer after, contract.effect later request answer after →
        (continuation answer).Safe contract fault post after) :
    (Prog.perform request >>= continuation).Safe contract fault post world :=
  step

/-- Sequencing: the first program establishes the contract of the second. -/
theorem Safe.bind {post : World → β → Prop} {program : Prog Request Answer Fault α}
    {continuation : α → Prog Request Answer Fault β} {world : World}
    (safe : program.Safe contract fault
      (fun world value => (continuation value).Safe contract fault post world) world) :
    (program >>= continuation).Safe contract fault post world := by
  induction program generalizing world with
  | ret value => exact safe world (contract.rely_refl world)
  | raise _ => exact safe
  | call request next inductionHypothesis =>
    intro later relied
    refine ⟨(safe later relied).1, fun answer after effect => ?_⟩
    exact inductionHypothesis answer ((safe later relied).2 answer after effect)

/-! ## The calls of a program -/

/-- Every call that the program can make is of the kind, and what it returns has the property. -/
def Makes (kind : Request → Prop) (post : α → Prop) : Prog Request Answer Fault α → Prop
  | ret value => post value
  | raise _ => True
  | call request next => kind request ∧ ∀ answer, (next answer).Makes kind post

variable {kind : Request → Prop}

theorem Makes.bind {middle : α → Prop} {post : β → Prop} {program : Prog Request Answer Fault α}
    {continuation : α → Prog Request Answer Fault β} (makes : program.Makes kind middle)
    (makesRest : ∀ value, middle value → (continuation value).Makes kind post) :
    (program >>= continuation).Makes kind post := by
  induction program with
  | ret value => exact makesRest value makes
  | raise _ => trivial
  | call request next inductionHypothesis =>
    exact ⟨makes.1, fun answer => inductionHypothesis answer (makes.2 answer)⟩

theorem Makes.mono {wider : Request → Prop} {post : α → Prop} {program : Prog Request Answer Fault α}
    (makes : program.Makes kind post) (widen : ∀ request, kind request → wider request) :
    program.Makes wider post := by
  induction program with
  | ret _ => exact makes
  | raise _ => trivial
  | call request next inductionHypothesis =>
    exact ⟨widen request makes.1, fun answer => inductionHypothesis answer (makes.2 answer)⟩

theorem Makes.weaken {post weaker : α → Prop} {program : Prog Request Answer Fault α}
    (makes : program.Makes kind post) (weaken : ∀ value, post value → weaker value) :
    program.Makes kind weaker := by
  induction program with
  | ret value => exact weaken value makes
  | raise _ => trivial
  | call request next inductionHypothesis =>
    exact ⟨makes.1, fun answer => inductionHypothesis answer (makes.2 answer)⟩

theorem Makes.and {first second : α → Prop} {program : Prog Request Answer Fault α}
    (makesFirst : program.Makes kind first) (makesSecond : program.Makes kind second) :
    program.Makes kind fun value => first value ∧ second value := by
  induction program with
  | ret value => exact ⟨makesFirst, makesSecond⟩
  | raise _ => trivial
  | call request next inductionHypothesis =>
    exact ⟨makesFirst.1, fun answer => inductionHypothesis answer (makesFirst.2 answer) (makesSecond.2 answer)⟩

/-- What the program returns, whatever the kinds of its calls. -/
theorem Makes.returning {wider : Request → Prop} {weak post : α → Prop} {program : Prog Request Answer Fault α}
    (makes : program.Makes kind weak) (returns : program.Makes wider post) :
    program.Makes kind fun value => weak value ∧ post value := by
  induction program with
  | ret value => exact ⟨makes, returns⟩
  | raise _ => trivial
  | call request next inductionHypothesis =>
    exact ⟨makes.1, fun answer => inductionHypothesis answer (makes.2 answer) (returns.2 answer)⟩

/-- A property that the others and the calls of a kind keep holds when the program returns. -/
theorem Makes.safe (property : World → Prop) {post : α → Prop}
    {program : Prog Request Answer Fault α} {world : World} (makes : program.Makes kind post)
    (relied : ∀ world later, contract.rely world later → property world → property later)
    (kept : ∀ world request, kind request → property world → contract.allowed world request ∧
      ∀ answer after, contract.effect world request answer after → property after)
    (raised : ∀ raised, fault raised) (holds : property world) :
    program.Safe contract fault (fun later value => property later ∧ post value) world := by
  induction program generalizing world with
  | ret _ => exact fun later moved => ⟨relied world later moved holds, makes⟩
  | raise _ => exact raised _
  | call request next inductionHypothesis =>
    intro later moved
    obtain ⟨allowed, effects⟩ := kept later request makes.1 (relied world later moved holds)
    refine ⟨allowed, fun answer after effect => ?_⟩
    exact inductionHypothesis answer (makes.2 answer) (effects answer after effect)

/-! ## Runs -/

/-- The run of a program on its own, with the call of the number `index` and those after it
    answered by the function: the world that it leaves and what it returns, or what it raises. -/
def followed (effect : World → (request : Request) → Answer request → World)
    (answer : Nat → (request : Request) → Answer request) :
    Prog Request Answer Fault α → Nat → World → Except Fault (World × α)
  | ret value, _, world => .ok (world, value)
  | raise fault, _, _ => .error fault
  | call request next, index, world =>
    (next (answer index request)).followed effect answer (index + 1)
      (effect world request (answer index request))

/-- The same with the number of the next call. -/
def followedTo (effect : World → (request : Request) → Answer request → World)
    (answer : Nat → (request : Request) → Answer request) :
    Prog Request Answer Fault α → Nat → World → Except Fault (Nat × World × α)
  | ret value, index, world => .ok (index, world, value)
  | raise fault, _, _ => .error fault
  | call request next, index, world =>
    (next (answer index request)).followedTo effect answer (index + 1)
      (effect world request (answer index request))

section Followed

variable {effect : World → (request : Request) → Answer request → World}
  {answer : Nat → (request : Request) → Answer request} {program : Prog Request Answer Fault α}
  {continuation : α → Prog Request Answer Fault β} {index next : Nat} {world middle : World} {value : α}
  {raised : Fault}

/-- The second program goes on with the call where the first one has stopped. -/
theorem followedTo_bind (ran : program.followedTo effect answer index world = .ok (next, middle, value)) :
    (program >>= continuation).followedTo effect answer index world =
      (continuation value).followedTo effect answer next middle := by
  induction program generalizing index world with
  | ret returned => cases ran; rfl
  | raise _ => cases ran
  | call request rest inductionHypothesis => exact inductionHypothesis _ ran

theorem followedTo_bind_error (ran : program.followedTo effect answer index world = .error raised) :
    (program >>= continuation).followedTo effect answer index world = .error raised := by
  induction program generalizing index world with
  | ret returned => cases ran
  | raise _ => cases ran; rfl
  | call request rest inductionHypothesis => exact inductionHypothesis _ ran

theorem followed_eq : program.followed effect answer index world =
    (program.followedTo effect answer index world).map Prod.snd := by
  induction program generalizing index world with
  | ret _ => rfl
  | raise _ => rfl
  | call request rest inductionHypothesis => exact inductionHypothesis _

theorem followed_bind (ran : program.followedTo effect answer index world = .ok (next, middle, value)) :
    (program >>= continuation).followed effect answer index world =
      (continuation value).followed effect answer next middle := by
  rw [followed_eq, followedTo_bind ran, followed_eq]

theorem followed_bind_error (ran : program.followedTo effect answer index world = .error raised) :
    (program >>= continuation).followed effect answer index world = .error raised := by
  rw [followed_eq, followedTo_bind_error ran]
  rfl

end Followed

/-- A program that raises nothing returns in each of its runs. -/
theorem Safe.followed_ok {allowed : World → Request → Prop}
    {effect : World → (request : Request) → Answer request → World} {post : World → α → Prop}
    {program : Prog Request Answer Fault α} {world : World}
    (safe : program.Safe (.alone allowed fun world request answer after => after = effect world request answer)
      (fun _ => False) post world)
    (answer : Nat → (request : Request) → Answer request) (index : Nat) :
    ∃ final value, program.followed effect answer index world = .ok (final, value) ∧ post final value := by
  induction program generalizing world index with
  | ret returned => exact ⟨world, returned, rfl, safe _ rfl⟩
  | raise _ => exact safe.elim
  | call request next inductionHypothesis => exact inductionHypothesis _ (safe.called.2 _ _ rfl) _

/-- What a contract says of a program holds of each of its runs. -/
theorem Safe.followed {allowed : World → Request → Prop}
    {effect : World → (request : Request) → Answer request → World} {post : World → α → Prop}
    {program : Prog Request Answer Fault α} {world final : World} {value : α}
    {answer : Nat → (request : Request) → Answer request} {index : Nat}
    (safe : program.Safe (.alone allowed fun world request answer after => after = effect world request answer)
      fault post world)
    (ran : program.followed effect answer index world = .ok (final, value)) : post final value := by
  induction program generalizing world index with
  | ret returned => cases ran; exact safe _ rfl
  | raise _ => cases ran
  | call request next inductionHypothesis =>
    exact inductionHypothesis _ (safe.called.2 _ _ rfl) ran

end Prog

end Interaction
