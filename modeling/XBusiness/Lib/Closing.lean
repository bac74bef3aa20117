import Mathlib.Logic.Function.Basic
import XBusiness.Lib.StateProg

/-! # Programs that hand something over and return

A thread that works for somebody hands its work over with one call, and returns after it.

* `Prog.MakesWhere` — `Prog.Makes` where only some answers are to be expected, which is what a
  contract without a world says (`safe_iff_makesWhere`).
* `Prog.Closes` — the program makes calls of the one kind, until it makes one of the other kind and
  returns.
* `Prog.Leads` — a program part of the way; `Leads.followed` turns what led to its end into one run.
-/

namespace Interaction

namespace Prog

variable {World Request : Type} {Answer : Request → Type} {Fault α β : Type}
variable {expected : (request : Request) → Answer request → Prop} {kind wider last : Request → Prop}

/-- Under the answers that are expected, every call of the program is of the kind and what it returns
    has the property. -/
def MakesWhere (expected : (request : Request) → Answer request → Prop) (kind : Request → Prop)
    (post : α → Prop) : Prog Request Answer Fault α → Prop
  | ret value => post value
  | raise _ => True
  | call request next =>
    kind request ∧ ∀ answer, expected request answer → (next answer).MakesWhere expected kind post

theorem Makes.expecting {post : α → Prop} {program : Prog Request Answer Fault α}
    (makes : program.Makes kind post) (widen : ∀ request, kind request → wider request) :
    program.MakesWhere expected wider post := by
  induction program with
  | ret value => exact makes
  | raise _ => trivial
  | call request next inductionHypothesis =>
    exact ⟨widen request makes.1, fun answer _ => inductionHypothesis answer (makes.2 answer)⟩

theorem MakesWhere.bind {middle : α → Prop} {post : β → Prop} {program : Prog Request Answer Fault α}
    {continuation : α → Prog Request Answer Fault β} (makes : program.MakesWhere expected kind middle)
    (makesRest : ∀ value, middle value → (continuation value).MakesWhere expected kind post) :
    (program >>= continuation).MakesWhere expected kind post := by
  induction program with
  | ret value => exact makesRest value makes
  | raise _ => trivial
  | call request next inductionHypothesis =>
    exact ⟨makes.1, fun answer wanted => inductionHypothesis answer (makes.2 answer wanted)⟩

theorem MakesWhere.weaken {post weaker : α → Prop} {program : Prog Request Answer Fault α}
    (makes : program.MakesWhere expected kind post) (weaken : ∀ value, post value → weaker value) :
    program.MakesWhere expected kind weaker := by
  induction program with
  | ret value => exact weaken value makes
  | raise _ => trivial
  | call request next inductionHypothesis =>
    exact ⟨makes.1, fun answer wanted => inductionHypothesis answer (makes.2 answer wanted)⟩

/-- What the program returns under any answers, it returns under those that are expected. -/
theorem MakesWhere.and_makes {weak post : α → Prop} {program : Prog Request Answer Fault α}
    (makesWhere : program.MakesWhere expected kind weak) (makes : program.Makes wider post) :
    program.MakesWhere expected kind post := by
  induction program with
  | ret value => exact makes
  | raise _ => trivial
  | call request next inductionHypothesis =>
    exact ⟨makesWhere.1, fun answer wanted => inductionHypothesis answer (makesWhere.2 answer wanted) (makes.2 answer)⟩

theorem MakesWhere.makes {post : α → Prop} {program : Prog Request Answer Fault α}
    (makes : program.MakesWhere expected kind post) (all : ∀ request answer, expected request answer) :
    program.Makes kind post := by
  induction program with
  | ret value => exact makes
  | raise _ => trivial
  | call request next inductionHypothesis =>
    exact ⟨makes.1, fun answer => inductionHypothesis answer (makes.2 answer (all request answer))⟩

/-- A contract without a world is about the kinds of the calls and the answers to them. -/
theorem safe_iff_makesWhere {contract : Contract Unit Request Answer} {post : α → Prop}
    {program : Prog Request Answer Fault α} :
    program.Safe contract (fun _ => True) (fun _ value => post value) () ↔
      program.MakesWhere (fun request answer => contract.effect () request answer ()) (contract.allowed ()) post := by
  induction program with
  | ret value => exact ⟨fun safe => safe () (contract.rely_refl ()), fun holds _ _ => holds⟩
  | raise _ => exact Iff.rfl
  | call request next inductionHypothesis =>
    constructor
    · intro safe
      obtain ⟨allowed, effects⟩ := safe.called
      exact ⟨allowed, fun answer effect => (inductionHypothesis answer).mp (effects answer () effect)⟩
    · intro makes later _
      exact ⟨makes.1, fun answer _ effect => (inductionHypothesis answer).mpr (makes.2 answer effect)⟩

/-- The calls of the program are of the kind, up to one of the last kind, after which it returns. -/
def Closes (expected : (request : Request) → Answer request → Prop) (kind last : Request → Prop) :
    Prog Request Answer Fault α → Prop
  | ret _ => True
  | raise _ => True
  | call request next =>
    (last request ∧ ∀ answer, ∃ value, next answer = ret value) ∨
      (kind request ∧ ∀ answer, expected request answer → (next answer).Closes expected kind last)

theorem MakesWhere.closes {middle : α → Prop} {program : Prog Request Answer Fault α}
    {continuation : α → Prog Request Answer Fault β} (makes : program.MakesWhere expected kind middle)
    (closes : ∀ value, middle value → (continuation value).Closes expected kind last) :
    (program >>= continuation).Closes expected kind last := by
  induction program with
  | ret value => exact closes value makes
  | raise _ => trivial
  | call request next inductionHypothesis =>
    exact .inr ⟨makes.1, fun answer wanted => inductionHypothesis answer (makes.2 answer wanted)⟩

/-- A value is computed of what a program returns that closes. -/
theorem Closes.map {program : Prog Request Answer Fault α} {result : α → β}
    (closes : program.Closes expected kind last) :
    (program >>= fun value => ret (result value)).Closes expected kind last := by
  induction program with
  | ret value => trivial
  | raise _ => trivial
  | call request next inductionHypothesis =>
    cases closes with
    | inl closing =>
      refine .inl ⟨closing.1, fun answer => ?_⟩
      obtain ⟨value, returned⟩ := closing.2 answer
      refine ⟨result value, ?_⟩
      show (next answer >>= fun value => ret (result value)) = _
      rw [returned]
      rfl
    | inr passing => exact .inr ⟨passing.1, fun answer wanted => inductionHypothesis answer (passing.2 answer wanted)⟩

/-! ## Part of a run -/

variable {effect : World → (request : Request) → Answer request → World}

/-- Some answers lead from one point of a program to another one, and the world with it. -/
inductive Leads (effect : World → (request : Request) → Answer request → World)
    (program : Prog Request Answer Fault α) (world : World) : Prog Request Answer Fault α → World → Prop where
  | refl : Leads effect program world program world
  | call {request : Request} {next : Answer request → Prog Request Answer Fault α} {later : World}
      (leads : Leads effect program world (call request next) later) (answer : Answer request) :
      Leads effect program world (next answer) (effect later request answer)

variable {program point : Prog Request Answer Fault α} {world later : World} {value : α}

open Classical in
/-- The answers to the calls so far, by their numbers. -/
theorem Leads.answers (leads : Leads effect program world point later)
    (default : (request : Request) → Answer request) :
    ∃ (count : Nat) (given : Nat → (request : Request) → Answer request), ∀ answer,
      (∀ index < count, answer index = given index) →
        program.followed effect answer 0 world = point.followed effect answer count later := by
  induction leads with
  | refl => exact ⟨0, fun _ => default, fun _ _ => rfl⟩
  | call leads last inductionHypothesis =>
    rename_i request next later
    obtain ⟨count, given, follows⟩ := inductionHypothesis
    refine ⟨count + 1, fun index => if index = count then Function.update default request last else given index, ?_⟩
    intro answer agrees
    have before : ∀ index < count, answer index = given index := by
      intro index inside
      rw [agrees index (by omega)]
      exact if_neg (Nat.ne_of_lt inside)
    have here : answer count request = last := by
      rw [agrees count (by omega)]
      exact (congrFun (if_pos rfl) request).trans (Function.update_self ..)
    rw [follows answer before, followed, here]

/-- A program part of the way makes calls of the same kind. -/
theorem Leads.makes {kind : Request → Prop} {post : α → Prop} (leads : Leads effect program world point later)
    (makes : program.Makes kind post) : point.Makes kind post := by
  induction leads with
  | refl => exact makes
  | call _ answer inductionHypothesis => exact inductionHypothesis.2 answer

/-- What has led a program to its end is one of its runs. -/
theorem Leads.followed (leads : Leads effect program world (ret value) later)
    (default : (request : Request) → Answer request) :
    ∃ answer, program.followed effect answer 0 world = .ok (later, value) := by
  obtain ⟨count, given, follows⟩ := leads.answers default
  exact ⟨given, (follows given fun _ _ => rfl).trans rfl⟩

/-- The run of a program without the value that is computed at its end. -/
theorem followed_of_map {program : Prog Request Answer Fault α} {result : α → β} {index : Nat} {last : β}
    {answer : Nat → (request : Request) → Answer request}
    (ran : (program >>= fun value => ret (result value)).followed effect answer index world = .ok (later, last)) :
    ∃ value, program.followed effect answer index world = .ok (later, value) := by
  induction program generalizing index world with
  | ret value =>
    cases ran
    exact ⟨value, rfl⟩
  | raise _ => cases ran
  | call request next inductionHypothesis => exact inductionHypothesis _ ran

end Prog

end Interaction
