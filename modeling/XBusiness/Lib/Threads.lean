import Mathlib.Data.List.Forall2
import Mathlib.Data.List.Nodup
import XBusiness.Lib.Prog

/-! # Threads that share a world

A list of threads, each with an identity, some data of its own and the program it still has
to run.  Every thread has a contract that depends on its identity and its data.

* `Threads.Safe` — every thread keeps its contract from the world on, and the identities
  are distinct.
* `Safe.call`, `Safe.stable`, `Safe.add` and `Safe.remove` — it survives a call of one thread
  that the others may rely on, a move of the outside, a new thread, and one that leaves.
* `forall₂_set`, `forall₂_eraseIdx` — what is noted beside each thread, while one of them goes on or leaves.
-/

namespace Interaction

structure Thread (Info Request : Type) (Answer : Request → Type) (Fault α : Type) where
  id : Nat
  info : Info
  program : Prog Request Answer Fault α

namespace Threads

variable {Info World Request : Type} {Answer : Request → Type} {Fault α : Type}

section Lists

variable {β : Type}

/-- A member of a list in which one element was replaced. -/
theorem mem_set_cases {key : β → Nat} {list : List β} {index : Nat} {old new member : β}
    (distinct : (list.map key).Nodup) (found : list[index]? = some old)
    (mem : member ∈ list.set index new) : member = new ∨ (member ∈ list ∧ key member ≠ key old) := by
  obtain ⟨place, bound, rfl⟩ := List.getElem_of_mem mem
  by_cases same : index = place
  · exact .inl (by simp [same])
  · rw [List.length_set] at bound
    rw [List.getElem_set_ne same]
    refine .inr ⟨List.getElem_mem _, fun keys => same ?_⟩
    obtain ⟨within, rfl⟩ := List.getElem?_eq_some_iff.mp found
    apply (List.getElem?_inj (by simpa using within) distinct).mp
    rw [List.getElem?_map, List.getElem?_map, List.getElem?_eq_getElem within,
      List.getElem?_eq_getElem bound, Option.map_some, Option.map_some, keys]

/-- A list around one of its elements. -/
theorem split_at {list : List β} {index : Nat} {old : β} (found : list[index]? = some old) :
    ∃ front back, list = front ++ old :: back ∧ list.eraseIdx index = front ++ back ∧
      ∀ new, list.set index new = front ++ new :: back := by
  obtain ⟨bound, rfl⟩ := List.getElem?_eq_some_iff.mp found
  refine ⟨list.take index, list.drop (index + 1), ?_, List.eraseIdx_eq_take_drop_succ _ _, ?_⟩
  · rw [← List.drop_eq_getElem_cons bound, List.take_append_drop]
  · exact fun new => List.set_eq_take_append_cons_drop.trans (if_pos bound)

/-! ### What an observer notes beside each element -/

variable {γ : Type} {beside : β → γ → Prop} {list : List β} {notes : List γ}

theorem forall₂_getElem? (noted : List.Forall₂ beside list notes) {index : Nat} {element : β}
    (found : list[index]? = some element) : ∃ note, notes[index]? = some note ∧ beside element note := by
  induction noted generalizing index with
  | nil => simp at found
  | cons first _ inductionHypothesis =>
    cases index with
    | zero =>
      cases found
      exact ⟨_, rfl, first⟩
    | succ index => exact inductionHypothesis found

theorem forall₂_eraseIdx (noted : List.Forall₂ beside list notes) (index : Nat) :
    List.Forall₂ beside (list.eraseIdx index) (notes.eraseIdx index) := by
  induction noted generalizing index with
  | nil => exact .nil
  | cons first rest inductionHypothesis =>
    cases index with
    | zero => exact rest
    | succ index => exact .cons first (inductionHypothesis index)

/-- One element changes, and its note stays. -/
theorem forall₂_set (noted : List.Forall₂ beside list notes) {index : Nat} {old new : β}
    (found : list[index]? = some old)
    (stays : ∀ note, notes[index]? = some note → beside old note → beside new note) :
    List.Forall₂ beside (list.set index new) notes := by
  induction noted generalizing index with
  | nil => exact .nil
  | cons first rest inductionHypothesis =>
    cases index with
    | zero =>
      cases found
      exact .cons (stays _ rfl first) rest
    | succ index => exact .cons first (inductionHypothesis found stays)

end Lists

/-- Every thread keeps its contract from the world on. -/
structure Safe (contract : Nat → Info → Contract World Request Answer) (fault : Fault → Prop)
    (post : Info → World → α → Prop) (world : World)
    (threads : List (Thread Info Request Answer Fault α)) : Prop where
  safe : ∀ thread ∈ threads,
    thread.program.Safe (contract thread.id thread.info) fault (post thread.info) world
  distinct : (threads.map Thread.id).Nodup

variable {contract : Nat → Info → Contract World Request Answer} {fault : Fault → Prop}
variable {post : Info → World → α → Prop} {world : World}
variable {threads : List (Thread Info Request Answer Fault α)}

theorem Safe.nil : Safe contract fault post world [] := ⟨nofun, List.nodup_nil⟩

/-- Something outside moves, on which every thread may rely. -/
theorem Safe.stable {after : World} (safe : Safe contract fault post world threads)
    (moved : ∀ thread ∈ threads, (contract thread.id thread.info).rely world after) :
    Safe contract fault post after threads where
  safe thread mem := (safe.safe thread mem).stable (moved thread mem)
  distinct := safe.distinct

/-- The call that a thread makes is allowed. -/
theorem Safe.allowed {index : Nat} {thread : Thread Info Request Answer Fault α}
    {request : Request} {next : Answer request → Prog Request Answer Fault α}
    (safe : Safe contract fault post world threads) (found : threads[index]? = some thread)
    (calling : thread.program = .call request next) :
    (contract thread.id thread.info).allowed world request := by
  have kept := safe.safe thread (List.mem_of_getElem? found)
  rw [calling] at kept
  exact kept.called.1

/-- One call of one thread, on which the others may rely. -/
theorem Safe.call {index : Nat} {thread : Thread Info Request Answer Fault α} {request : Request}
    {next : Answer request → Prog Request Answer Fault α} {answer : Answer request} {after : World}
    (safe : Safe contract fault post world threads) (found : threads[index]? = some thread)
    (calling : thread.program = .call request next)
    (effect : (contract thread.id thread.info).effect world request answer after)
    (guarantee : ∀ other ∈ threads, other.id ≠ thread.id →
      (contract other.id other.info).rely world after) :
    Safe contract fault post after (threads.set index { thread with program := next answer }) := by
  constructor
  · intro member mem
    cases mem_set_cases safe.distinct found mem with
    | inl same =>
      subst same
      have kept := safe.safe thread (List.mem_of_getElem? found)
      rw [calling] at kept
      exact kept.called.2 answer after effect
    | inr other => exact (safe.safe member other.1).stable (guarantee member other.1 other.2)
  · obtain ⟨within, rfl⟩ := List.getElem?_eq_some_iff.mp found
    have ids : (threads.map Thread.id).set index threads[index].id = threads.map Thread.id := by
      rw [← List.getElem_map Thread.id, List.set_getElem_self]
      simpa using within
    rw [List.map_set, ids]
    exact safe.distinct

/-- A new thread. -/
theorem Safe.add {thread : Thread Info Request Answer Fault α}
    (safe : Safe contract fault post world threads)
    (kept : thread.program.Safe (contract thread.id thread.info) fault (post thread.info) world)
    (new : ∀ other ∈ threads, other.id ≠ thread.id) :
    Safe contract fault post world (threads ++ [thread]) := by
  constructor
  · intro member mem
    cases List.mem_append.mp mem with
    | inl mem => exact safe.safe member mem
    | inr mem => rw [List.mem_singleton.mp mem]; exact kept
  · rw [List.map_append, List.nodup_append]
    refine ⟨safe.distinct, List.nodup_singleton _, ?_⟩
    intro id mem last single
    obtain ⟨other, otherMem, rfl⟩ := List.mem_map.mp mem
    rw [List.map_singleton, List.mem_singleton] at single
    exact single ▸ new other otherMem

/-- A thread leaves. -/
theorem Safe.remove (safe : Safe contract fault post world threads) (index : Nat) :
    Safe contract fault post world (threads.eraseIdx index) where
  safe thread mem := safe.safe thread ((List.eraseIdx_sublist threads index).subset mem)
  distinct := safe.distinct.sublist ((List.eraseIdx_sublist threads index).map Thread.id)

end Threads

end Interaction
