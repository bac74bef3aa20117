import XBusiness.Workflow.PoolSafety

/-! # What the threads of the pool work on

An observer notes beside a run of the pool which session every thread works on.  What is said of the sessions in
the pool, and of a thread with its session, is kept by all steps when the threads keep it.

* `working` — the sessions that the threads work on.
* `PoolNotes` / `Noted` — what is said of the queue, of the requests and of the threads.
* `PoolNotes.Kept` — what a new thread and a call of a thread have to keep.
* `Noted.step` — so every step keeps it.
-/

namespace XBusiness

open Interaction

/-- The sessions that the threads work on, in the order of the threads; none for a call of `handle`. -/
def working (state : PoolState) : PoolLabel → List (Option Session) → List (Option Session)
  | .handle _ _, sessions => sessions ++ [none]
  | .get, sessions => sessions ++ [state.queue.head?]
  | .respond index _, sessions => sessions ++ [state.requests[index]?.map Prod.fst]
  | .advance index _, sessions =>
    match state.threads[index]?.map PoolThread.program with
    | some (.ret _) => sessions.eraseIdx index
    | _ => sessions
  | .process _, sessions | .manager _ _, sessions => sessions

/-- What is said of a session in the queue, of one with a pending request, and of a thread with the session
    that it works on. -/
structure PoolNotes where
  queued : Session → Prop
  requested : Session × ProcType → Prop
  works : PoolThread → Option Session → Prop

structure PoolNotes.Noted (notes : PoolNotes) (state : PoolState) (sessions : List (Option Session)) : Prop where
  queued : ∀ session ∈ state.queue, notes.queued session
  requested : ∀ waiting ∈ state.requests, notes.requested waiting
  threads : List.Forall₂ notes.works state.threads sessions

/-- It is said of every new thread, and a thread of which it is said keeps it with each call, when the answer to
    the call is one to be expected for its session. -/
structure PoolNotes.Kept (env : Env)
    (expected : Option Session → (request : FlowCall) → request.Answer → Prop) (notes : PoolNotes) : Prop where
  handler : ∀ owner data, notes.works (.handler env owner data) none
  worker : ∀ session, notes.queued session → notes.works (.worker env session) (some session)
  callback : ∀ session procType response, notes.requested (session, procType) →
    notes.works (.callback env session procType response) (some session)
  call : ∀ (thread : PoolThread) note request rest held given, thread.program = .call request rest →
    notes.works thread note → expected note request given →
      notes.works { thread with held := held, program := rest given } note
  pushes : ∀ (thread : PoolThread) note session rest, thread.program = .call (.pushMsg session) rest →
    notes.works thread note → notes.queued session
  requests : ∀ (thread : PoolThread) note session procType request rest,
    thread.program = .call (.sendRequest session procType request) rest → notes.works thread note →
      notes.requested (session, procType)

/-- The call that a thread makes in this step is given an answer that is to be expected. -/
def PoolState.expecting (expected : Option Session → (request : FlowCall) → request.Answer → Prop)
    (state : PoolState) (sessions : List (Option Session)) : PoolLabel → Prop
  | .advance index answer => ∀ thread note request rest, state.threads[index]? = some thread →
      sessions[index]? = some note → thread.program = .call request rest →
        ∀ maxTaskNum given after, state.exec maxTaskNum request (answer request) = some (given, after) →
          expected note request given
  | _ => True

section Steps

variable {notes : PoolNotes} {env : Env}
variable {expected : Option Session → (request : FlowCall) → request.Answer → Prop}
variable {commitNum : Int} {workerNum maxTaskNum : Nat} {state next : PoolState} {sessions : List (Option Session)}

theorem noted_start : notes.Noted {} [] := by
  constructor
  case threads => exact .nil
  all_goals
    intro _ mem
    cases mem

theorem PoolNotes.Noted.step {label : PoolLabel} (noted : notes.Noted state sessions)
    (kept : notes.Kept env expected) (expects : state.expecting expected sessions label)
    (stepped : state.step env commitNum workerNum maxTaskNum label = some next) :
    notes.Noted next (working state label sessions) := by
  cases PoolState.step_cases stepped with
  | process | manager => exact ⟨noted.queued, noted.requested, noted.threads⟩
  | @handle partition owner =>
    -- a new thread, with its note, at the end of both lists
    exact ⟨noted.queued, noted.requested, List.rel_append noted.threads (.cons (kept.handler owner _) .nil)⟩
  | get session rest idle queue =>
    have queued := noted.queued
    rw [queue] at queued
    have onIt : working state .get sessions = sessions ++ [some session] := by rw [working, queue]; rfl
    rw [onIt]
    have works := kept.worker session (queued session List.mem_cons_self)
    refine ⟨fun other mem => queued other (List.mem_cons_of_mem _ mem), noted.requested, ?_⟩
    exact List.rel_append noted.threads (.cons works .nil)
  | @respond index response session procType found =>
    have onIt : working state (.respond index response) sessions = sessions ++ [some session] := by
      rw [working, found]
      rfl
    rw [onIt]
    have works := kept.callback session procType response (noted.requested _ (List.mem_of_getElem? found))
    refine ⟨noted.queued, fun other mem => ?_, List.rel_append noted.threads (.cons works .nil)⟩
    exact noted.requested other ((List.eraseIdx_sublist _ _).subset mem)
  | @returns index answer thread accepted found returned =>
    -- the thread and its note leave at the same place
    have onIt : working state (.advance index answer) sessions = sessions.eraseIdx index := by
      simp [working, found, returned]
    rw [onIt]
    exact ⟨noted.queued, noted.requested, Threads.forall₂_eraseIdx noted.threads index⟩
  | @handled index answer thread accepted owner data manager found returned =>
    have onIt : working state (.advance index answer) sessions = sessions.eraseIdx index := by
      simp [working, found, returned]
    rw [onIt]
    exact ⟨noted.queued, noted.requested, Threads.forall₂_eraseIdx noted.threads index⟩
  | @calls index answer thread request rest given result found calling executed =>
    have onIt : working state (.advance index answer) sessions = sessions := by
      simp [working, found, calling]
    rw [onIt]
    obtain ⟨note, -, works⟩ := Threads.forall₂_getElem? noted.threads found
    have threads : List.Forall₂ notes.works (state.threads.set index
        { thread with held := thread.held.after request given, program := rest given }) sessions := by
      apply Threads.forall₂_set noted.threads found
      intro note noteAt works
      have answered := expects thread note request rest found noteAt calling maxTaskNum given result executed
      exact kept.call thread note request rest _ given calling works answered
    -- only two calls put a session somewhere else
    cases PoolState.effect_of_exec executed with
    | pushMsg session =>
      refine ⟨fun other mem => ?_, noted.requested, threads⟩
      cases List.mem_append.mp mem with
      | inl old => exact noted.queued other old
      | inr last => exact List.mem_singleton.mp last ▸ kept.pushes thread note session rest calling works
    | sendRequest session procType info =>
      refine ⟨noted.queued, fun waiting mem => ?_, threads⟩
      cases List.mem_append.mp mem with
      | inl old => exact noted.requested waiting old
      | inr last =>
        exact List.mem_singleton.mp last ▸ kept.requests thread note session procType info rest calling works
    | final | finalMarks | destroy | makeShared | storeDone | outside =>
      exact ⟨noted.queued, noted.requested, threads⟩

end Steps

end XBusiness
