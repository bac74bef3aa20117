import XBusiness.Lib.Family
import XBusiness.Lib.Refinement
import XBusiness.Workflow.HandOver
import XBusiness.Workflow.PoolSafety

/-! # The pool runs the courses of its sessions

The threads of the pool share the queue, the managers and the HTTP client, and take their steps in any
order.  What becomes of one session is its course all the same: the family of the courses, which share
nothing, answers every step of the pool.

* `coursesMachine` — the courses of all sessions, side by side.
* `Tracks` — where the pool has a session, its course is; a thread that works on a session is inside
  the next step of its course.
* `pool_simulates` — every step of the pool leaves all courses as they are, begins one, or is a step of one.
* `pool_follows_courses` — what the queue, the HTTP client and `Final` have of the sessions, in any run.
* `visits_in_order` — so workers execute the modules of a session in the order of its chain, and none goes
  round in the pool forever.
-/

namespace XBusiness

open Interaction

/-! ## The courses -/

/-- The course of a session that is pushed for the first time. -/
def Begins (env : Env) (ref : Nat) (course : Course) : Prop :=
  ∃ session, Created env session ∧ session.ref = ref ∧ course = { pending := .queued session }

/-- The courses of all sessions, by the identities of the sessions. -/
noncomputable def coursesMachine (env : Env) : Machine (Nat → Option Course) (Machine.FamilyLabel Nat Course Moment) :=
  Machine.family (Course.step env) (Begins env)

/-- The sessions that workers take from the queue. -/
def visits (state : PoolState) : PoolLabel → List Session → List Session
  | .get, seen => seen ++ state.queue.head?.toList
  | _, seen => seen

/-- How one session was each time it was taken. -/
def taken (seen : List Session) (ref : Nat) : List Session := seen.filter fun session => session.ref = ref

theorem taken_append_self (seen : List Session) (session : Session) :
    taken (seen ++ [session]) session.ref = taken seen session.ref ++ [session] := by
  simp [taken, List.filter_append]

theorem taken_append_other (seen : List Session) {session : Session} {ref : Nat} (other : session.ref ≠ ref) :
    taken (seen ++ [session]) ref = taken seen ref := by
  simp [taken, List.filter_append, other]

/-- The modules that were executed for the sessions, in the order in which they were taken. -/
def modules (visited : List Session) : List ProcType := visited.filterMap fun session => session.procChain.head?

theorem modules_append (visited : List Session) (session : Session) :
    modules (visited ++ [session]) = modules visited ++ session.procChain.head?.toList := by
  rw [modules, List.filterMap_append]
  cases chain : session.procChain <;> simp [modules, chain]

theorem modules_length {visited : List Session} (chained : ∀ session ∈ visited, session.procChain ≠ []) :
    (modules visited).length = visited.length := by
  induction visited with
  | nil => rfl
  | cons session rest inductionHypothesis =>
    have tail := inductionHypothesis fun other mem => chained other (List.mem_cons_of_mem _ mem)
    cases chain : session.procChain with
    | nil => exact absurd chain (chained session List.mem_cons_self)
    | cons procType more =>
      have head : modules (session :: rest) = procType :: modules rest := by simp [modules, chain]
      rw [head, List.length_cons, tail, List.length_cons]

/-! ## Where the pool has a session -/

/-- The course of the session is at this point; it has executed the modules that workers have taken the
    session for, the last one apart where they are still at it. -/
def Located (courses : Nat → Option Course) (seen : List Session) (now : List ProcType) (ref : Nat)
    (pending : Pending) : Prop :=
  ∃ course, courses ref = some course ∧ course.pending = pending ∧
    modules (taken seen ref) = course.executed.reverse ++ now

/-- The function that the next step of a course runs on its session, and the module that it executes. -/
inductive Works (env : Env) : Pending → Session → Flow Unit → List ProcType → Prop where
  | process (session : Session) :
      Works env (.queued session) session (sessionProcess env) session.procChain.head?.toList
  | answers (session : Session) (procType : ProcType) (request : RequestInfo) (response : Option HttpResponse) :
      Works env (.requested session procType request) session (requestCallback env procType response) []

abbrev Closing (env : Env) (own : Option Nat) (program : FlowProg Bool) : Prop :=
  program.Closes (FlowCall.distinct own) (FlowCall.spares env own) (FlowCall.passesOn own)

/-- What a thread has to do with the courses. -/
inductive ThreadFollows (env : Env) (courses : Nat → Option Course) (seen : List Session) (thread : PoolThread) :
    Prop where
  /-- `handle`, whose session has no course yet. -/
  | handles (closing : Closing env none thread.program)
      (new : ∀ entry ∈ thread.held.entries, courses entry.1 = none)
  /-- A function inside a step of the course of its session; the other sessions that it holds have no
      course yet. -/
  | works (pending : Pending) (session : Session) (function : Flow Unit) (now : List ProcType) (sight : Sight)
      (works : Works env pending session function now) (located : Located courses seen now session.ref pending)
      (leads : Prog.Leads (Sight.after session.ref) (function.runOn session) { pending := pending } thread.program sight)
      (closing : Closing env (some session.ref) thread.program)
      (holds : session.entry ∈ thread.held.entries)
      (new : ∀ entry ∈ thread.held.entries, entry.1 ≠ session.ref → courses entry.1 = none)
  | returned (value : Bool) (returned : thread.program = .ret value) (empty : thread.held.entries = [])

/-- Where the pool has a session, its course is. -/
structure Tracks (env : Env) (threads : List PoolThread) (state : PoolState) (courses : Nat → Option Course)
    (seen : List Session) : Prop where
  queued : ∀ session ∈ state.queue, Located courses seen [] session.ref (.queued session)
  requested : ∀ waiting ∈ state.requests, ∃ request,
    Located courses seen [] waiting.1.ref (.requested waiting.1 waiting.2 request)
  ended : ∀ entry ∈ state.finals, Located courses seen [] entry.1 .ended
  threads : ∀ thread ∈ threads, ThreadFollows env courses seen thread

/-- The module that a worker is at while the course is at the point before it. -/
inductive IsAt : Pending → List ProcType → Prop where
  | between (pending : Pending) : IsAt pending []
  | inside (session : Session) (procType : ProcType) (rest : List ProcType)
      (chain : session.procChain = procType :: rest) : IsAt (.queued session) [procType]

/-- The course is that of the session as it was when it was first taken, and the modules that the session
    was taken for are those of the course. -/
def Origin (env : Env) (seen : List Session) (ref : Nat) (course : Course) : Prop :=
  ∃ session now, Created env session ∧ session.ref = ref ∧ (courseMachine env session).Reachable course ∧
    (∀ first ∈ (taken seen ref).head?, first = session) ∧
    modules (taken seen ref) = course.executed.reverse ++ now ∧ IsAt course.pending now

/-- The relation of the simulation: only sessions that were made have a course, and a worker
    takes only those that have one. -/
structure PoolFollows (env : Env) (both : PoolState × List Session) (courses : Nat → Option Course) : Prop where
  inv : PoolState.PoolInv both.1
  follows : Tracks env both.1.threads both.1 courses both.2
  unmade : ∀ ref, both.1.made.length ≤ ref → courses ref = none
  untaken : ∀ ref, courses ref = none → taken both.2 ref = []
  origin : ∀ ref course, courses ref = some course → Origin env both.2 ref course
  chained : ∀ session ∈ both.2, session.procChain ≠ []

/-! ## No identity is in two places -/

namespace PoolState

section Places

variable {state : PoolState} {index : Nat} {thread : PoolThread}

/-- The sessions that the thread at the index does not hold. -/
def beside (state : PoolState) (index : Nat) : List Entry :=
  state.queue.map Session.entry ++ (state.threads.eraseIdx index).flatMap (fun thread => thread.held.entries) ++
    state.requests.map (fun waiting => waiting.1.entry) ++ state.finals

/-- The identities of what a thread holds, and of all other sessions, are different ones. -/
theorem Accounted.identities (accounted : Accounted state) (found : state.threads[index]? = some thread) :
    ((thread.held.entries ++ state.beside index).map Prod.fst).Nodup := by
  obtain ⟨front, back, split, removed, -⟩ := Threads.split_at found
  have all : (thread.held.entries ++ state.beside index ++ state.dropped).Perm state.made := by
    rw [List.perm_iff_count]
    intro entry
    have sessions := accounted.sessions entry
    simp only [places, split, List.flatMap_append, List.flatMap_cons, List.count_append] at sessions
    simp only [beside, removed, List.flatMap_append, List.count_append]
    omega
  have distinct : ((thread.held.entries ++ state.beside index ++ state.dropped).map Prod.fst).Nodup := by
    rw [(all.map Prod.fst).nodup_iff, accounted.refs]
    exact List.nodup_range
  rw [List.map_append] at distinct
  exact (List.nodup_append.mp distinct).1

theorem Accounted.apart (accounted : Accounted state) (found : state.threads[index]? = some thread)
    {entry other : Entry} (mem : entry ∈ thread.held.entries) (elsewhere : other ∈ state.beside index) :
    other.1 ≠ entry.1 := by
  have distinct := accounted.identities found
  rw [List.map_append] at distinct
  exact fun same => (List.nodup_append.mp distinct).2.2 _ (List.mem_map_of_mem mem) _
    (List.mem_map_of_mem elsewhere) same.symm

/-- What a thread still holds when it has given a session away is another one. -/
theorem Accounted.apart_held (accounted : Accounted state) (found : state.threads[index]? = some thread)
    {entry other : Entry} (mem : entry ∈ thread.held.entries) (left : other ∈ thread.held.entries.erase entry) :
    other.1 ≠ entry.1 := by
  have distinct := accounted.identities found
  rw [List.map_append] at distinct
  have own := (List.nodup_append.mp distinct).1
  rw [((List.perm_cons_erase mem).map Prod.fst).nodup_iff, List.map_cons, List.nodup_cons] at own
  exact fun same => own.1 (same ▸ List.mem_map_of_mem left)

end Places

end PoolState

/-! ## What the others do to a session -/

section Frame

variable {env : Env} {threads : List PoolThread} {state : PoolState} {index : Nat} {thread : PoolThread}
variable {courses later : Nat → Option Course} {seen more : List Session}

/-- The session with the identity has not moved, and no worker has taken it. -/
def Unmoved (courses later : Nat → Option Course) (seen more : List Session) (ref : Nat) : Prop :=
  later ref = courses ref ∧ taken more ref = taken seen ref

theorem Located.frame {now : List ProcType} {ref : Nat} {pending : Pending} (located : Located courses seen now ref pending)
    (unmoved : Unmoved courses later seen more ref) : Located later more now ref pending := by
  obtain ⟨course, found, rest⟩ := located
  exact ⟨course, unmoved.1.trans found, unmoved.2 ▸ rest⟩

theorem ThreadFollows.frame (follows : ThreadFollows env courses seen thread)
    (unmoved : ∀ entry ∈ thread.held.entries, Unmoved courses later seen more entry.1) :
    ThreadFollows env later more thread := by
  cases follows with
  | handles closing new => exact .handles closing fun entry mem => (unmoved entry mem).1.trans (new entry mem)
  | works pending session function now sight works located leads closing holds new =>
    refine .works pending session function now sight works (located.frame (unmoved _ holds)) leads closing holds ?_
    exact fun entry mem other => (unmoved entry mem).1.trans (new entry mem other)
  | returned value returned empty => exact .returned value returned empty

/-- What concerns sessions that the thread at the index holds leaves the others where they are. -/
theorem Tracks.frame (follows : Tracks env (state.threads.eraseIdx index) state courses seen)
    (unmoved : ∀ entry ∈ state.beside index, Unmoved courses later seen more entry.1) :
    Tracks env (state.threads.eraseIdx index) state later more := by
  have inQueue : ∀ session ∈ state.queue, session.entry ∈ state.beside index := fun session mem =>
    List.mem_append_left _ (List.mem_append_left _ (List.mem_append_left _ (List.mem_map_of_mem mem)))
  have inThread : ∀ thread ∈ state.threads.eraseIdx index, ∀ entry ∈ thread.held.entries,
      entry ∈ state.beside index := fun thread mem entry held =>
    List.mem_append_left _ (List.mem_append_left _
      (List.mem_append_right _ (List.mem_flatMap.mpr ⟨thread, mem, held⟩)))
  have inRequest : ∀ waiting ∈ state.requests, waiting.1.entry ∈ state.beside index := fun waiting mem =>
    List.mem_append_left _ (List.mem_append_right _ (List.mem_map.mpr ⟨waiting, mem, rfl⟩))
  constructor
  · exact fun session mem => (follows.queued session mem).frame (unmoved _ (inQueue session mem))
  · intro waiting mem
    obtain ⟨request, located⟩ := follows.requested waiting mem
    exact ⟨request, located.frame (unmoved _ (inRequest waiting mem))⟩
  · exact fun entry mem => (follows.ended entry mem).frame (unmoved entry (List.mem_append_right _ mem))
  · exact fun thread mem => (follows.threads thread mem).frame fun entry held =>
      unmoved entry (inThread thread mem entry held)

theorem Tracks.others (follows : Tracks env state.threads state courses seen) (index : Nat) :
    Tracks env (state.threads.eraseIdx index) state courses seen :=
  ⟨follows.queued, follows.requested, follows.ended, fun thread mem =>
    follows.threads thread ((List.eraseIdx_sublist _ _).subset mem)⟩

/-- The thread at the index has made a step, and the rest of the pool got what it has given away. -/
theorem Tracks.put {new : PoolThread} {after : PoolState}
    (follows : Tracks env (state.threads.eraseIdx index) state courses seen)
    (found : state.threads[index]? = some thread) (own : ThreadFollows env courses seen new)
    (threads : after.threads = state.threads.set index new)
    (queued : ∀ session ∈ after.queue, session ∈ state.queue ∨ Located courses seen [] session.ref (.queued session))
    (requested : ∀ waiting ∈ after.requests, waiting ∈ state.requests ∨
      ∃ request, Located courses seen [] waiting.1.ref (.requested waiting.1 waiting.2 request))
    (ended : ∀ entry ∈ after.finals, entry ∈ state.finals ∨ Located courses seen [] entry.1 .ended) :
    Tracks env after.threads after courses seen := by
  refine ⟨fun session mem => ?_, fun waiting mem => ?_, fun entry mem => ?_, fun other mem => ?_⟩
  · exact (queued session mem).elim (follows.queued session) id
  · exact (requested waiting mem).elim (follows.requested waiting) id
  · exact (ended entry mem).elim (follows.ended entry) id
  · obtain ⟨front, back, -, removed, replaced⟩ := Threads.split_at found
    rw [threads, replaced] at mem
    have rest := follows.threads other
    rw [removed] at rest
    cases List.mem_append.mp mem with
    | inl inside => exact rest (List.mem_append_left _ inside)
    | inr inside =>
      cases List.mem_cons.mp inside with
      | inl same => exact same ▸ own
      | inr inside => exact rest (List.mem_append_right _ inside)

end Frame

/-! ## The step of a course -/

section Steps

variable {env : Env} {pending : Pending} {session : Session} {function : Flow Unit} {now : List ProcType}

/-- A thread that has come to the end of its function has made the step of the course. -/
theorem Works.completes (works : Works env pending session function now) {course : Course}
    (same : course.pending = pending) (underway : Underway pending) {sight : Sight} {value : Bool}
    (leads : Prog.Leads (Sight.after session.ref) (function.runOn session) { pending := pending } (.ret value)
      sight) :
    ∃ moment next, course.step env moment = some next ∧ next.pending = sight.pending ∧
      next.executed.reverse = course.executed.reverse ++ now := by
  obtain ⟨answer, ran⟩ := leads.followed FlowCall.succeed
  obtain ⟨last, followed⟩ := Prog.followed_of_map ran
  cases works with
  | process =>
    have watched : course.watch session (sessionProcess env) ⟨answer, none⟩ = .ok (sight, last) := by
      rw [Course.watch, same]
      exact followed
    cases chain : session.procChain with
    | nil => exact absurd chain (underway.more session rfl)
    | cons procType rest =>
      refine ⟨⟨answer, none⟩, ⟨sight.pending, procType :: course.executed,
        course.subscribed || sight.added procType session.kafkaData.plugin⟩, ?_, rfl, ?_⟩
      · simp only [Course.step, same, watched, chain]
      · simp
  | answers _ procType request response =>
    have watched : course.watch session (requestCallback env procType response) ⟨answer, response⟩ =
        .ok (sight, last) := by
      rw [Course.watch, same]
      exact followed
    refine ⟨⟨answer, response⟩, { course with pending := sight.pending }, ?_, rfl,
      (List.append_nil _).symm⟩
    simp only [Course.step, same, watched]

/-- A thread that begins to work on its session. -/
theorem Works.start (works : Works env pending session function now) (underway : Underway pending) :
    Closing env (some session.ref) (function.runOn session) := by
  apply Prog.Closes.map
  cases works with
  | process => exact sessionProcess_handsOver ⟨rfl, underway.unfinished session rfl⟩
  | answers _ procType request response =>
    exact requestCallback_handsOver procType response ⟨rfl, underway.unfinished session rfl⟩

/-- A course that has executed nothing is at its start. -/
theorem course_at_start {course : Course} (created : Created env session)
    (reachable : (courseMachine env session).Reachable course) (nothing : course.executed = []) :
    course.pending = .queued session := by
  refine (@Created.invariant _ _ _ (fun course => course.executed = [] → course.pending = .queued session) created
    (fun _ => rfl) ?_ reachable).2 nothing
  intro before next underway moves start nothing
  cases moves with
  | rests executed subscribed => exact start nothing
  | stops other executed subscribed empty => exact absurd empty (underway.more other rfl)
  | processed => cases nothing
  | answered other procType request executed subscribed pending answered => cases start nothing

/-- A worker takes the session once more: if this is the first time, it is as it was created. -/
theorem Origin.visit {seen : List Session} {course : Course} (origin : Origin env seen session.ref course)
    (same : course.pending = .queued session)
    (before : modules (taken seen session.ref) = course.executed.reverse ++ []) (chained : session.procChain ≠ []) :
    Origin env (seen ++ [session]) session.ref course := by
  obtain ⟨start, -, created, isOwn, reached, first, -⟩ := origin
  refine ⟨start, session.procChain.head?.toList, created, isOwn, reached, ?_, ?_, ?_⟩
  · rw [taken_append_self]
    cases visited : taken seen session.ref with
    | nil =>
      rw [visited, List.append_nil] at before
      have pending := course_at_start created reached (List.reverse_eq_nil_iff.mp before.symm)
      rw [same] at pending
      cases pending
      rintro _ ⟨⟩
      rfl
    | cons head rest =>
      rw [visited] at first
      exact first
  · rw [taken_append_self, modules_append, before, List.append_nil]
  · rw [same]
    cases chain : session.procChain with
    | nil => exact absurd chain chained
    | cons procType rest => exact .inside session procType rest chain

/-- Every course of the family is underway. -/
theorem courses_underway {courses : Nat → Option Course} (reachable : (coursesMachine env).Reachable courses)
    {ref : Nat} {course : Course} (found : courses ref = some course) : Underway course.pending := by
  obtain ⟨start, begins, reached⟩ := Machine.family_member reachable found
  obtain ⟨session, created, -, rfl⟩ := begins
  exact underway_of_reachable created reached

end Steps

/-! ## Every step of the pool -/

section Simulation

variable {env : Env} {commitNum : Int} {workerNum maxTaskNum : Nat} {state next : PoolState}
variable {courses : Nat → Option Course} {seen : List Session}

/-- A step after which everything but the threads is where it was leaves the courses. -/
theorem PoolFollows.aside (related : PoolFollows env (state, seen) courses) (inv : PoolState.PoolInv next)
    (queue : next.queue = state.queue) (requests : next.requests = state.requests)
    (finals : next.finals = state.finals) (made : state.made.length ≤ next.made.length)
    (threads : ∀ thread ∈ next.threads, ThreadFollows env courses seen thread) :
    PoolFollows env (next, seen) courses where
  inv := inv
  follows := ⟨queue ▸ related.follows.queued, requests ▸ related.follows.requested,
    finals ▸ related.follows.ended, threads⟩
  unmade ref bound := related.unmade ref (Nat.le_trans made bound)
  untaken := related.untaken
  origin := related.origin
  chained := related.chained

/-- `handle` begins with nothing. -/
theorem handler_follows (env : Env) (owner : Consumer.Owner) (data : PmPtr) :
    ThreadFollows env courses seen (.handler env owner data) :=
  .handles (handle_closes env data) fun _ impossible => absurd impossible List.not_mem_nil

/-- The HTTP client calls the callback of a request. -/
theorem pool_follows_respond {index : Nat} {response : Option HttpResponse}
    (reachable : (coursesMachine env).Reachable courses) (related : PoolFollows env (state, seen) courses)
    (inv : PoolState.PoolInv next)
    (stepped : PoolState.Step env commitNum workerNum maxTaskNum state (.respond index response) next) :
    PoolFollows env (next, seen) courses := by
  cases stepped with
  | respond session procType waiting =>
    have mem := List.mem_of_getElem? waiting
    obtain ⟨request, located⟩ := related.follows.requested _ mem
    obtain ⟨course, found, same, visited⟩ := located
    have underway : Underway (.requested session procType request) := same ▸ courses_underway reachable found
    have works : Works env (.requested session procType request) session (requestCallback env procType response) [] :=
      .answers session procType request response
    refine ⟨inv, ⟨related.follows.queued, fun other mem => ?_, related.follows.ended, ?_⟩, related.unmade,
      related.untaken, related.origin, related.chained⟩
    · exact related.follows.requested other ((List.eraseIdx_sublist _ _).subset mem)
    · intro thread mem
      cases List.mem_append.mp mem with
      | inl old => exact related.follows.threads thread old
      | inr last =>
        rw [List.mem_singleton.mp last]
        refine .works _ session _ [] _ works ⟨course, found, same, visited⟩ .refl (works.start underway)
          (List.mem_singleton_self _) ?_
        intro entry held other
        cases List.mem_singleton.mp held
        exact absurd rfl other

/-- A worker takes a session, and is inside the next step of its course. -/
theorem pool_follows_get (reachable : (coursesMachine env).Reachable courses)
    (related : PoolFollows env (state, seen) courses) (inv : PoolState.PoolInv next)
    (stepped : PoolState.Step env commitNum workerNum maxTaskNum state .get next) :
    PoolFollows env (next, visits state .get seen) courses := by
  cases stepped with
  | get session rest idle queue =>
    generalize same : ({ state with queue := rest, threads := state.threads ++ [.worker env session] } : PoolState) =
      next at inv ⊢
    have queued : next.queue = rest := by rw [← same]
    have requests : next.requests = state.requests := by rw [← same]
    have finals : next.finals = state.finals := by rw [← same]
    have made : next.made = state.made := by rw [← same]
    have threads : next.threads = state.threads ++ [.worker env session] := by rw [← same]
    have position : next.threads[state.threads.length]? = some (.worker env session) := by simp [threads]
    have others : next.threads.eraseIdx state.threads.length = state.threads := by
      simp [threads, List.eraseIdx_append_of_length_le]
    have first : session ∈ state.queue := queue ▸ List.mem_cons_self
    obtain ⟨course, found, same, before⟩ := related.follows.queued session first
    have underway : Underway (.queued session) := same ▸ courses_underway reachable found
    have visited : visits state .get seen = seen ++ [session] := by simp [visits, queue]
    -- the session is in no other place, so the visit is one of its course alone
    have kept : Tracks env (next.threads.eraseIdx state.threads.length) next courses seen := by
      refine ⟨fun other mem => ?_, requests ▸ related.follows.requested, finals ▸ related.follows.ended,
        fun thread mem => related.follows.threads thread (by rwa [others] at mem)⟩
      exact related.follows.queued other (queue ▸ List.mem_cons_of_mem _ (queued ▸ mem))
    have after : Tracks env (next.threads.eraseIdx state.threads.length) next courses (seen ++ [session]) := by
      apply kept.frame
      intro entry mem
      have apart := inv.accounted.apart position (List.mem_singleton_self session.entry) mem
      exact ⟨rfl, taken_append_other seen (Ne.symm apart)⟩
    have own : ThreadFollows env courses (seen ++ [session]) (.worker env session) := by
      refine .works (.queued session) session _ _ _ (.process session) ⟨course, found, same, ?_⟩ .refl
        (Works.start (.process session) underway) (List.mem_singleton_self _) ?_
      · rw [taken_append_self, modules_append, before, List.append_nil]
      · intro entry held other
        cases List.mem_singleton.mp held
        exact absurd rfl other
    rw [visited]
    refine ⟨inv, ⟨after.queued, after.requested, after.ended, fun thread mem => ?_⟩, made ▸ related.unmade,
      fun ref none => ?_, fun ref other present => ?_, fun other mem => ?_⟩
    · rw [threads] at mem
      cases List.mem_append.mp mem with
      | inl old => exact after.threads thread (by rwa [others])
      | inr last => exact List.mem_singleton.mp last ▸ own
    · have other : session.ref ≠ ref := by
        rintro rfl
        rw [none] at found
        cases found
      rw [taken_append_other seen other]
      exact related.untaken ref none
    · by_cases own : session.ref = ref
      · subst own
        rw [found] at present
        cases present
        exact (related.origin session.ref course found).visit same before (underway.more session rfl)
      · unfold Origin
        rw [taken_append_other seen own]
        exact related.origin ref other present
    · cases List.mem_append.mp mem with
      | inl old => exact related.chained other old
      | inr last =>
        rw [List.mem_singleton.mp last]
        exact underway.more session rfl

/-! ## A call of a thread -/

variable {index : Nat} {thread : PoolThread} {request : FlowCall} {rest : request.Answer → FlowProg Bool}
variable {given : request.Answer} {result : PoolState}

/-- A thread holds after a call what it has held before, or the session it has just made. -/
theorem entries_after (effect : PoolState.Effect state request given result) {held : Held} {entry : Entry}
    (mem : entry ∈ (held.after request given).entries) : entry ∈ held.entries ∨ entry.1 = state.made.length := by
  cases effect with
  | pushMsg | sendRequest | final | finalMarks | destroy => exact .inl (List.mem_of_mem_erase mem)
  | makeShared kafkaData =>
    cases List.mem_cons.mp mem with
    | inl head => exact .inr (head ▸ rfl)
    | inr old => exact .inl old
  | storeDone data => exact .inl mem
  | outside request answer outside => exact .inl (by rwa [Held.after_outside outside] at mem)

/-- A call about other sessions leaves its own session to the thread. -/
theorem holds_after (effect : PoolState.Effect state request given result) {held : Held} {session : Session}
    (spares : request.spares env (some session.ref)) (holds : session.entry ∈ held.entries) :
    session.entry ∈ (held.after request given).entries := by
  have kept : ∀ other : Session, some session.ref ≠ some other.ref → session.entry ∈ held.entries.erase other.entry := by
    intro other apart
    refine (List.mem_erase_of_ne fun same => apart ?_).mpr holds
    exact congrArg some (congrArg Prod.fst same)
  cases effect with
  | pushMsg other => exact kept other spares.1
  | destroy other => exact kept other spares
  | sendRequest | final | finalMarks => exact spares.elim
  | makeShared kafkaData => exact List.mem_cons_of_mem _ holds
  | storeDone data => exact holds
  | outside request answer outside => rwa [Held.after_outside outside]

/-- What a call of a thread does: it hands over the session that the thread works on, and the thread
    returns; or it is about other sessions, and the thread goes on. -/
inductive CallFollows (env : Env) (courses : Nat → Option Course) (seen : List Session) (thread : PoolThread)
    (request : FlowCall) (given : request.Answer) (rest : FlowProg Bool) : Prop where
  | passes (pending : Pending) (session : Session) (function : Flow Unit) (now : List ProcType) (sight : Sight) (value : Bool)
      (works : Works env pending session function now) (located : Located courses seen now session.ref pending)
      (leads : Prog.Leads (Sight.after session.ref) (function.runOn session) { pending := pending }
        (.ret value) (sight.after session.ref request given))
      (passes : request.passesOn (some session.ref)) (holds : session.entry ∈ thread.held.entries)
      (returns : rest = .ret value)
  | spares (own : Option Nat) (spares : request.spares env own)
      (new : ∀ session, request = .pushMsg session → session.entry ∈ thread.held.entries →
        courses session.ref = none)
      (follows : ThreadFollows env courses seen
        { thread with held := thread.held.after request given, program := rest })

theorem ThreadFollows.call (follows : ThreadFollows env courses seen thread)
    (calling : thread.program = .call request rest) (effect : PoolState.Effect state request given result)
    (unmade : ∀ ref, state.made.length ≤ ref → courses ref = none) :
    CallFollows env courses seen thread request given (rest given) := by
  have later : ∀ property : Entry → Prop,
      (∀ entry ∈ thread.held.entries, property entry → courses entry.1 = none) →
        ∀ entry ∈ (thread.held.after request given).entries, property entry → courses entry.1 = none := by
    intro property new entry mem other
    cases entries_after effect mem with
    | inl old => exact new entry old other
    | inr last => exact unmade _ (Nat.le_of_eq last.symm)
  cases follows with
  | returned value returned empty =>
    rw [calling] at returned
    cases returned
  | handles closing new =>
    rw [calling] at closing
    cases closing with
    | inl passes =>
      obtain ⟨session, -, own⟩ := passes.1
      cases own
    | inr spares =>
      have expected : request.distinct none given := FlowCall.distinct_none request given
      refine .spares none spares.1 (fun session _ mem => new session.entry mem) ?_
      refine .handles (spares.2 given expected) fun entry mem => ?_
      exact later (fun _ => True) (fun entry mem _ => new entry mem) entry mem trivial
  | works pending session function now sight works located leads closing holds new =>
    rw [calling] at closing leads
    cases closing with
    | inl passes =>
      obtain ⟨value, returns⟩ := passes.2 given
      refine .passes pending session function now sight value works located ?_ passes.1 holds returns
      rw [← returns]
      exact leads.call given
    | inr spares =>
      -- the session that is made is another one: its identity has no course yet
      have expected : request.distinct (some session.ref) given := by
        cases effect with
        | makeShared kafkaData =>
          intro same
          obtain ⟨course, found, -⟩ := located
          rw [unmade session.ref (Nat.le_of_eq (Option.some.inj same).symm)] at found
          cases found
        | outside request answer outside => cases request <;> trivial
        | _ => trivial
      refine .spares (some session.ref) spares.1 ?_ ?_
      · rintro other rfl mem
        exact new other.entry mem fun same => spares.1.1 (congrArg some same.symm)
      · refine .works pending session function now _ works located (leads.call given) (spares.2 given expected) ?_ ?_
        · exact holds_after effect spares.1 holds
        · exact later (fun entry => entry.1 ≠ session.ref) new

/-- The course of one session has changed, and no other one. -/
theorem unmoved_update {ref other : Nat} {course : Course} (apart : other ≠ ref) :
    Unmoved courses (Function.update courses ref (some course)) seen seen other :=
  ⟨Function.update_of_ne apart _ _, rfl⟩

theorem update_none {ref other : Nat} {course : Course}
    (absent : Function.update courses ref (some course) other = none) : courses other = none := by
  by_cases same : other = ref
  · rw [same, Function.update_self] at absent
    cases absent
  · rwa [Function.update_of_ne same] at absent

theorem origin_update {ref : Nat} {after : Course}
    (origin : ∀ ref course, courses ref = some course → Origin env seen ref course)
    (own : Origin env seen ref after) (other : Nat) (course : Course)
    (found : Function.update courses ref (some after) other = some course) : Origin env seen other course := by
  by_cases same : other = ref
  · subst same
    rw [Function.update_self] at found
    cases found
    exact own
  · rw [Function.update_of_ne same] at found
    exact origin other course found

/-- A thread hands its own session over: its course makes a step. -/
theorem pool_follows_passes {new : PoolThread} (reachable : (coursesMachine env).Reachable courses)
    (related : PoolFollows env (state, seen) courses) (found : state.threads[index]? = some thread)
    (effect : PoolState.Effect state request given result) (inv : PoolState.PoolInv next)
    (same : next = { result with threads := state.threads.set index new }) {pending : Pending} {session : Session}
    {function : Flow Unit} {now : List ProcType} {sight : Sight} {value : Bool} (works : Works env pending session function now)
    (located : Located courses seen now session.ref pending)
    (leads : Prog.Leads (Sight.after session.ref) (function.runOn session) { pending := pending }
      (.ret value) (sight.after session.ref request given))
    (passes : request.passesOn (some session.ref)) (holds : session.entry ∈ thread.held.entries)
    (returns : new.program = .ret value) :
    ∃ acts after, (coursesMachine env).run courses acts = some after ∧ PoolFollows env (next, seen) after := by
  obtain ⟨course, present, at_, visited⟩ := located
  obtain ⟨moment, after, stepped, arrived, executed⟩ :=
    works.completes at_ (at_ ▸ courses_underway reachable present) leads
  refine ⟨[.move session.ref moment], _, Machine.family_move present stepped, ?_⟩
  have moved : ∀ ref pending, session.ref = ref → (sight.after session.ref request given).pending = pending →
      Located (Function.update courses session.ref (some after)) seen [] ref pending := by
    rintro _ _ rfl rfl
    exact ⟨after, Function.update_self .., arrived, by rw [visited, executed, List.append_nil]⟩
  -- the session was in the hands of this thread alone, so the course of no other one has moved
  have others : Tracks env (state.threads.eraseIdx index) state (Function.update courses session.ref (some after))
      seen := (related.follows.others index).frame fun entry mem =>
    unmoved_update (related.inv.accounted.apart found holds mem)
  have own : ThreadFollows env (Function.update courses session.ref (some after)) seen new := by
    have mem : new ∈ next.threads := by
      obtain ⟨bound, -⟩ := List.getElem?_eq_some_iff.mp found
      rw [same]
      exact List.mem_of_getElem? (List.getElem?_set_self bound)
    have safe := inv.working.safe new mem
    rw [PoolThread.Safe, returns] at safe
    exact .returned value returns (by rw [safe _ rfl])
  have unmade : ∀ ref, state.made.length ≤ ref → Function.update courses session.ref (some after) ref = none := by
    intro ref bound
    have absent := related.unmade ref bound
    rw [Function.update_of_ne, absent]
    rintro rfl
    rw [absent] at present
    cases present
  have untaken : ∀ ref, Function.update courses session.ref (some after) ref = none → taken seen ref = [] :=
    fun ref absent => related.untaken ref (update_none absent)
  have origin : ∀ ref course, Function.update courses session.ref (some after) ref = some course →
      Origin env seen ref course := by
    apply origin_update related.origin
    obtain ⟨start, -, created, isOwn, reached, first, -⟩ := related.origin session.ref course present
    exact ⟨start, [], created, isOwn, reached.step stepped, first, by rw [visited, executed, List.append_nil],
      .between _⟩
  -- it is in the queue, with the client or finalised now, as its course is
  obtain ⟨other, handed, passed⟩ := passes
  have passed : session.ref = other.ref := Option.some.inj passed
  subst same
  cases effect with
  | pushMsg pushed =>
    cases handed
    refine ⟨inv, others.put found own rfl ?_ (fun _ => .inl) (fun _ => .inl), unmade, untaken, origin, related.chained⟩
    intro queued mem
    refine (List.mem_append.mp mem).imp_right fun last => ?_
    rw [List.mem_singleton.mp last]
    exact moved other.ref _ passed (by simp [Sight.after, passed])
  | sendRequest sent procType info =>
    cases handed
    refine ⟨inv, others.put found own rfl (fun _ => .inl) ?_ (fun _ => .inl), unmade, untaken, origin, related.chained⟩
    intro waiting mem
    refine (List.mem_append.mp mem).imp_right fun last => ?_
    rw [List.mem_singleton.mp last]
    exact ⟨info, moved other.ref _ passed (by simp [Sight.after, passed])⟩
  | final ended err _ | finalMarks ended err data _ =>
    cases handed
    refine ⟨inv, others.put found own rfl (fun _ => .inl) (fun _ => .inl) ?_, unmade, untaken, origin, related.chained⟩
    intro entry mem
    refine (List.mem_append.mp mem).imp_right fun last => ?_
    rw [List.mem_singleton.mp last]
    exact moved other.ref _ passed (by simp [Sight.after, passed])
  | destroy | makeShared | storeDone => cases handed
  | outside request answer outside => cases request <;> first | exact outside.elim | cases handed

/-- A thread pushes a session that it has made: the course of that session begins. -/
theorem pool_follows_begins {new : PoolThread} {pushed : Session} (related : PoolFollows env (state, seen) courses)
    (found : state.threads[index]? = some thread) (inv : PoolState.PoolInv next)
    (same : next = { state with
      queue := state.queue ++ [pushed], threads := state.threads.set index new })
    (holds : pushed.entry ∈ thread.held.entries) (left : new.held.entries = thread.held.entries.erase pushed.entry)
    (created : Created env pushed) (free : courses pushed.ref = none) (follows : ThreadFollows env courses seen new) :
    ∃ acts after, (coursesMachine env).run courses acts = some after ∧ PoolFollows env (next, seen) after := by
  let start : Course := { pending := .queued pushed }
  have made := related.inv.accounted.made_of_held found holds
  have others : Tracks env (state.threads.eraseIdx index) state (Function.update courses pushed.ref (some start))
      seen := (related.follows.others index).frame fun entry mem =>
    unmoved_update (related.inv.accounted.apart found holds mem)
  have own : ThreadFollows env (Function.update courses pushed.ref (some start)) seen new := follows.frame fun entry mem =>
    unmoved_update (related.inv.accounted.apart_held found holds (left ▸ mem))
  refine ⟨[.begin pushed.ref start], _, Machine.family_begin free ⟨pushed, created, rfl, rfl⟩, ?_⟩
  subst same
  have untaken : taken seen pushed.ref = [] := related.untaken pushed.ref free
  have origin : Origin env seen pushed.ref start := by
    refine ⟨pushed, [], created, rfl, .start, ?_, ?_, .between _⟩
    · rw [untaken]
      intro _ impossible
      cases impossible
    · rw [untaken]
      rfl
  refine ⟨inv, others.put found own rfl ?_ (fun _ => .inl) (fun _ => .inl), ?_, fun ref absent =>
    related.untaken ref (update_none absent), origin_update related.origin origin, related.chained⟩
  · intro queued mem
    refine (List.mem_append.mp mem).imp_right fun last => ?_
    rw [List.mem_singleton.mp last]
    exact ⟨start, Function.update_self .., rfl, by rw [untaken]; rfl⟩
  · intro ref bound
    have inside : pushed.ref ∈ List.range state.made.length := by
      rw [← related.inv.accounted.refs]
      exact List.mem_map_of_mem made
    rw [Function.update_of_ne (Nat.ne_of_gt (Nat.lt_of_lt_of_le (List.mem_range.mp inside) bound))]
    exact related.unmade ref bound

/-- One call of a thread. -/
theorem pool_follows_call (reachable : (coursesMachine env).Reachable courses)
    (related : PoolFollows env (state, seen) courses) (found : state.threads[index]? = some thread)
    (calling : thread.program = .call request rest) (effect : PoolState.Effect state request given result)
    (inv : PoolState.PoolInv next)
    (same : next = { result with
      threads := state.threads.set index { thread with
        held := thread.held.after request given, program := rest given } }) :
    ∃ acts after, (coursesMachine env).run courses acts = some after ∧ PoolFollows env (next, seen) after := by
  have mem := List.mem_of_getElem? found
  cases (related.follows.threads thread mem).call calling effect related.unmade with
  | passes pending session function now sight value works located leads passes holds returns =>
    exact pool_follows_passes reachable related found effect inv same works located leads passes holds returns
  | spares own spares new follows =>
    have kept := related.inv.working.safe thread mem
    rw [PoolThread.Safe, calling] at kept
    have allowed := kept.called.1
    -- where nothing is pushed, every session stays where it is
    have aside : result.queue = state.queue → result.requests = state.requests → result.finals = state.finals →
        state.made.length ≤ result.made.length →
          ∃ acts after, (coursesMachine env).run courses acts = some after ∧ PoolFollows env (next, seen) after := by
      intro queue requests finals made
      have put : Tracks env next.threads next courses seen := by
        subst same
        refine (related.follows.others index).put found follows rfl ?_ ?_ ?_
        · exact fun _ mem => .inl (queue ▸ mem)
        · exact fun _ mem => .inl (requests ▸ mem)
        · exact fun _ mem => .inl (finals ▸ mem)
      subst same
      exact ⟨[], courses, rfl, related.aside inv queue requests finals made put.threads⟩
    cases effect with
    | pushMsg pushed =>
      exact pool_follows_begins related found inv same allowed.1 rfl spares.2 (new pushed rfl allowed.1) follows
    | sendRequest | final | finalMarks => exact spares.elim
    | makeShared kafkaData => exact aside rfl rfl rfl (by simp)
    | storeDone data => exact aside rfl rfl rfl (Nat.le_refl _)
    | destroy session => exact aside rfl rfl rfl (Nat.le_refl _)
    | outside request answer outside => exact aside rfl rfl rfl (Nat.le_refl _)

theorem pool_follows_step {label : PoolLabel} (reachable : (coursesMachine env).Reachable courses)
    (related : PoolFollows env (state, seen) courses)
    (stepped : state.step env commitNum workerNum maxTaskNum label = some next) :
    ∃ acts after, (coursesMachine env).run courses acts = some after ∧
      PoolFollows env (next, visits state label seen) after := by
  have inv := (PoolState.poolInv_step related.inv stepped).1
  have step := PoolState.step_cases stepped
  cases label with
  | get => exact ⟨[], courses, rfl, pool_follows_get reachable related inv step⟩
  | respond index response => exact ⟨[], courses, rfl, pool_follows_respond reachable related inv step⟩
  | process msg =>
    cases step
    exact ⟨[], courses, rfl, related.aside inv rfl rfl rfl (Nat.le_refl _) related.follows.threads⟩
  | manager partition label =>
    cases step
    exact ⟨[], courses, rfl, related.aside inv rfl rfl rfl (Nat.le_refl _) related.follows.threads⟩
  | handle partition owner =>
    cases step
    refine ⟨[], courses, rfl, related.aside inv rfl rfl rfl (Nat.le_refl _) fun thread mem => ?_⟩
    cases List.mem_append.mp mem with
    | inl old => exact related.follows.threads thread old
    | inr last => exact List.mem_singleton.mp last ▸ handler_follows env owner _
  | advance index answer =>
    cases step with
    | returns | handled =>
      -- the thread is gone, and the others go on
      exact ⟨[], courses, rfl, related.aside inv rfl rfl rfl (Nat.le_refl _) (related.follows.others index).threads⟩
    | calls thread request rest given result found calling executed =>
      exact pool_follows_call reachable related found calling (PoolState.effect_of_exec executed) inv rfl

/-- The courses answer every step of the pool. -/
theorem pool_simulates (env : Env) (commitNum : Int) (workerNum maxTaskNum : Nat) :
    Machine.Simulates ((poolMachine env commitNum workerNum maxTaskNum).observed visits []) (coursesMachine env)
      (PoolFollows env) where
  start := by
    refine ⟨PoolState.PoolInv.start, ⟨?_, ?_, ?_, ?_⟩, fun _ _ => rfl, fun _ _ => rfl, ?_, ?_⟩
    case refine_5 =>
      intro ref course impossible
      cases impossible
    all_goals
      intro _ mem
      cases mem
  step := by
    rintro ⟨state, seen⟩ courses label ⟨next, later⟩ reachable related stepped
    simp only [Machine.observed, Option.map_eq_some_iff, Prod.mk.injEq] at stepped
    obtain ⟨_, stepped, rfl, rfl⟩ := stepped
    exact pool_follows_step reachable related stepped

end Simulation

/-! ## What holds of the sessions of the pool -/

/-- What the pool has of its sessions belongs to the courses of these sessions. -/
structure OnCourse (state : PoolState) (courses : Nat → Option Course) : Prop where
  queued : ∀ session ∈ state.queue, ∃ course, courses session.ref = some course ∧ course.pending = .queued session
  requested : ∀ waiting ∈ state.requests, ∃ course request, courses waiting.1.ref = some course ∧
    course.pending = .requested waiting.1 waiting.2 request
  ended : ∀ entry ∈ state.finals, ∃ course, courses entry.1 = some course ∧ course.pending = .ended

/-- In any run of the pool, whatever its threads interleave and are answered, each session is where a run of
    its own course from its creation has taken it. -/
theorem pool_follows_courses (env : Env) (commitNum : Int) (workerNum maxTaskNum : Nat) (state : PoolState)
    (reachable : (poolMachine env commitNum workerNum maxTaskNum).Reachable state) :
    ∃ courses, OnCourse state courses ∧ ∀ ref course, courses ref = some course →
      ∃ session, Created env session ∧ session.ref = ref ∧ (courseMachine env session).Reachable course := by
  obtain ⟨labels, ran⟩ := reachable
  obtain ⟨acts, courses, reached, related⟩ := (pool_simulates env commitNum workerNum maxTaskNum).run .start
    (pool_simulates env commitNum workerNum maxTaskNum).start (Machine.run_observed ran)
  refine ⟨courses, ⟨?_, ?_, ?_⟩, ?_⟩
  · intro session mem
    obtain ⟨course, found, pending, -⟩ := related.follows.queued session mem
    exact ⟨course, found, pending⟩
  · intro waiting mem
    obtain ⟨request, course, found, pending, -⟩ := related.follows.requested waiting mem
    exact ⟨course, request, found, pending⟩
  · intro entry mem
    obtain ⟨course, found, pending, -⟩ := related.follows.ended entry mem
    exact ⟨course, found, pending⟩
  · intro ref course found
    obtain ⟨start, ⟨session, created, same, rfl⟩, member⟩ := Machine.family_member ⟨acts, reached⟩ found
    exact ⟨session, created, same, member⟩

set_option maxRecDepth 4000 in
theorem pool_follows_courses_traceThroughWait :
    ∃ state, (poolMachine poolEnv 1 1 10).run (poolMachine poolEnv 1 1 10).start traceThroughWait = some state ∧
      state.queue.length = 1 ∧
      ∃ courses, OnCourse state courses ∧ ∀ ref course, courses ref = some course →
        ∃ session, Created poolEnv session ∧ session.ref = ref ∧ (courseMachine poolEnv session).Reachable course :=
  ⟨_, rfl, rfl, pool_follows_courses poolEnv 1 1 10 _ ⟨traceThroughWait, rfl⟩⟩

/-- What the workers have executed for a session that was first taken as it is here. -/
structure Visited (env : Env) (first : Session) (executed : List ProcType) : Prop where
  created : Created env first
  /-- Where the configured number of retries is not negative, it is bounded. -/
  bounded : (∀ times, env.conf.getIntValue "common" "httpretrytime" = some times → 0 ≤ times) →
    executed.length ≤ stepBound env first
  /-- No module is skipped or comes before its turn; the modules with a request may be repeated. -/
  order : ∃ subscribed done rest, first.procChain ++ addedOutput subscribed = done.reverse ++ rest ∧
    Repeats executed.reverse done
  once : ∀ procType : ProcType, procType.isHttp = false → executed.count procType ≤ 1

/-- What a course has executed, with the module that a worker is at. -/
theorem visited_of_course {env : Env} {session : Session} {course : Course} {now : List ProcType}
    (created : Created env session) (reachable : (courseMachine env session).Reachable course)
    (isAt : IsAt course.pending now) : Visited env session (course.executed.reverse ++ now) := by
  obtain ⟨nodup, output⟩ := created.onRoute
  have onRoute := onRoute_of_reachable created reachable
  have underway := underway_of_reachable created reachable
  have left := fun configured => stepsLeft_of_reachable created configured reachable
  obtain ⟨pending, executed, subscribed⟩ := course
  cases isAt with
  | between =>
    have inOrder := onRoute.inOrder nodup
    obtain ⟨done, rest, split, repeats⟩ := inOrder.order
    simp only [List.append_nil]
    refine ⟨created, fun configured => ?_, ⟨subscribed, done, rest, split, by rwa [List.reverse_reverse]⟩,
      fun procType plain => ?_⟩
    · rw [List.length_reverse]
      exact Nat.le_trans (Nat.le_add_right _ _) (left configured)
    · rw [List.count_reverse]
      exact inOrder.once procType plain
  | inside other procType rest chain =>
    -- the module is the next one of the course, which may end with it
    have moves : Moves ⟨.queued other, executed, subscribed⟩ ⟨.ended, procType :: executed, subscribed || false⟩ :=
      .processed other procType rest executed subscribed false .ended chain (by simp) .ended
    have inOrder := (moves.onRoute nodup output onRoute).inOrder nodup
    obtain ⟨done, more, split, repeats⟩ := inOrder.order
    rw [← List.reverse_cons]
    refine ⟨created, fun configured => ?_, ⟨_, done, more, split, by rwa [List.reverse_reverse]⟩,
      fun procType plain => ?_⟩
    · rw [List.length_reverse]
      exact (moves.stepsLeft underway).trans (left configured)
    · rw [List.count_reverse]
      exact inOrder.once procType plain

/-- In any run of the pool, the workers take a session from the queue for the modules of its first chain, in their
    order, and a bounded number of times that is known when it is made. -/
theorem visits_in_order (env : Env) (commitNum : Int) (workerNum maxTaskNum : Nat) (labels : List PoolLabel)
    (state : PoolState)
    (ran : (poolMachine env commitNum workerNum maxTaskNum).run
      (poolMachine env commitNum workerNum maxTaskNum).start labels = some state) (ref : Nat) (first : Session)
    (again : List Session)
    (visited : taken ((poolMachine env commitNum workerNum maxTaskNum).observe visits
      (poolMachine env commitNum workerNum maxTaskNum).start labels []) ref = first :: again) :
    Visited env first (modules (first :: again)) ∧ (modules (first :: again)).length = again.length + 1 := by
  obtain ⟨acts, courses, reached, related⟩ := (pool_simulates env commitNum workerNum maxTaskNum).run .start
    (pool_simulates env commitNum workerNum maxTaskNum).start (Machine.run_observed ran)
  cases found : courses ref with
  | none =>
    rw [related.untaken ref found] at visited
    cases visited
  | some course =>
    obtain ⟨session, now, created, -, member, isFirst, executed, isAt⟩ := related.origin ref course found
    rw [visited] at isFirst executed
    cases isFirst first rfl
    refine ⟨executed ▸ visited_of_course created member isAt, modules_length fun other mem => ?_⟩
    apply related.chained
    rw [← visited] at mem
    exact List.mem_of_mem_filter mem

set_option maxRecDepth 4000 in
theorem visits_in_order_traceThroughWait :
    ∃ first again, taken ((poolMachine poolEnv 1 1 10).observe visits (poolMachine poolEnv 1 1 10).start
        traceThroughWait []) 0 = first :: again ∧ again.length = 3 ∧
      Visited poolEnv first (modules (first :: again)) :=
  ⟨_, _, rfl, rfl, (visits_in_order poolEnv 1 1 10 traceThroughWait _ rfl 0 _ _ rfl).1⟩

end XBusiness
