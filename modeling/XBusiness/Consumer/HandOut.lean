import XBusiness.Consumer.CommitSafety

/-! # Every node is handed out once

`emplace_back` marks the node it has appended as doing and hands it to `handle`, with the
mutex held.  While `handle` runs, and after it, sessions may set nodes that were handed out to
done.

* `Moved` — a node state stays, or takes one step of todo, doing, done.
* `HandedOut` — the invariant of a manager: every node was handed out or is the one that a
  running `emplace_back` is about to hand out, a node that was handed out is not todo, and
  exactly the marked nodes are done.
* `HandedOut.emplaceBack` … `HandedOut.finish` — the invariant survives everything that a
  manager and the sessions of its nodes do, and every node state is `Moved`.
-/

namespace XBusiness.Consumer

open Interaction

/-! ## The contract of `emplace_back` -/

/-- A partition with the nodes that were handed to `handle`. -/
structure HandWorld where
  world : Partition
  handled : Nat → Prop
  wf : world.WellFormed
  bound : ∀ node, handled node → node < world.nodes.length

/-- Two worlds that agree on everything `emplace_back` counts on, but for the nodes that were
    handed out. -/
structure SameUnhandled (handled : Nat → Prop) (before after : Partition) : Prop where
  length : after.nodes.length = before.nodes.length
  pending : after.pending = before.pending
  states : ∀ node, ¬ handled node → after.stateAt node = before.stateAt node

theorem SameUnhandled.refl (handled : Nat → Prop) (world : Partition) :
    SameUnhandled handled world world :=
  ⟨rfl, rfl, fun _ _ => rfl⟩

theorem SameUnhandled.trans {handled : Nat → Prop} {first second third : Partition}
    (left : SameUnhandled handled first second) (right : SameUnhandled handled second third) :
    SameUnhandled handled first third where
  length := right.length.trans left.length
  pending := right.pending.trans left.pending
  states node unhandled := (right.states node unhandled).trans (left.states node unhandled)

def HandRely (before after : HandWorld) : Prop :=
  after.handled = before.handled ∧ SameUnhandled before.handled before.world after.world

/-- The calls of `emplace_back`, each with what must hold where it is made. -/
def HandAllowed (before : HandWorld) : PartitionCall → Prop
  | .lock | .loadState _ | .storeTime _ => True
  | .pushBack data => data.state = .todo ∧ before.world.pending = none
  | .storeState node state =>
    before.world.pending = some node ∧ ¬ before.handled node ∧
      before.world.stateAt node = some .todo ∧ state = .doing
  | .handle node =>
    before.world.pending = some node ∧ ¬ before.handled node ∧
      before.world.stateAt node = some .doing
  | .unlock => ∀ node, before.world.pending = some node → before.handled node
  | _ => False

/-- What a call does; a session may finish the node of `handle` before it returns. -/
def HandEffect (before : HandWorld) (request : PartitionCall) (answer : request.Answer)
    (after : HandWorld) : Prop :=
  match request with
  | .handle node =>
    after.handled = (fun other => before.handled other ∨ other = node) ∧
      SameUnhandled after.handled before.world after.world
  | request => after.handled = before.handled ∧
      ∃ given, before.world.exec .consumer request given = some (answer, after.world)

def handContract : Contract HandWorld PartitionCall PartitionCall.Answer where
  rely := HandRely
  allowed := HandAllowed
  effect := HandEffect
  rely_refl world := ⟨rfl, .refl _ world.world⟩
  rely_trans left right := ⟨right.1.trans left.1, left.2.trans (left.1 ▸ right.2)⟩

abbrev HandSafe (program : PartitionProg Unit) (world : HandWorld) : Prop :=
  program.Safe handContract (fun _ => False) (fun _ _ => True) world

theorem emplaceBack_hands (data : PmData) (todo : data.state = .todo) (world : HandWorld) :
    HandSafe (emplaceBack data) world := by
  refine Prog.Safe.perform fun waited _ => ⟨trivial, ?_⟩
  rintro _ locked ⟨-, _, effect⟩
  obtain ⟨free, lockedEq⟩ := Partition.exec_lock.mp effect
  have idle : locked.world.pending = none := by
    rw [← lockedEq]
    exact waited.wf.pending_none (by rw [free]; decide)
  refine Prog.Safe.perform fun pushing toPush => ⟨⟨todo, toPush.2.pending.trans idle⟩, ?_⟩
  rintro node pushed ⟨handledPushed, _, effect⟩
  obtain ⟨rfl, pushedEq⟩ := Partition.exec_pushBack.mp effect
  -- the new node, as it is up to the call of `handle`
  have new : ¬ pushed.handled pushing.world.nodes.length := by
    rw [handledPushed]
    exact fun old => Nat.lt_irrefl _ (pushing.bound _ old)
  have pendingPushed : pushed.world.pending = some pushing.world.nodes.length := by rw [← pushedEq]
  have todoPushed : pushed.world.stateAt pushing.world.nodes.length = some .todo := by
    rw [← pushedEq]
    simp [Partition.stateAt, todo]
  refine Prog.Safe.perform fun reading toRead => ⟨trivial, ?_⟩
  rintro state loaded ⟨handledLoaded, _, effect⟩
  obtain ⟨known, loadedEq⟩ := Partition.exec_loadState.mp effect
  rw [toRead.2.states _ new, todoPushed] at known
  cases known
  refine Prog.Safe.perform fun marking toMark => ?_
  have handledMarking : marking.handled = pushed.handled :=
    toMark.1.trans (handledLoaded.trans toRead.1)
  have pendingMarking : marking.world.pending = some pushing.world.nodes.length := by
    rw [toMark.2.pending, ← loadedEq, toRead.2.pending, pendingPushed]
  have todoMarking : marking.world.stateAt pushing.world.nodes.length = some .todo := by
    rw [toMark.2.states _ (by rw [handledLoaded, toRead.1]; exact new), ← loadedEq,
      toRead.2.states _ new, todoPushed]
  refine ⟨⟨pendingMarking, by rw [handledMarking]; exact new, todoMarking, rfl⟩, ?_⟩
  rintro _ marked ⟨handledMarked, _, effect⟩
  rw [Partition.exec_storeState] at effect
  have newMarked : ¬ marked.handled pushing.world.nodes.length := by
    rw [handledMarked, handledMarking]
    exact new
  refine Prog.Safe.perform fun timing toTime => ⟨trivial, ?_⟩
  rintro _ timed ⟨handledTimed, _, effectTime⟩
  rw [Partition.exec_storeTime] at effectTime
  have newTimed : ¬ timed.handled pushing.world.nodes.length := by
    rw [handledTimed, toTime.1]
    exact newMarked
  have pendingTimed : timed.world.pending = some pushing.world.nodes.length := by
    rw [← effectTime.2, Partition.pending_setTime, toTime.2.pending, ← effect,
      Partition.pending_setState, pendingMarking]
  have doingTimed : timed.world.stateAt pushing.world.nodes.length = some .doing := by
    rw [← effectTime.2, Partition.stateAt_setTime, toTime.2.states _ newMarked, ← effect,
      Partition.stateAt_setState, todoMarking]
    simp
  intro handling toHandle
  have pendingHandling := toHandle.2.pending.trans pendingTimed
  refine ⟨⟨pendingHandling, by rw [toHandle.1]; exact newTimed,
    (toHandle.2.states _ newTimed).trans doingTimed⟩, ?_⟩
  rintro accepted given ⟨handledGiven, kept⟩
  intro leaving toUnlock
  refine ⟨?_, fun _ _ _ _ _ => trivial⟩
  intro node pending
  rw [toUnlock.2.pending, kept.pending, pendingHandling] at pending
  cases pending
  rw [toUnlock.1, handledGiven]
  exact .inr rfl

/-! ## The invariant of a manager -/

/-- A node state stays, is that of a new node, or takes one step. -/
def Moved (before after : Option NodeState) : Prop :=
  after = before ∨ before = none ∧ after = some .todo ∨
    before = some .todo ∧ after = some .doing ∨ before = some .doing ∧ after = some .done

theorem Moved.refl (state : Option NodeState) : Moved state state := .inl rfl

/-- `handled` are the nodes that were handed out, `marked` those that were set to done since. -/
structure HandOrder (handled marked : Nat → Prop) (world : Partition) : Prop where
  bound : ∀ node, handled node → node < world.nodes.length
  all : ∀ node < world.nodes.length, handled node ∨ world.pending = some node
  started : ∀ node, handled node → world.stateAt node ≠ some .todo
  done : ∀ node, world.stateAt node = some .done ↔ marked node

/-- `running` is the node whose `handle` has not returned. -/
structure HandedOut (handled marked : Nat → Prop) (running : Option Nat)
    (manager : PartitionState) : Prop where
  safe : manager.Safe fun _ _ => True
  order : HandOrder handled marked manager.world
  idle : running = none → ∀ program, manager.consumer = some program →
    HandSafe program ⟨manager.world, handled, safe.wf, order.bound⟩
  busy : ∀ node, running = some node → ∃ next, manager.consumer = some (.call (.handle node) next) ∧
    ∀ accepted, HandSafe (next accepted) ⟨manager.world, handled, safe.wf, order.bound⟩

variable {handled marked : Nat → Prop}

/-! ## What one call does to the nodes -/

theorem HandOrder.of_nodes {world after : Partition} (order : HandOrder handled marked world)
    (nodes : after.nodes = world.nodes) (pending : after.pending = world.pending) :
    HandOrder handled marked after where
  bound := nodes ▸ order.bound
  all := by rw [nodes, pending]; exact order.all
  started := by simpa only [Partition.stateAt, nodes] using order.started
  done := by simpa only [Partition.stateAt, nodes] using order.done

theorem moved_of_nodes {world after : Partition} (nodes : after.nodes = world.nodes) (node : Nat) :
    Moved (world.stateAt node) (after.stateAt node) := by
  simp only [Partition.stateAt, nodes]
  exact .refl _

theorem HandOrder.lt_of_marked {world : Partition} (order : HandOrder handled marked world)
    {node : Nat} (mark : marked node) : node < world.nodes.length :=
  Partition.lt_of_stateAt ((order.done node).mpr mark)

/-- The scanner leaves the nodes and the pending one alone. -/
theorem scanner_exec_nodes {world after : Partition} {request : PartitionCall}
    {given answer : request.Answer} (wf : world.WellFormed) (allowed : ScannerAllowed world request)
    (effect : world.exec .scanner request given = some (answer, after)) :
    after.nodes = world.nodes ∧ after.pending = world.pending := by
  refine ⟨?_, (scanner_exec wf allowed effect).2.pending⟩
  cases request with
  | lock =>
    obtain ⟨-, rfl⟩ := Partition.exec_lock.mp effect
    rfl
  | loadState node =>
    obtain ⟨-, rfl⟩ := Partition.exec_loadState.mp effect
    rfl
  | commitSync kmsg =>
    obtain ⟨-, rfl⟩ := Partition.exec_commitSync.mp effect
    cases kmsg <;> rfl
  | unlock | loadList | storeList _ =>
    simp only [Partition.exec, Option.some.injEq, Prod.mk.injEq] at effect
    obtain ⟨-, rfl⟩ := effect
    rfl
  | pushBack _ => exact absurd allowed id
  | storeState _ _ => exact absurd allowed id
  | storeTime _ => exact absurd allowed id
  | handle _ => exact absurd allowed id

/-- A node at the end is not handed out yet: it is the pending one. -/
theorem HandOrder.pushBack {world : Partition} (order : HandOrder handled marked world) {data : PmData}
    (todo : data.state = .todo) (idle : world.pending = none) {after : Partition}
    (nodes : after.nodes = world.nodes ++ [data]) (pending : after.pending = some world.nodes.length) :
    HandOrder handled marked after ∧ ∀ node, Moved (world.stateAt node) (after.stateAt node) := by
  have old : ∀ node < world.nodes.length, after.stateAt node = world.stateAt node := by
    intro node bound
    rw [Partition.stateAt, Partition.stateAt, nodes, List.getElem?_append_left bound]
  have new : ∀ node, ¬ node < world.nodes.length → world.stateAt node = none ∧
      after.stateAt node = if node = world.nodes.length then some .todo else none := by
    intro node late
    have gone : world.nodes[node]? = none := List.getElem?_eq_none (by omega)
    refine ⟨by rw [Partition.stateAt, gone]; rfl, ?_⟩
    rw [Partition.stateAt, nodes]
    by_cases last : node = world.nodes.length
    · subst last
      simp [todo]
    · have gone : (world.nodes ++ [data])[node]? = none :=
        List.getElem?_eq_none (by simp only [List.length_append, List.length_singleton]; omega)
      rw [gone, if_neg last]
      rfl
  refine ⟨⟨?_, ?_, ?_, ?_⟩, ?_⟩
  · intro node handled
    have := order.bound node handled
    simp only [nodes, List.length_append, List.length_singleton]
    omega
  · intro node bound
    simp only [nodes, List.length_append, List.length_singleton] at bound
    rw [pending]
    by_cases before : node < world.nodes.length
    · refine .inl ((order.all node before).resolve_right ?_)
      rw [idle]
      simp
    · exact .inr (by simp only [Option.some.injEq]; omega)
  · intro node handled
    rw [old node (order.bound node handled)]
    exact order.started node handled
  · intro node
    by_cases before : node < world.nodes.length
    · rw [old node before]
      exact order.done node
    · -- the new node is to do, so it is not a marked one
      rw [(new node before).2]
      refine ⟨fun impossible => ?_, fun mark => absurd (order.lt_of_marked mark) before⟩
      split at impossible <;> cases impossible
  · intro node
    by_cases before : node < world.nodes.length
    · rw [old node before]
      exact .refl _
    · rw [(new node before).1, (new node before).2]
      split
      · exact .inr (.inl ⟨rfl, rfl⟩)
      · exact .refl _

/-- The pending node is set to doing, just before it is handed out. -/
theorem HandOrder.setDoing {world : Partition} (order : HandOrder handled marked world) {node : Nat}
    (new : ¬ handled node) (todo : world.stateAt node = some .todo) :
    HandOrder handled marked (world.setState node .doing) ∧
      ∀ other, Moved (world.stateAt other) ((world.setState node .doing).stateAt other) := by
  refine ⟨⟨by simpa using order.bound, by simpa using order.all, ?_, ?_⟩, ?_⟩
  · intro other handled
    rw [Partition.stateAt_setState, if_neg (by rintro rfl; exact new handled)]
    exact order.started other handled
  · intro other
    rw [Partition.stateAt_setState]
    split
    · next same =>
      subst same
      rw [← order.done, todo]
      simp
    · exact order.done other
  · intro other
    rw [Partition.stateAt_setState]
    split
    · next same =>
      subst same
      rw [todo]
      exact .inr (.inr (.inl ⟨rfl, rfl⟩))
    · exact .refl _

/-- Every call of `emplace_back` but `handle`. -/
theorem consumer_exec_hands {world : HandWorld} {after : Partition} {request : PartitionCall}
    {given answer : request.Answer} (order : HandOrder world.handled marked world.world)
    (allowed : HandAllowed world request) (other : ∀ node, request ≠ .handle node)
    (effect : world.world.exec .consumer request given = some (answer, after)) :
    HandOrder world.handled marked after ∧
      ∀ node, Moved (world.world.stateAt node) (after.stateAt node) := by
  cases request with
  | lock =>
    obtain ⟨-, rfl⟩ := Partition.exec_lock.mp effect
    exact ⟨order.of_nodes rfl rfl, moved_of_nodes rfl⟩
  | loadState node =>
    obtain ⟨-, rfl⟩ := Partition.exec_loadState.mp effect
    exact ⟨order, moved_of_nodes rfl⟩
  | unlock =>
    -- the end of `emplace_back`: the pending node has been handed out by now
    obtain rfl := Partition.exec_unlock.mp effect
    refine ⟨⟨order.bound, fun node bound => .inl ?_, order.started, order.done⟩, moved_of_nodes rfl⟩
    cases order.all node bound with
    | inl handled => exact handled
    | inr pending => exact allowed node pending
  | pushBack data =>
    obtain ⟨-, rfl⟩ := Partition.exec_pushBack.mp effect
    exact order.pushBack allowed.1 allowed.2 rfl rfl
  | storeState node state =>
    obtain rfl := Partition.exec_storeState.mp effect
    obtain ⟨-, new, todo, rfl⟩ := allowed
    exact order.setDoing new todo
  | storeTime node =>
    obtain ⟨-, rfl⟩ := Partition.exec_storeTime.mp effect
    refine ⟨⟨by simpa using order.bound, by simpa using order.all, by simpa using order.started,
      by simpa using order.done⟩, fun other => ?_⟩
    rw [Partition.stateAt_setTime]
    exact .refl _
  | handle node => exact absurd rfl (other node)
  | loadList => exact absurd allowed id
  | storeList _ => exact absurd allowed id
  | commitSync _ => exact absurd allowed id

namespace HandedOut

variable {running : Option Nat} {manager next : PartitionState}
variable {commitNum : Int}

theorem start : HandedOut (fun _ => False) (fun _ => False) none {} where
  safe := partition_start_safe _
  order := by
    refine ⟨fun _ impossible => impossible.elim, ?_, fun _ impossible => impossible.elim, ?_⟩
    · intro node bound
      simp at bound
    · intro node
      simp [Partition.stateAt]
  idle := by
    intro _ program none
    cases none
  busy := by
    intro node none
    cases none

theorem congr (handedOut : HandedOut handled marked running manager) {later done : Nat → Prop}
    (sameHandled : ∀ node, later node ↔ handled node) (sameMarked : ∀ node, done node ↔ marked node) :
    HandedOut later done running manager := by
  obtain rfl : later = handled := funext fun node => propext (sameHandled node)
  obtain rfl : done = marked := funext fun node => propext (sameMarked node)
  exact handedOut

/-- What does not touch the nodes that were not handed out, nor the consumer thread. -/
theorem stable (handedOut : HandedOut handled marked running manager) {later : Nat → Prop}
    (safe : next.Safe fun _ _ => True) (consumer : next.consumer = manager.consumer)
    (same : SameUnhandled handled manager.world next.world)
    (order : HandOrder handled later next.world) : HandedOut handled later running next where
  safe := safe
  order := order
  idle none program running := by
    rw [consumer] at running
    exact (handedOut.idle none program running).stable ⟨rfl, same⟩
  busy node some := by
    obtain ⟨next, running, safe⟩ := handedOut.busy node some
    exact ⟨next, consumer.trans running, fun accepted => (safe accepted).stable ⟨rfl, same⟩⟩

theorem emplaceBack (handedOut : HandedOut handled marked running manager) {data : PmData}
    (stepped : manager.step commitNum (.emplaceBack data) = some next) :
    HandedOut handled marked running next ∧ next.world = manager.world := by
  have safe := partition_step_safe handedOut.safe (fun _ _ => trivial) stepped
  cases partitionStep_of_step stepped with
  | emplaceBack data free =>
    refine ⟨⟨safe, handedOut.order, ?_, ?_⟩, rfl⟩
    · rintro none _ ⟨⟩
      exact emplaceBack_hands _ rfl _
    · intro node some
      obtain ⟨next, running, -⟩ := handedOut.busy node some
      rw [free] at running
      cases running

theorem doSomething (handedOut : HandedOut handled marked running manager)
    (stepped : manager.step commitNum .doSomething = some next) :
    HandedOut handled marked running next ∧ next.world = manager.world := by
  have safe := partition_step_safe handedOut.safe (fun _ impossible => by cases impossible) stepped
  cases partitionStep_of_step stepped
  exact ⟨handedOut.stable safe rfl (.refl _ _) handedOut.order, rfl⟩

/-- The scanning thread never hands a node out. -/
theorem scanner_not_calling (handedOut : HandedOut handled marked running manager) {node : Nat}
    {rest : Bool → PartitionProg PmStatus} : manager.scanner ≠ some (.call (.handle node) rest) :=
  fun calling => (handedOut.safe.scanner _ calling).called.1

theorem scan (handedOut : HandedOut handled marked running manager)
    {answer : ∀ request : PartitionCall, request.Answer}
    (stepped : manager.step commitNum (.advance .scanner answer) = some next) :
    HandedOut handled marked running next ∧ next.world.nodes = manager.world.nodes := by
  have safe := partition_step_safe handedOut.safe (fun _ impossible => by cases impossible) stepped
  cases partitionStep_of_step stepped with
  | scanned answer scanning => exact ⟨handedOut.stable safe rfl (.refl _ _) handedOut.order, rfl⟩
  | scannerCall answer scanning effect =>
    have kept := handedOut.safe.scanner _ scanning
    obtain ⟨nodes, pending⟩ := scanner_exec_nodes handedOut.safe.wf kept.called.1 effect
    refine ⟨handedOut.stable safe rfl ⟨congrArg List.length nodes, pending, ?_⟩
      (handedOut.order.of_nodes nodes pending), nodes⟩
    intro node _
    simp only [Partition.stateAt, nodes]

/-- A call of `emplace_back` other than `handle`, or its return. -/
theorem advance (handedOut : HandedOut handled marked none manager)
    {answer : ∀ request : PartitionCall, request.Answer}
    (other : ∀ node rest, manager.consumer ≠ some (.call (.handle node) rest))
    (stepped : manager.step commitNum (.advance .consumer answer) = some next) :
    HandedOut handled marked none next ∧
      ∀ node, Moved (manager.world.stateAt node) (next.world.stateAt node) := by
  have safe := partition_step_safe handedOut.safe (fun _ impossible => by cases impossible) stepped
  cases partitionStep_of_step stepped with
  | emplaced answer delivering =>
    refine ⟨⟨safe, handedOut.order, ?_, ?_⟩, fun _ => .refl _⟩
    · intro _ program none
      cases none
    · intro node impossible
      cases impossible
  | @consumerCall answer request continuation given after delivering effect =>
    have kept := handedOut.idle rfl _ delivering
    have notHandle : ∀ node, request ≠ .handle node := by
      rintro node rfl
      exact other node continuation delivering
    obtain ⟨order, moved⟩ := consumer_exec_hands handedOut.order kept.called.1 notHandle effect
    refine ⟨⟨safe, order, ?_, ?_⟩, moved⟩
    · rintro _ _ ⟨⟩
      refine kept.called.2 given ⟨after, handled, safe.wf, order.bound⟩ ?_
      cases request with
      | handle node => exact absurd rfl (notHandle node)
      | _ => exact ⟨rfl, _, effect⟩
    · intro node impossible
      cases impossible

/-- `handle` is called. -/
theorem callHandle (handedOut : HandedOut handled marked running manager) {node : Nat}
    {rest : Bool → PartitionProg Unit} (idle : running = none)
    (calling : manager.consumer = some (.call (.handle node) rest)) :
    ¬ handled node ∧
      HandedOut (fun other => handled other ∨ other = node) marked (some node) manager := by
  have kept := handedOut.idle idle _ calling
  obtain ⟨⟨pending, new, doing⟩, continues⟩ := kept.called
  have bound : node < manager.world.nodes.length := Partition.lt_of_stateAt doing
  refine ⟨new, handedOut.safe, ⟨?_, ?_, ?_, handedOut.order.done⟩, ?_, ?_⟩
  · rintro other (old | rfl)
    · exact handedOut.order.bound other old
    · exact bound
  · intro other small
    cases handedOut.order.all other small with
    | inl old => exact .inl (.inl old)
    | inr last => exact .inr last
  · rintro other (old | rfl)
    · exact handedOut.order.started other old
    · rw [doing]
      simp
  · intro impossible
    cases impossible
  · rintro _ ⟨⟩
    exact ⟨rest, calling, fun accepted => continues accepted _ ⟨rfl, .refl _ _⟩⟩

/-- A session or `handle` itself sets a node that was handed out to done. -/
theorem finish (handedOut : HandedOut handled marked running manager) {node : Nat}
    (handed : handled node) (stepped : manager.step commitNum (.finish node) = some next) :
    HandedOut handled (fun other => marked other ∨ other = node) running next ∧
      ∀ other, Moved (manager.world.stateAt other) (next.world.stateAt other) := by
  have safe := partition_step_safe handedOut.safe (fun _ impossible => by cases impossible) stepped
  cases stepped
  have known : ∃ data, manager.world.nodes[node]? = some data :=
    ⟨_, List.getElem?_eq_getElem (handedOut.order.bound node handed)⟩
  -- what was handed out is no longer to do, so done is a step forward for it
  have state : manager.world.stateAt node = some .doing ∨ manager.world.stateAt node = some .done := by
    obtain ⟨data, found⟩ := known
    have notTodo := handedOut.order.started node handed
    simp only [Partition.stateAt, found, Option.map_some, ne_eq, Option.some.injEq] at notTodo ⊢
    cases state : data.state with
    | todo => exact absurd state notTodo
    | doing => exact .inl rfl
    | done => exact .inr rfl
  refine ⟨handedOut.stable safe rfl ⟨by simp, rfl, ?_⟩ ⟨by simpa using handedOut.order.bound,
    by simpa using handedOut.order.all, ?_, ?_⟩, ?_⟩
  · intro other unhandled
    rw [Partition.stateAt_setState, if_neg (by rintro rfl; exact unhandled handed)]
  · intro other old
    exact Partition.stateAt_setState_ne_todo (by decide) (handedOut.order.started other old)
  · intro other
    rw [Partition.stateAt_setState]
    split
    · next same =>
      subst same
      cases state with
      | inl doing => simp [doing]
      | inr done => simp [done]
    · next different =>
      rw [handedOut.order.done]
      exact ⟨.inl, fun mark => mark.resolve_right (Ne.symm different)⟩
  · intro other
    rw [Partition.stateAt_setState]
    split
    · next same =>
      subst same
      cases state with
      | inl doing =>
        rw [doing]
        exact .inr (.inr (.inr ⟨rfl, rfl⟩))
      | inr done =>
        rw [done]
        exact .refl _
    · exact .refl _

/-- `handle` returns.  Where it rejects the message, it has marked the node. -/
theorem returnHandle {node : Nat} (handedOut : HandedOut handled marked (some node) manager)
    {answer : ∀ request : PartitionCall, request.Answer}
    (rejected : answer (.handle node) = false → marked node)
    (stepped : manager.step commitNum (.advance .consumer answer) = some next) :
    HandedOut handled marked none next ∧
      ∀ other, next.world.stateAt other = manager.world.stateAt other := by
  have safe := partition_step_safe handedOut.safe (fun _ impossible => by cases impossible) stepped
  obtain ⟨rest, calling, continues⟩ := handedOut.busy node rfl
  simp only [PartitionState.step, calling, Option.bind_some, advanceProg, Partition.exec,
    Option.map_some, Option.some.injEq] at stepped
  subst stepped
  -- a rejected node was done before its `handle` returned, so no state changes
  have states : ∀ other, (if answer (.handle node) = true then manager.world
      else manager.world.setState node .done).stateAt other = manager.world.stateAt other := by
    intro other
    split
    · rfl
    · next refused =>
      rw [Partition.stateAt_setState]
      split
      · next same =>
        subst same
        rw [(handedOut.order.done node).mpr (rejected (by simpa using refused))]
        rfl
      · rfl
  have same : SameUnhandled handled manager.world (if answer (.handle node) = true then manager.world
      else manager.world.setState node .done) := by
    refine ⟨?_, ?_, fun other _ => states other⟩
    · split <;> simp
    · split <;> simp
  have order : HandOrder handled marked (if answer (.handle node) = true then manager.world
      else manager.world.setState node .done) := by
    refine ⟨?_, ?_, ?_, ?_⟩
    · rw [same.length]; exact handedOut.order.bound
    · rw [same.length, same.pending]; exact handedOut.order.all
    · simpa only [states] using handedOut.order.started
    · simpa only [states] using handedOut.order.done
  refine ⟨⟨safe, order, ?_, ?_⟩, states⟩
  · rintro _ _ ⟨⟩
    exact (continues _).stable ⟨rfl, same⟩
  · intro _ impossible
    cases impossible

end HandedOut

end XBusiness.Consumer
