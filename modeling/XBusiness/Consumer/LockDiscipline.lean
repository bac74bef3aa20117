import XBusiness.Consumer.CommitSafety

/-! # The mutex of a partition

The thread that delivers messages and the one that scans share `m_list_data` and `m_mutex`.  The mutex is
not recursive: a thread that locked it twice, or released it without having it, would break it.

* `lockContract` — what a thread needs for each call: the mutex for the list and the nodes, and not to
  have it where it takes it or commits.
* `emplaceBack_disciplined` / `doSomething_disciplined` — the functions keep it.
* `PartitionState.Disciplined` — the mutex belongs to a running function.
* `mutex_discipline` — in every reachable state, and the thread that has the mutex comes to release it.
-/

namespace XBusiness.Consumer

open Interaction
open Prog (perform)

/-! ## The threads of a manager -/

/-- The next call of a function. -/
def nextCall {α : Type} : PartitionProg α → Option PartitionCall
  | .call request _ => some request
  | _ => none

/-- What the function of a thread returns. -/
abbrev Owner.Result : Owner → Type
  | .consumer => Unit
  | .scanner => PmStatus

namespace PartitionState

/-- What the thread has still to do, if a function runs. -/
def program (state : PartitionState) : (owner : Owner) → Option (PartitionProg owner.Result)
  | .consumer => state.consumer
  | .scanner => state.scanner

/-- After a call of the thread. -/
def advanced (state : PartitionState) (world : Partition) :
    (owner : Owner) → Option (PartitionProg owner.Result) → PartitionState
  | .consumer, rest => { state with world := world, consumer := rest }
  | .scanner, rest => { state with world := world, scanner := rest }

variable {state : PartitionState} {world : Partition} {owner other : Owner}

@[simp] theorem advanced_world (rest : Option (PartitionProg owner.Result)) :
    (state.advanced world owner rest).world = world := by
  cases owner <;> rfl

@[simp] theorem program_advanced (rest : Option (PartitionProg owner.Result)) :
    (state.advanced world owner rest).program owner = rest := by
  cases owner <;> rfl

theorem program_advanced_of_ne (different : other ≠ owner) (rest : Option (PartitionProg owner.Result)) :
    (state.advanced world owner rest).program other = state.program other := by
  cases owner <;> cases other <;> first | rfl | exact absurd rfl different

theorem step_advance (commitNum : Int) (state : PartitionState) (owner : Owner)
    (answer : ∀ request : PartitionCall, request.Answer) :
    state.step commitNum (.advance owner answer) =
      (state.program owner).bind fun program =>
        (advanceProg owner state.world answer program).map fun result =>
          state.advanced result.1 owner result.2 := by
  cases owner <;> rfl

end PartitionState

/-! ## The contract -/

/-- What a thread needs for a call. -/
def LockAllowed (owner : Owner) (world : Partition) : PartitionCall → Prop
  | .lock | .commitSync _ => world.mutex ≠ some owner
  | .loadState node => world.mutex = some owner ∧ node < world.nodes.length
  | .unlock | .pushBack _ | .loadList | .storeList _ | .storeState _ _ | .storeTime _ | .handle _ =>
    world.mutex = some owner

/-- The others leave the mutex of the thread alone, and remove no nodes. -/
def LockRely (owner : Owner) (world later : Partition) : Prop :=
  world.nodes.length ≤ later.nodes.length ∧ (later.mutex = some owner ↔ world.mutex = some owner)

def lockContract (owner : Owner) : Contract PartitionWorld PartitionCall PartitionCall.Answer where
  rely world later := LockRely owner world.1 later.1
  allowed world request := LockAllowed owner world.1 request
  effect world request answer after := ∃ given, world.1.exec owner request given = some (answer, after.1)
  rely_refl _ := ⟨Nat.le_refl _, Iff.rfl⟩
  rely_trans left right := ⟨Nat.le_trans left.1 right.1, right.2.trans left.2⟩

/-- The function keeps the contract, and has released the mutex when it returns. -/
abbrev LockSafe {α : Type} (owner : Owner) (program : PartitionProg α) (world : PartitionWorld) : Prop :=
  program.Safe (lockContract owner) (fun _ => False) (fun later _ => later.1.mutex ≠ some owner) world

/-- A call between taking the mutex and releasing it, about one of the first nodes. -/
def PartitionCall.isInside (bound : Nat) : PartitionCall → Prop
  | lock | unlock | commitSync _ => False
  | loadState node => node < bound
  | _ => True

/-- The thread has the mutex, and there are as many nodes at least. -/
def Holds (owner : Owner) (bound : Nat) (world : PartitionWorld) : Prop :=
  world.1.mutex = some owner ∧ bound ≤ world.1.nodes.length

theorem Holds.stable {owner : Owner} {bound : Nat} {world later : PartitionWorld}
    (holds : Holds owner bound world) (relied : LockRely owner world.1 later.1) : Holds owner bound later :=
  ⟨relied.2.mpr holds.1, Nat.le_trans holds.2 relied.1⟩

theorem Holds.allowed {owner : Owner} {bound : Nat} {world : PartitionWorld} {request : PartitionCall}
    (holds : Holds owner bound world) (inside : request.isInside bound) :
    LockAllowed owner world.1 request := by
  cases request with
  | lock | unlock | commitSync _ => exact inside.elim
  | loadState node => exact ⟨holds.1, Nat.lt_of_lt_of_le inside holds.2⟩
  | _ => exact holds.1

section Calls

variable {owner other : Owner} {world after : Partition} {request : PartitionCall} {given answer : request.Answer}

open XBusiness.Consumer.Partition in
/-- Only two calls change the mutex, and none removes a node. -/
theorem exec_mutex (effect : world.exec owner request given = some (answer, after)) :
    (request ≠ .lock → request ≠ .unlock → after.mutex = world.mutex) ∧
      world.nodes.length ≤ after.nodes.length := by
  cases request with
  | lock =>
    obtain ⟨-, rfl⟩ := exec_lock.mp effect
    exact ⟨fun impossible => absurd rfl impossible, Nat.le_refl _⟩
  | unlock =>
    obtain rfl := exec_unlock.mp effect
    exact ⟨fun _ impossible => absurd rfl impossible, Nat.le_refl _⟩
  | pushBack data =>
    obtain ⟨-, rfl⟩ := exec_pushBack.mp effect
    exact ⟨fun _ _ => rfl, by simp⟩
  | loadList =>
    obtain ⟨-, rfl⟩ := exec_loadList.mp effect
    exact ⟨fun _ _ => rfl, Nat.le_refl _⟩
  | storeList listData =>
    obtain rfl := exec_storeList.mp effect
    exact ⟨fun _ _ => rfl, Nat.le_refl _⟩
  | loadState node =>
    obtain ⟨-, rfl⟩ := exec_loadState.mp effect
    exact ⟨fun _ _ => rfl, Nat.le_refl _⟩
  | storeState node state =>
    obtain rfl := exec_storeState.mp effect
    exact ⟨fun _ _ => rfl, by simp⟩
  | storeTime node =>
    obtain ⟨-, rfl⟩ := exec_storeTime.mp effect
    exact ⟨fun _ _ => rfl, by simp⟩
  | handle node =>
    obtain ⟨rfl, rfl⟩ := exec_handle.mp effect
    split
    · exact ⟨fun _ _ => rfl, Nat.le_refl _⟩
    · exact ⟨fun _ _ => rfl, by simp⟩
  | commitSync kmsg =>
    obtain ⟨rfl, rfl⟩ := exec_commitSync.mp effect
    cases kmsg <;> exact ⟨fun _ _ => rfl, Nat.le_refl _⟩

/-- A thread that keeps the contract is one of the others that the second thread relies on. -/
theorem lockRely_of_exec (different : owner ≠ other) (allowed : LockAllowed owner world request)
    (effect : world.exec owner request given = some (answer, after)) : LockRely other world after := by
  obtain ⟨same, grown⟩ := exec_mutex effect
  refine ⟨grown, ?_⟩
  cases request with
  | lock =>
    obtain ⟨free, rfl⟩ := Partition.exec_lock.mp effect
    simp [free, different]
  | unlock =>
    obtain rfl := Partition.exec_unlock.mp effect
    have held : world.mutex = some owner := allowed
    simp [held, different]
  | _ => rw [same (by simp) (by simp)]

/-- Only a thread that takes the mutex may have to wait. -/
theorem exec_enabled (allowed : LockAllowed owner world request) (given : request.Answer)
    (free : request = .lock → world.mutex = none) :
    ∃ result, world.exec owner request given = some result := by
  cases request with
  | lock => exact ⟨_, if_pos (free rfl)⟩
  | loadState node =>
    have bound : node < world.nodes.length := allowed.2
    have known : world.stateAt node = some world.nodes[node].state := by
      rw [Partition.stateAt, List.getElem?_eq_getElem bound]
      rfl
    exact ⟨(_, world), by rw [Partition.exec, known]; rfl⟩
  | _ => exact ⟨_, rfl⟩

end Calls

/-! ## The functions keep it -/

section Functions

variable {α β : Type} {owner : Owner} {bound : Nat} {world : PartitionWorld}

/-- Between taking the mutex and releasing it. -/
theorem inside_safe {program : PartitionProg α} {continuation : α → PartitionProg β} {post : α → Prop}
    (makes : program.Makes (PartitionCall.isInside bound) post) (holds : Holds owner bound world)
    (rest : ∀ later value, Holds owner bound later → LockSafe owner (continuation value) later) :
    LockSafe owner (program >>= continuation) world := by
  apply Prog.Safe.bind
  apply Prog.Safe.mono
  · apply Prog.Makes.safe (Holds owner bound) makes
    · exact fun _ _ relied holds => holds.stable relied
    · intro before request inside holds
      refine ⟨holds.allowed inside, ?_⟩
      rintro answer after ⟨given, effect⟩
      obtain ⟨same, grown⟩ := exec_mutex effect
      refine ⟨?_, Nat.le_trans holds.2 grown⟩
      rw [same]
      · exact holds.1
      · rintro rfl
        exact inside
      · rintro rfl
        exact inside
    · exact fun fault => fault.elim
    · exact holds
  · exact fun later value kept => rest later value kept.1

theorem lock_safe {continuation : Unit → PartitionProg α} (free : world.1.mutex ≠ some owner)
    (rest : ∀ later : PartitionWorld, Holds owner later.1.nodes.length later →
      LockSafe owner (continuation ()) later) :
    LockSafe owner (perform .lock >>= continuation) world := by
  refine Prog.Safe.perform fun waited relied => ⟨relied.2.not.mpr free, ?_⟩
  rintro _ locked ⟨given, effect⟩
  obtain ⟨-, same⟩ := Partition.exec_lock.mp effect
  exact rest locked ⟨by rw [← same], Nat.le_refl _⟩

theorem unlock_safe {continuation : Unit → PartitionProg α} (held : world.1.mutex = some owner)
    (rest : ∀ later : PartitionWorld, later.1.mutex ≠ some owner → LockSafe owner (continuation ()) later) :
    LockSafe owner (perform .unlock >>= continuation) world := by
  refine Prog.Safe.perform fun waited relied => ⟨relied.2.mpr held, ?_⟩
  rintro _ unlocked ⟨given, effect⟩
  have same := Partition.exec_unlock.mp effect
  exact rest unlocked (by rw [← same]; simp)

theorem ret_safe (value : α) (free : world.1.mutex ≠ some owner) : LockSafe owner (pure value) world :=
  fun _ relied => relied.2.not.mpr free

/-- The list, as the thread that has the mutex reads it: its nodes exist. -/
theorem loadList_safe {continuation : List Nat → PartitionProg α} (holds : Holds owner bound world)
    (rest : ∀ (later : PartitionWorld) (listData : List Nat), Holds owner later.1.nodes.length later →
      (∀ node ∈ listData, node < later.1.nodes.length) → LockSafe owner (continuation listData) later) :
    LockSafe owner (perform .loadList >>= continuation) world := by
  refine Prog.Safe.perform fun reading relied => ⟨(holds.stable relied).1, ?_⟩
  rintro listData loaded ⟨given, effect⟩
  obtain ⟨rfl, same⟩ := Partition.exec_loadList.mp effect
  obtain rfl : reading = loaded := Subtype.ext same
  exact rest reading _ ⟨(holds.stable relied).1, Nat.le_refl _⟩ fun node => reading.2.mem_lt

theorem processTodo_makes {node : Nat} (listed : node < bound) :
    (processTodo (nodeOps node)).Makes (PartitionCall.isInside bound) fun _ => True := by
  refine ⟨listed, fun state => ?_⟩
  show (if state = NodeState.todo then _ else _ : PartitionProg Bool).Makes _ _
  split
  · exact ⟨trivial, fun _ => ⟨trivial, fun _ => ⟨trivial, fun _ => trivial⟩⟩⟩
  · trivial

theorem loadState_makes {node : Nat} {continuation : NodeState → PartitionProg α} {post : α → Prop}
    (listed : node < bound)
    (rest : ∀ state, (continuation state).Makes (PartitionCall.isInside bound) post) :
    (perform (.loadState node) >>= continuation : PartitionProg α).Makes (PartitionCall.isInside bound) post :=
  ⟨listed, rest⟩

theorem testPrefix_makes {node : Nat} (listed : node < bound) (size : Nat) (prev : Option Nat) (scan : Scan) :
    (testPrefix size prev node scan).Makes (PartitionCall.isInside bound) fun _ => True := by
  unfold testPrefix
  split
  · apply loadState_makes listed
    intro state
    split
    · cases prev <;> trivial
    · split <;> trivial
  · trivial

theorem countState_makes {node : Nat} (listed : node < bound) (status : PmStatus) :
    (countState node status).Makes (PartitionCall.isInside bound) fun _ => True := by
  apply loadState_makes listed
  intro first
  split
  · trivial
  apply loadState_makes listed
  intro second
  split
  · trivial
  apply loadState_makes listed
  intro third
  split <;> trivial

theorem scanNode_makes {node : Nat} (listed : node < bound) (size : Nat) (prev : Option Nat) (scan : Scan) :
    (scanNode size prev node scan).Makes (PartitionCall.isInside bound) fun _ => True := by
  apply Prog.Makes.bind (testPrefix_makes listed size prev scan)
  intro tested _
  apply Prog.Makes.bind (processTodo_makes listed)
  intro processed _
  apply Prog.Makes.bind (countState_makes listed tested.status)
  exact fun _ _ => trivial

theorem scanNodes_makes {rest : List Nat} (listed : ∀ node ∈ rest, node < bound) (size : Nat)
    (prev : Option Nat) (scan : Scan) :
    (scanNodes size prev rest scan).Makes (PartitionCall.isInside bound) fun _ => True := by
  induction rest generalizing prev scan with
  | nil => trivial
  | cons node rest inductionHypothesis =>
    apply Prog.Makes.bind (scanNode_makes (listed node List.mem_cons_self) size prev scan)
    intro visited _
    exact inductionHypothesis (fun other mem => listed other (List.mem_cons_of_mem _ mem)) _ _

theorem emplaceBack_disciplined (data : PmData) (free : world.1.mutex ≠ some owner) :
    LockSafe owner (emplaceBack data) world := by
  apply lock_safe free
  intro locked holds
  refine Prog.Safe.perform fun pushing relied => ⟨(holds.stable relied).1, ?_⟩
  rintro node pushed ⟨given, effect⟩
  obtain ⟨rfl, same⟩ := Partition.exec_pushBack.mp effect
  have held : Holds owner (pushing.1.nodes.length + 1) pushed := by
    rw [Holds, ← same]
    exact ⟨(holds.stable relied).1, by simp⟩
  apply inside_safe (processTodo_makes (Nat.lt_succ_self _)) held
  intro later _ holds
  exact unlock_safe holds.1 fun last free => ret_safe () free

theorem removeFromHead_disciplined {continuation : Unit → PartitionProg α} (num : Nat)
    (free : world.1.mutex ≠ some owner)
    (rest : ∀ later : PartitionWorld, later.1.mutex ≠ some owner → LockSafe owner (continuation ()) later) :
    LockSafe owner (removeFromHead num >>= continuation) world := by
  apply lock_safe free
  intro locked holds
  apply loadList_safe holds
  intro reading listData holds _
  refine Prog.Safe.perform fun storing relied => ⟨(holds.stable relied).1, ?_⟩
  rintro _ stored ⟨given, effect⟩
  have same := Partition.exec_storeList.mp effect
  apply unlock_safe _ rest
  rw [← same]
  exact (holds.stable relied).1

theorem doSomething_disciplined (commitNum : Int) (free : world.1.mutex ≠ some owner) :
    LockSafe owner (doSomething commitNum) world := by
  apply lock_safe free
  intro locked holds
  apply loadList_safe holds
  intro reading listData holds listed
  apply inside_safe (scanNodes_makes listed _ _ _) holds
  intro ended scan holds
  apply unlock_safe holds.1
  intro left free
  unfold commitScanned
  split
  · -- the commit is made with the mutex released
    refine Prog.Safe.perform fun committing relied => ⟨relied.2.not.mpr free, ?_⟩
    rintro result committed ⟨given, effect⟩
    obtain ⟨same, -⟩ := exec_mutex effect
    apply removeFromHead_disciplined
    · rw [same (by simp) (by simp)]
      exact relied.2.not.mpr free
    · exact fun later free => ret_safe _ free
  · exact ret_safe _ free

end Functions

/-! ## Runs of a manager -/

/-- Every running function keeps the contract, and the mutex belongs to one that runs. -/
structure PartitionState.Disciplined (state : PartitionState) : Prop where
  safe : state.Safe fun _ _ => True
  running : ∀ owner program, state.program owner = some program →
    LockSafe owner program ⟨state.world, safe.wf⟩
  idle : ∀ owner, state.program owner = none → state.world.mutex ≠ some owner

namespace PartitionState

variable {commitNum : Int} {state next : PartitionState} {owner : Owner}

theorem disciplined_start : ({} : PartitionState).Disciplined where
  safe := partition_start_safe _
  running owner program running := by cases owner <;> cases running
  idle owner _ := by simp

/-- What a thread does, seen by itself and by the other one. -/
theorem Disciplined.advanced (disciplined : state.Disciplined) {world : Partition}
    {rest : Option (PartitionProg owner.Result)} (safe : (state.advanced world owner rest).Safe fun _ _ => True)
    (relied : ∀ other, owner ≠ other → LockRely other state.world world)
    (running : ∀ program wf, rest = some program → LockSafe owner program ⟨world, wf⟩)
    (idle : rest = none → world.mutex ≠ some owner) : (state.advanced world owner rest).Disciplined where
  safe := safe
  running other program found := by
    by_cases same : other = owner
    · subst same
      rw [program_advanced] at found
      simpa using running program (by simpa using safe.wf) found
    · rw [program_advanced_of_ne same] at found
      apply (disciplined.running other program found).stable
      show LockRely other state.world (state.advanced world owner rest).world
      rw [advanced_world]
      exact relied other (Ne.symm same)
  idle other none := by
    rw [advanced_world]
    by_cases same : other = owner
    · subst same
      rw [program_advanced] at none
      exact idle none
    · rw [program_advanced_of_ne same] at none
      exact (relied other (Ne.symm same)).2.not.mpr (disciplined.idle other none)

theorem Disciplined.step (disciplined : state.Disciplined) {label : PartitionLabel}
    (stepped : state.step commitNum label = some next) : next.Disciplined := by
  have safe := partition_step_safe disciplined.safe (fun _ _ => trivial) stepped
  cases label with
  | emplaceBack data =>
    cases partitionStep_of_step stepped with
    | emplaceBack data idle =>
      refine ⟨safe, ?_, ?_⟩
      · intro owner program running
        cases owner with
        | consumer =>
          cases running
          exact emplaceBack_disciplined _ (disciplined.idle .consumer idle)
        | scanner => exact disciplined.running .scanner program running
      · intro owner none
        cases owner with
        | consumer => cases none
        | scanner => exact disciplined.idle .scanner none
  | doSomething =>
    cases partitionStep_of_step stepped with
    | doSomething idle =>
      refine ⟨safe, ?_, ?_⟩
      · intro owner program running
        cases owner with
        | consumer => exact disciplined.running .consumer program running
        | scanner =>
          cases running
          exact doSomething_disciplined _ (disciplined.idle .scanner idle)
      · intro owner none
        cases owner with
        | consumer => exact disciplined.idle .consumer none
        | scanner => cases none
  | finish node =>
    cases stepped
    refine ⟨safe, ?_, ?_⟩
    · intro owner program running
      have found : state.program owner = some program := by
        cases owner <;> exact running
      exact (disciplined.running owner program found).stable ⟨by simp, Iff.rfl⟩
    · intro owner none
      exact disciplined.idle owner (by cases owner <;> exact none)
  | advance owner answer =>
    rw [step_advance] at stepped
    simp only [Option.bind_eq_some_iff, Option.map_eq_some_iff] at stepped
    obtain ⟨program, found, ⟨after, rest⟩, advanced, rfl⟩ := stepped
    have kept := disciplined.running owner program found
    rcases advanceProg_cases advanced with
      ⟨⟨value, rfl⟩, rfl, rfl⟩ | ⟨request, continuation, given, rfl, effect, rfl⟩
    · -- the function returns, without the mutex
      apply disciplined.advanced safe
      · exact fun _ _ => ⟨Nat.le_refl _, Iff.rfl⟩
      · rintro _ _ ⟨⟩
      · exact fun _ => kept _ ⟨Nat.le_refl _, Iff.rfl⟩
    · apply disciplined.advanced safe
      · exact fun other different => lockRely_of_exec different kept.called.1 effect
      · rintro _ wf ⟨⟩
        exact kept.called.2 given ⟨after, wf⟩ ⟨_, effect⟩
      · rintro ⟨⟩

theorem disciplined_of_reachable (reachable : (partitionMachine commitNum).Reachable state) :
    state.Disciplined := by
  refine reachable.invariant disciplined_start ?_
  intro before label next kept stepped
  exact Disciplined.step kept stepped

/-- A running function waits for the mutex only while the other thread has it. -/
theorem Disciplined.enabled (disciplined : state.Disciplined) {program : PartitionProg owner.Result}
    (found : state.program owner = some program)
    (free : state.world.mutex = none ∨ state.world.mutex = some owner)
    (answer : ∀ request : PartitionCall, request.Answer) :
    ∃ next, state.step commitNum (.advance owner answer) = some next := by
  rw [step_advance, found, Option.bind_some]
  cases program with
  | ret value => exact ⟨_, rfl⟩
  | raise fault => exact fault.elim
  | call request continuation =>
    have allowed := (disciplined.running owner _ found).called.1
    obtain ⟨result, effect⟩ : ∃ result, state.world.exec owner request (answer request) = some result := by
      apply exec_enabled allowed
      rintro rfl
      exact free.resolve_right allowed
    rw [advanceProg, effect]
    exact ⟨_, rfl⟩

/-- The thread that has the mutex releases it after some of its calls, by induction on what it has still
    to do: it cannot return before. -/
theorem Disciplined.releases {program : PartitionProg owner.Result} (disciplined : state.Disciplined)
    (found : state.program owner = some program) (held : state.world.mutex = some owner)
    (answers : Nat → ∀ request : PartitionCall, request.Answer) :
    ∃ count next, (partitionMachine commitNum).run state
        ((List.range count).map fun index => .advance owner (answers index)) = some next ∧
      next.world.mutex = none := by
  induction program generalizing state answers with
  | ret value => exact absurd held (disciplined.running owner _ found _ ⟨Nat.le_refl _, Iff.rfl⟩)
  | raise fault => exact fault.elim
  | call request continuation inductionHypothesis =>
    have allowed := (disciplined.running owner _ found).called.1
    have notLock : request ≠ .lock := by
      rintro rfl
      exact allowed held
    obtain ⟨⟨given, after⟩, effect⟩ :=
      exec_enabled allowed (answers 0 request) fun lock => absurd lock notLock
    have stepped : (partitionMachine commitNum).step state (.advance owner (answers 0)) =
        some (state.advanced after owner (some (continuation given))) := by
      show state.step commitNum _ = _
      rw [step_advance, found, Option.bind_some, advanceProg, effect]
      rfl
    by_cases unlock : request = .unlock
    · subst unlock
      refine ⟨1, state.advanced after owner (some (continuation given)), ?_, ?_⟩
      · rw [List.range_one, List.map_cons, List.map_nil, Machine.run_cons, stepped]
        rfl
      · rw [advanced_world, ← Partition.exec_unlock.mp effect]
    · have still : after.mutex = some owner := ((exec_mutex effect).1 notLock unlock).trans held
      obtain ⟨count, next, ran, freed⟩ := inductionHypothesis given (disciplined.step stepped)
        (program_advanced _) (by rw [advanced_world]; exact still) fun index => answers (index + 1)
      refine ⟨count + 1, next, ?_, freed⟩
      rw [List.range_succ_eq_map, List.map_cons, List.map_map, Machine.run_cons]
      rw [stepped]
      exact ran

end PartitionState

/-- What a reachable state of a manager guarantees about its mutex. -/
structure MutexKept (commitNum : Int) (state : PartitionState) : Prop where
  /-- Each call finds the mutex as it needs it. -/
  called : ∀ owner program request, state.program owner = some program →
    nextCall program = some request → LockAllowed owner state.world request
  /-- The mutex belongs to a function that has not made its last call. -/
  owned : ∀ owner, state.world.mutex = some owner → ∃ program request,
    state.program owner = some program ∧ nextCall program = some request
  /-- A function waits only while the other thread has the mutex. -/
  enabled : ∀ owner program, state.program owner = some program →
    (state.world.mutex = none ∨ state.world.mutex = some owner) →
      ∀ answer, ∃ next, state.step commitNum (.advance owner answer) = some next
  /-- And that thread releases it after some more of its own calls, whatever they are answered. -/
  released : ∀ owner, state.world.mutex = some owner →
    ∀ answers : Nat → ∀ request : PartitionCall, request.Answer, ∃ count next,
      (partitionMachine commitNum).run state
          ((List.range count).map fun index => .advance owner (answers index)) = some next ∧
        next.world.mutex = none

theorem mutex_discipline (commitNum : Int) (state : PartitionState)
    (reachable : (partitionMachine commitNum).Reachable state) : MutexKept commitNum state := by
  have disciplined := PartitionState.disciplined_of_reachable reachable
  have holder : ∀ owner, state.world.mutex = some owner → ∃ program, state.program owner = some program := by
    intro owner held
    apply Option.ne_none_iff_exists'.mp
    exact fun none => disciplined.idle owner none held
  refine ⟨?_, ?_, ?_, ?_⟩
  · intro owner program request found calls
    cases program with
    | ret _ => cases calls
    | raise fault => exact fault.elim
    | call request' continuation =>
      cases calls
      exact (disciplined.running owner _ found).called.1
  · intro owner held
    obtain ⟨program, found⟩ := holder owner held
    cases program with
    | ret _ => exact absurd held (disciplined.running owner _ found _ ⟨Nat.le_refl _, Iff.rfl⟩)
    | raise fault => exact fault.elim
    | call request continuation => exact ⟨_, request, found, rfl⟩
  · exact fun owner program found free => disciplined.enabled found free
  · intro owner held answers
    obtain ⟨program, found⟩ := holder owner held
    exact disciplined.releases found held answers

theorem mutex_discipline_oneOfTwoFinished :
    ∃ state, (partitionMachine 1).run (partitionMachine 1).start oneOfTwoFinished = some state ∧
      state.world.mutex = some .scanner ∧ MutexKept 1 state :=
  ⟨_, rfl, rfl, mutex_discipline 1 _ ⟨oneOfTwoFinished, rfl⟩⟩

end XBusiness.Consumer
