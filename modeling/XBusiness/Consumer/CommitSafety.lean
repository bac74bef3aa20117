import XBusiness.Consumer.Partition

/-! # Commit safety of a partition

`doSomething` computes the finished prefix and the message to commit under the
mutex, then commits and erases after releasing it, while the consumer thread
appends and the workers finish messages.  The argument is one invariant of the
shared memory (`WellFormed`) and one contract for each thread: the scanner keeps
its prefix because the others only append behind it and only turn nodes to done.

`commit_safety` collects what holds in every reachable state.
-/

namespace XBusiness.Consumer

open Interaction
open Prog (perform)

/-! ## Node states -/

namespace Partition

@[simp] theorem stateAt_setState (world : Partition) (node other : Nat) (state : NodeState) :
    (world.setState node state).stateAt other =
      if node = other then (world.stateAt other).map fun _ => state else world.stateAt other := by
  simp only [stateAt, setState, List.getElem?_modify]
  split <;> cases world.nodes[other]? <;> simp_all

@[simp] theorem stateAt_setTime (world : Partition) (node other stime : Nat) :
    (world.setTime node stime).stateAt other = world.stateAt other := by
  simp only [stateAt, setTime, List.getElem?_modify]
  split <;> cases world.nodes[other]? <;> rfl

@[simp] theorem length_setState (world : Partition) (node : Nat) (state : NodeState) :
    (world.setState node state).nodes.length = world.nodes.length := by
  simp [setState]

@[simp] theorem length_setTime (world : Partition) (node stime : Nat) :
    (world.setTime node stime).nodes.length = world.nodes.length := by
  simp [setTime]

@[simp] theorem messages_setState (world : Partition) (node : Nat) (state : NodeState) :
    (world.setState node state).messages = world.messages := by
  apply List.ext_getElem?
  intro i
  simp only [messages, setState, List.getElem?_map, List.getElem?_modify]
  split <;> cases world.nodes[i]? <;> rfl

@[simp] theorem messages_setTime (world : Partition) (node stime : Nat) :
    (world.setTime node stime).messages = world.messages := by
  apply List.ext_getElem?
  intro i
  simp only [messages, setTime, List.getElem?_map, List.getElem?_modify]
  split <;> cases world.nodes[i]? <;> rfl

@[simp] theorem listData_setState (world : Partition) (node : Nat) (state : NodeState) :
    (world.setState node state).listData = world.listData := rfl

@[simp] theorem mutex_setState (world : Partition) (node : Nat) (state : NodeState) :
    (world.setState node state).mutex = world.mutex := rfl

@[simp] theorem pending_setState (world : Partition) (node : Nat) (state : NodeState) :
    (world.setState node state).pending = world.pending := rfl

@[simp] theorem listData_setTime (world : Partition) (node stime : Nat) :
    (world.setTime node stime).listData = world.listData := rfl

@[simp] theorem mutex_setTime (world : Partition) (node stime : Nat) :
    (world.setTime node stime).mutex = world.mutex := rfl

@[simp] theorem pending_setTime (world : Partition) (node stime : Nat) :
    (world.setTime node stime).pending = world.pending := rfl

theorem lt_of_stateAt {world : Partition} {node : Nat} {state : NodeState}
    (known : world.stateAt node = some state) : node < world.nodes.length := by
  simp only [stateAt, Option.map_eq_some_iff] at known
  obtain ⟨data, found, -⟩ := known
  exact (List.getElem?_eq_some_iff.mp found).1

/-- Done, and not the node that a running `emplace_back` is still about to mark. -/
def Finished (world : Partition) (node : Nat) : Prop :=
  world.stateAt node = some .done ∧ world.pending ≠ some node

/-- The invariant of the shared memory. -/
structure WellFormed (world : Partition) : Prop where
  suffix : world.listData <:+ List.range world.nodes.length
  settled : ∀ node, world.stateAt node = some .todo → world.pending = some node
  dropped : ∀ node < world.nodes.length, node ∉ world.listData → world.Finished node
  pendingLast : ∀ node, world.pending = some node →
    world.mutex = some .consumer ∧ node ∈ world.listData ∧ node + 1 = world.nodes.length
  committed : ∀ entry ∈ world.commits, world.Finished entry.1

theorem WellFormed.mem_lt {world : Partition} (wf : world.WellFormed) {node : Nat}
    (mem : node ∈ world.listData) : node < world.nodes.length :=
  List.mem_range.mp (wf.suffix.subset mem)

theorem WellFormed.sorted {world : Partition} (wf : world.WellFormed) :
    world.listData.Pairwise (· < ·) :=
  List.pairwise_lt_range.sublist wf.suffix.sublist

theorem WellFormed.pending_none {world : Partition} (wf : world.WellFormed)
    (held : world.mutex ≠ some .consumer) : world.pending = none := by
  cases pending : world.pending with
  | none => rfl
  | some node => exact absurd (wf.pendingLast node pending).1 held

end Partition

/-- Every committed node has left the list: nothing is committed and still listed. -/
def Partition.Cleared (world : Partition) : Prop :=
  ∀ entry ∈ world.commits, entry.1 < world.nodes.length ∧ ∀ listed ∈ world.listData, entry.1 < listed

/-- The shared memory of a partition with its invariant. -/
abbrev PartitionWorld := { world : Partition // world.WellFormed }

/-! ## The contract of the scanning thread -/

/-- What the other threads may do while `do_something` runs. -/
structure ScannerRely (world later : Partition) : Prop where
  finished : ∀ node, world.Finished node → later.Finished node
  length : world.nodes.length ≤ later.nodes.length
  listData : world.listData <+: later.listData
  fresh : ∀ node ∈ later.listData, node ∈ world.listData ∨ world.nodes.length ≤ node
  commits : later.commits = world.commits
  held : world.mutex = some .scanner →
    later.mutex = some .scanner ∧ later.listData = world.listData

theorem ScannerRely.refl (world : Partition) : ScannerRely world world :=
  ⟨fun _ done => done, Nat.le_refl _, List.prefix_rfl, fun _ => .inl, rfl, fun held => ⟨held, rfl⟩⟩

theorem ScannerRely.trans {first second third : Partition} (left : ScannerRely first second)
    (right : ScannerRely second third) : ScannerRely first third where
  finished node done := right.finished node (left.finished node done)
  length := Nat.le_trans left.length right.length
  listData := left.listData.trans right.listData
  fresh node mem := by
    rcases right.fresh node mem with listed | appended
    · exact left.fresh node listed
    · exact .inr (Nat.le_trans left.length appended)
  commits := right.commits.trans left.commits
  held scanning := by
    obtain ⟨heldSecond, same⟩ := left.held scanning
    obtain ⟨heldThird, same'⟩ := right.held heldSecond
    exact ⟨heldThird, same'.trans same⟩

theorem Partition.Cleared.stable {world later : Partition} (cleared : world.Cleared)
    (relied : ScannerRely world later) : later.Cleared := by
  intro entry mem
  rw [relied.commits] at mem
  obtain ⟨bound, below⟩ := cleared entry mem
  refine ⟨Nat.lt_of_lt_of_le bound relied.length, fun listed listedMem => ?_⟩
  rcases relied.fresh listed listedMem with old | appended
  · exact below listed old
  · exact Nat.lt_of_lt_of_le bound appended

/-- The calls of the scanning thread, each with what must hold where it is made. -/
def ScannerAllowed (world : Partition) : PartitionCall → Prop
  | .lock | .loadList | .loadState _ => True
  | .unlock => world.mutex = some .scanner
  | .commitSync kmsg =>
    world.Cleared ∧
      ∃ node, kmsg = some node ∧ node ∈ world.listData ∧ ∀ earlier ≤ node, world.Finished earlier
  | .storeList listData =>
    world.mutex = some .scanner ∧ ∃ front node result,
      world.commits.getLast? = some (node, result) ∧ world.listData = front ++ node :: listData ∧
        ∀ removed ∈ front ++ [node], world.Finished removed
  | _ => False

def scannerContract : Contract PartitionWorld PartitionCall PartitionCall.Answer where
  rely world later := ScannerRely world.1 later.1
  allowed world request := ScannerAllowed world.1 request
  effect world request answer after :=
    ∃ given, world.1.exec .scanner request given = some (answer, after.1)
  rely_refl world := .refl world.1
  rely_trans := .trans

/-- What the scan knows when it ends: the first `firstNotDonePos` nodes are done and `kmsg`
    is the last of them. -/
structure Scanned (world : Partition) (scan : Scan) : Prop where
  bound : scan.firstNotDonePos ≤ world.listData.length
  done : ∀ node ∈ world.listData.take scan.firstNotDonePos, world.Finished node
  kmsg : scan.kmsg = (world.listData.take scan.firstNotDonePos).getLast?
  force : scan.forceCommit = true → 0 < scan.firstNotDonePos
  cleared : world.Cleared

theorem Scanned.stable {world later : Partition} {scan : Scan} (scanned : Scanned world scan)
    (relied : ScannerRely world later) : Scanned later scan := by
  obtain ⟨appended, grown⟩ := relied.listData
  have same : later.listData.take scan.firstNotDonePos =
      world.listData.take scan.firstNotDonePos := by
    rw [← grown, List.take_append_of_le_length scanned.bound]
  refine ⟨?_, ?_, ?_, scanned.force, scanned.cleared.stable relied⟩
  · exact Nat.le_trans scanned.bound relied.listData.length_le
  · rw [same]
    exact fun node mem => relied.finished node (scanned.done node mem)
  · rw [same]
    exact scanned.kmsg

/-- What the scan knows inside the loop, after the prefix test of the nodes `tested`. -/
structure Scanning (world : Partition) (listData tested : List Nat) (scan : Scan) : Prop
    extends Scanned world scan where
  held : world.mutex = some .scanner
  list : world.listData = listData
  first : scan.isFirst = true →
    scan.firstNotDonePos = 0 ∧ ∀ node ∈ tested, world.Finished node

theorem Scanning.stable {world later : Partition} {listData tested : List Nat} {scan : Scan}
    (scanning : Scanning world listData tested scan) (relied : ScannerRely world later) :
    Scanning later listData tested scan where
  toScanned := scanning.toScanned.stable relied
  held := (relied.held scanning.held).1
  list := (relied.held scanning.held).2.trans scanning.list
  first isFirst := by
    obtain ⟨zero, done⟩ := scanning.first isFirst
    exact ⟨zero, fun node mem => relied.finished node (done node mem)⟩

/-- The counters and the position are not part of what the scan knows. -/
theorem Scanning.counted {world : Partition} {listData tested : List Nat} {scan : Scan}
    (scanning : Scanning world listData tested scan) (processNum pos : Nat) (status : PmStatus) :
    Scanning world listData tested
      { scan with processNum := processNum, status := status, pos := pos } :=
  ⟨⟨scanning.bound, scanning.done, scanning.kmsg, scanning.force, scanning.cleared⟩,
    scanning.held, scanning.list, scanning.first⟩

/-! ## The scan keeps its contract -/

abbrev ScannerSafe {α : Type} (post : PartitionWorld → α → Prop) (program : PartitionProg α)
    (world : PartitionWorld) : Prop :=
  program.Safe scannerContract (fun _ => False) post world

theorem loadState_safe {α : Type} {post : PartitionWorld → α → Prop} {node : Nat}
    {next : NodeState → PartitionProg α} {world : PartitionWorld}
    (rest : ∀ later : PartitionWorld, ScannerRely world.1 later.1 →
      ∀ state, later.1.stateAt node = some state → ScannerSafe post (next state) later) :
    ScannerSafe post (perform (.loadState node) >>= next) world := by
  refine Prog.Safe.perform fun later relied => ⟨trivial, ?_⟩
  rintro state after ⟨_, effect⟩
  obtain ⟨known, same⟩ := Partition.exec_loadState.mp effect
  obtain rfl : later = after := Subtype.ext same
  exact rest later relied state known

theorem testPrefix_safe {world : PartitionWorld} {listData seen rest : List Nat} {it : Nat}
    {scan : Scan} (split : listData = seen ++ it :: rest) (pos : scan.pos = seen.length)
    (scanning : Scanning world.1 listData seen scan) :
    ScannerSafe (fun later scan' => scan'.pos = scan.pos ∧
        Scanning later.1 listData (seen ++ [it]) scan')
      (testPrefix listData.length seen.getLast? it scan) world := by
  unfold testPrefix
  split
  case isFalse notFirst =>
    intro later relied
    refine ⟨rfl, ?_⟩
    have later := scanning.stable relied
    exact { later with first := fun isFirst => absurd isFirst notFirst }
  case isTrue isFirst =>
    refine loadState_safe fun later relied state known => ?_
    -- no node before was found that is not done, so all of them are
    have scanning := scanning.stable relied
    obtain ⟨zero, seenDone⟩ := scanning.first isFirst
    have list := scanning.list
    have takeSeen : later.1.listData.take seen.length = seen := by rw [list, split]; simp
    split
    case isTrue notDone =>
      cases last : seen.getLast? with
      | none =>
        intro final relied'
        have kept := scanning.stable relied'
        refine ⟨rfl, { kept with first := ?_ }⟩
        intro impossible; cases impossible
      -- the first node that is not done: the prefix ends with the one before it
      | some itTmp =>
        intro final relied'
        have kept := scanning.stable relied'
        have same : final.1.listData = later.1.listData := kept.list.trans list.symm
        refine ⟨rfl, ⟨⟨?_, ?_, ?_, ?_, kept.cleared⟩, kept.held, kept.list,
          by intro impossible; cases impossible⟩⟩
        · simp only [pos, same, list, split]; simp
        · simp only [pos, same, takeSeen]
          exact fun node mem => relied'.finished node (seenDone node mem)
        · simp only [pos, same, takeSeen, last]
        · intro forced
          rw [pos]
          exact List.length_pos_iff.mpr (by rintro rfl; cases last)
    case isFalse done =>
      have itDone : later.1.Finished it := by
        refine ⟨by rw [known, not_not.mp done], ?_⟩
        rw [later.2.pending_none (by rw [scanning.held]; decide)]
        exact Option.some_ne_none _ |>.symm
      have testedDone : ∀ node ∈ seen ++ [it], later.1.Finished node := by
        intro node mem
        rcases List.mem_append.mp mem with mem | mem
        · exact seenDone node mem
        · rw [List.mem_singleton.mp mem]; exact itDone
      split
      -- the last node of the list is done too: the prefix is the whole list
      case isTrue atEnd =>
        intro final relied'
        have kept := scanning.stable relied'
        have same : final.1.listData = later.1.listData := kept.list.trans list.symm
        have takeAll : later.1.listData.take (seen.length + 1) = seen ++ [it] := by
          rw [list, split, List.take_append]; simp [List.take_of_length_le]
        refine ⟨rfl, ⟨⟨?_, ?_, ?_, ?_, kept.cleared⟩, kept.held, kept.list,
          by intro impossible; cases impossible⟩⟩
        · simp only [pos, same, list, split]; simp
        · simp only [pos, same, takeAll]
          exact fun node mem => relied'.finished node (testedDone node mem)
        · simp only [pos, same, takeAll]; simp
        · intro forced; simp
      case isFalse _ =>
        intro final relied'
        have kept := scanning.stable relied'
        refine ⟨rfl, { kept with first := fun _ => ⟨zero, ?_⟩ }⟩
        exact fun node mem => relied'.finished node (testedDone node mem)

/-- Outside `emplace_back` no listed node is todo, so the scan never hands one out. -/
theorem scan_processTodo_safe {world : PartitionWorld} {listData tested : List Nat} {it : Nat}
    {scan : Scan} (scanning : Scanning world.1 listData tested scan) :
    ScannerSafe (fun later _ => Scanning later.1 listData tested scan)
      (processTodo (nodeOps it)) world := by
  refine loadState_safe fun later relied state known => ?_
  have kept := scanning.stable relied
  have notTodo : state ≠ .todo := by
    rintro rfl
    have pending := later.2.settled it known
    rw [later.2.pending_none (by rw [kept.held]; decide)] at pending
    cases pending
  rw [if_neg notTodo]
  exact fun final relied' => kept.stable relied'

theorem countState_safe {world : PartitionWorld} {listData tested : List Nat} {it : Nat}
    {scan : Scan} (status : PmStatus) (scanning : Scanning world.1 listData tested scan) :
    ScannerSafe (fun later _ => Scanning later.1 listData tested scan)
      (countState it status) world := by
  refine loadState_safe fun first relied _ _ => ?_
  have scanning := scanning.stable relied
  split
  · exact fun _ relied => scanning.stable relied
  refine loadState_safe fun second relied _ _ => ?_
  have scanning := scanning.stable relied
  split
  · exact fun _ relied => scanning.stable relied
  refine loadState_safe fun third relied _ _ => ?_
  have scanning := scanning.stable relied
  split
  · exact fun _ relied => scanning.stable relied
  · exact fun _ relied => scanning.stable relied

theorem scanNode_safe {world : PartitionWorld} {listData seen rest : List Nat} {it : Nat}
    {scan : Scan} (split : listData = seen ++ it :: rest) (pos : scan.pos = seen.length)
    (scanning : Scanning world.1 listData seen scan) :
    ScannerSafe (fun later scan' => scan'.pos = (seen ++ [it]).length ∧
        Scanning later.1 listData (seen ++ [it]) scan')
      (scanNode listData.length seen.getLast? it scan) world := by
  refine Prog.Safe.bind ((testPrefix_safe split pos scanning).mono ?_)
  rintro tested scan' ⟨samePos, scanning⟩
  refine Prog.Safe.bind ((scan_processTodo_safe scanning).mono ?_)
  intro processed ret scanning
  refine Prog.Safe.bind ((countState_safe scan'.status scanning).mono ?_)
  intro counted status scanning later relied
  refine ⟨by simp [samePos, pos], ?_⟩
  exact (scanning.stable relied).counted _ _ _

/-- The loop, by induction on the nodes still to visit. -/
theorem scanNodes_safe {world : PartitionWorld} {listData seen rest : List Nat} {scan : Scan}
    (split : listData = seen ++ rest) (pos : scan.pos = seen.length)
    (scanning : Scanning world.1 listData seen scan) :
    ScannerSafe (fun later scan' => Scanning later.1 listData listData scan')
      (scanNodes listData.length seen.getLast? rest scan) world := by
  induction rest generalizing seen scan world with
  | nil =>
    rw [List.append_nil] at split
    subst split
    exact fun later relied => scanning.stable relied
  | cons it rest inductionHypothesis =>
    refine Prog.Safe.bind ((scanNode_safe split pos scanning).mono ?_)
    rintro later scan' ⟨pos', scanning'⟩
    have next := inductionHypothesis (by simp [split]) pos' scanning'
    rwa [List.getLast?_concat] at next

/-! ## The commit and the removal keep their contract -/

theorem eraseHead_eq_drop (listData : List Nat) (num : Nat) :
    eraseHead listData num = listData.drop num := by
  induction listData generalizing num with
  | nil => simp [eraseHead]
  | cons head rest inductionHypothesis =>
    cases num with
    | zero => rfl
    | succ num => exact inductionHypothesis num

/-- The last node of a finished prefix, and everything accepted before it, is done. -/
theorem finished_upto {world : Partition} (wf : world.WellFormed) {count node : Nat}
    (done : ∀ listed ∈ world.listData.take count, world.Finished listed)
    (last : (world.listData.take count).getLast? = some node) :
    ∀ earlier ≤ node, world.Finished earlier := by
  intro earlier le
  have mem : node ∈ world.listData.take count := List.mem_of_getLast? last
  have bound := wf.mem_lt (List.mem_of_mem_take mem)
  by_cases listed : earlier ∈ world.listData
  · have sorted := wf.sorted
    rw [← List.take_append_drop count world.listData] at listed sorted
    rcases List.mem_append.mp listed with front | behind
    · exact done earlier front
    · have := (List.pairwise_append.mp sorted).2.2 node mem earlier behind
      omega
  · exact wf.dropped earlier (by omega) listed

/-- `remove_from_head` after the commit of the last of the first `num` nodes. -/
theorem removeFromHead_safe {world : PartitionWorld} {num node : Nat} {result : Bool}
    (bound : num ≤ world.1.listData.length)
    (done : ∀ listed ∈ world.1.listData.take num, world.1.Finished listed)
    (last : (world.1.listData.take num).getLast? = some node)
    (committed : world.1.commits.getLast? = some (node, result))
    (below : ∀ entry ∈ world.1.commits, entry.1 < world.1.nodes.length ∧
      ∀ listed ∈ world.1.listData.drop num, entry.1 < listed) :
    ScannerSafe (fun later _ => later.1.Cleared) (removeFromHead num) world := by
  refine Prog.Safe.perform fun waited toLock => ⟨trivial, ?_⟩
  rintro _ locked ⟨_, effect⟩
  obtain ⟨-, lockedEq⟩ := Partition.exec_lock.mp effect
  refine Prog.Safe.perform fun reading toLoad => ⟨trivial, ?_⟩
  rintro _ loaded ⟨_, effect⟩
  obtain ⟨rfl, same⟩ := Partition.exec_loadList.mp effect
  obtain rfl : reading = loaded := Subtype.ext same
  refine Prog.Safe.perform fun storing toStore => ?_
  have held : locked.1.mutex = some .scanner := by rw [← lockedEq]
  obtain ⟨heldReading, sameReading⟩ := toLoad.held held
  obtain ⟨heldStoring, sameStoring⟩ := toStore.held heldReading
  -- nothing was removed meanwhile, so the list is still the scanned prefix and what follows it
  have frontEq : storing.1.listData.take num = world.1.listData.take num := by
    obtain ⟨appended, grown⟩ := toLock.listData
    rw [sameStoring, sameReading, ← lockedEq]
    simp only [← grown, List.take_append_of_le_length bound]
  have finishedStoring : ∀ listed, world.1.Finished listed → storing.1.Finished listed := by
    intro listed finished
    apply toStore.finished
    apply toLoad.finished
    rw [← lockedEq]
    exact toLock.finished listed finished
  refine ⟨⟨heldStoring, ?_⟩, ?_⟩
  · obtain ⟨front, takeEq⟩ : ∃ front, world.1.listData.take num = front ++ [node] :=
      List.getLast?_eq_some_iff.mp last
    refine ⟨front, node, result, ?_, ?_, ?_⟩
    · rw [toStore.commits, toLoad.commits, ← lockedEq]
      simpa only [toLock.commits] using committed
    · rw [eraseHead_eq_drop, ← sameStoring]
      calc storing.1.listData
          = storing.1.listData.take num ++ storing.1.listData.drop num :=
            (List.take_append_drop num _).symm
        _ = front ++ node :: storing.1.listData.drop num := by
            rw [frontEq, takeEq, List.append_assoc, List.singleton_append]
    · intro removed mem
      rw [← takeEq] at mem
      exact finishedStoring removed (done removed mem)
  · rintro _ stored ⟨_, effect⟩
    rw [Partition.exec_storeList] at effect
    have clearedStored : stored.1.Cleared := by
      rw [← effect]
      intro entry mem
      have mem : entry ∈ world.1.commits := by
        rw [toStore.commits, toLoad.commits, ← lockedEq] at mem
        rwa [← toLock.commits]
      have grown : world.1.nodes.length ≤ storing.1.nodes.length := by
        refine Nat.le_trans toLock.length (Nat.le_trans ?_ toStore.length)
        refine Nat.le_trans ?_ toLoad.length
        exact Nat.le_of_eq (by rw [← lockedEq])
      refine ⟨Nat.lt_of_lt_of_le (below entry mem).1 grown, fun listed listedMem => ?_⟩
      rw [eraseHead_eq_drop, sameReading, ← lockedEq] at listedMem
      -- a node still listed was behind the prefix, or was appended since
      obtain ⟨appended, split⟩ := toLock.listData
      simp only [← split, List.drop_append_of_le_length bound] at listedMem
      rcases List.mem_append.mp listedMem with behind | new
      · exact (below entry mem).2 listed behind
      · have sorted := waited.2.sorted
        rw [← split] at sorted
        rcases toLock.fresh listed (by rw [← split]; exact List.mem_append_right _ new) with old | late
        · exact absurd ((List.pairwise_append.mp sorted).2.2 listed old listed new) (Nat.lt_irrefl _)
        · exact Nat.lt_of_lt_of_le (below entry mem).1 late
    intro leaving toUnlock
    refine ⟨(toUnlock.held (by rw [← effect]; exact heldStoring)).1, ?_⟩
    rintro _ left ⟨_, unlocked⟩ final relied
    rw [Partition.exec_unlock] at unlocked
    have clearedLeaving : leaving.1.Cleared := clearedStored.stable toUnlock
    have clearedLeft : left.1.Cleared := by rw [← unlocked]; exact clearedLeaving
    exact clearedLeft.stable relied

theorem commitScanned_safe {world : PartitionWorld} {commitNum : Int} {scan : Scan}
    (positive : 0 < commitNum) (scanned : Scanned world.1 scan) :
    ScannerSafe (fun later _ => later.1.Cleared) (commitScanned commitNum scan) world := by
  unfold commitScanned
  split
  case isFalse _ => exact fun later relied => scanned.cleared.stable relied
  case isTrue commits =>
    -- forced or by count, a commit takes a node: the bound of the count is positive
    have found : 0 < scan.firstNotDonePos := by
      simp only [Bool.or_eq_true, decide_eq_true_eq] at commits
      rcases commits with forced | reached
      · exact scanned.force forced
      · omega
    refine Prog.Safe.perform fun committing toCommit => ?_
    have kept := scanned.stable toCommit
    obtain ⟨node, last⟩ : ∃ node,
        (committing.1.listData.take scan.firstNotDonePos).getLast? = some node := by
      have bound := kept.bound
      cases last : (committing.1.listData.take scan.firstNotDonePos).getLast? with
      | some node => exact ⟨node, rfl⟩
      | none =>
        rw [List.getLast?_eq_none_iff, List.take_eq_nil_iff] at last
        rcases last with zero | empty
        · omega
        · rw [empty] at bound
          simp at bound
          omega
    have kmsg := kept.kmsg.trans last
    refine ⟨⟨kept.cleared, node, kmsg, ?_, finished_upto committing.2 kept.done last⟩, ?_⟩
    · exact List.mem_of_mem_take (List.mem_of_getLast? last)
    · rintro result after ⟨given, effect⟩
      obtain ⟨rfl, afterEq⟩ := Partition.exec_commitSync.mp effect
      rw [kmsg] at afterEq
      have bound : scan.firstNotDonePos ≤ after.1.listData.length := by
        rw [← afterEq]; exact kept.bound
      have done : ∀ listed ∈ after.1.listData.take scan.firstNotDonePos,
          after.1.Finished listed := by
        rw [← afterEq]; exact kept.done
      have committed : after.1.commits.getLast? = some (node, given) := by
        rw [← afterEq]; exact List.getLast?_concat
      have lastAfter : (after.1.listData.take scan.firstNotDonePos).getLast? = some node := by
        rw [← afterEq]; exact last
      -- every commit, this one included, is below what stays in the list
      have below : ∀ entry ∈ after.1.commits, entry.1 < after.1.nodes.length ∧
          ∀ listed ∈ after.1.listData.drop scan.firstNotDonePos, entry.1 < listed := by
        rw [← afterEq]
        intro entry mem
        have listed := List.mem_of_getLast? last
        rcases List.mem_append.mp mem with old | new
        · obtain ⟨small, below⟩ := kept.cleared entry old
          exact ⟨small, fun listed mem => below listed (List.mem_of_mem_drop mem)⟩
        · rw [List.mem_singleton.mp new]
          refine ⟨committing.2.mem_lt (List.mem_of_mem_take listed), fun behind mem => ?_⟩
          have sorted := committing.2.sorted
          rw [← List.take_append_drop scan.firstNotDonePos committing.1.listData] at sorted
          exact (List.pairwise_append.mp sorted).2.2 node listed behind mem
      refine Prog.Safe.bind ((removeFromHead_safe bound done lastAfter committed below).mono ?_)
      exact fun final _ cleared later relied => cleared.stable relied

theorem doSomething_safe {world : PartitionWorld} {commitNum : Int} (positive : 0 < commitNum)
    (cleared : world.1.Cleared) :
    ScannerSafe (fun later _ => later.1.Cleared) (doSomething commitNum) world := by
  refine Prog.Safe.perform fun waited toLock => ⟨trivial, ?_⟩
  rintro _ locked ⟨_, effect⟩
  obtain ⟨-, lockedEq⟩ := Partition.exec_lock.mp effect
  refine Prog.Safe.perform fun reading toLoad => ⟨trivial, ?_⟩
  rintro _ loaded ⟨_, effect⟩
  obtain ⟨rfl, same⟩ := Partition.exec_loadList.mp effect
  obtain rfl : reading = loaded := Subtype.ext same
  -- while the scanner has the mutex the list stays as it was loaded
  have held := (toLoad.held (by rw [← lockedEq])).1
  have clearedReading : reading.1.Cleared := by
    have clearedWaited : waited.1.Cleared := cleared.stable toLock
    refine Partition.Cleared.stable ?_ toLoad
    rw [← lockedEq]
    exact clearedWaited
  have start : Scanning reading.1 reading.1.listData []
      { status := { cacheSize := reading.1.listData.length } } := by
    exact ⟨⟨by simp, by simp, by simp, by simp, clearedReading⟩, held, rfl, fun _ => ⟨rfl, by simp⟩⟩
  refine Prog.Safe.bind ((scanNodes_safe (List.nil_append _).symm rfl start).mono ?_)
  intro ended scan scanning
  refine Prog.Safe.perform fun leaving toUnlock => ?_
  have scanning := scanning.stable toUnlock
  refine ⟨scanning.held, ?_⟩
  rintro _ unlocked ⟨_, effect⟩
  rw [Partition.exec_unlock] at effect
  -- the unlock of the scanner clears no pending node: there is none
  have pending : leaving.1.pending = none :=
    leaving.2.pending_none (by rw [scanning.held]; decide)
  apply commitScanned_safe positive
  refine ⟨?_, ?_, ?_, scanning.force, ?_⟩
  · rw [← effect]; exact scanning.bound
  · rw [← effect]
    intro node mem
    exact ⟨(scanning.done node mem).1, by simp⟩
  · rw [← effect]; exact scanning.kmsg
  · rw [← effect]; exact scanning.cleared

/-! ## The contract of the consumer thread -/

/-- What the other threads may do while `emplace_back` runs. -/
structure ConsumerRely (world later : Partition) : Prop where
  messages : later.messages = world.messages
  pending : later.pending = world.pending
  held : world.mutex = some .consumer → later.mutex = some .consumer
  handedOut : ∀ node, world.stateAt node ≠ some .todo → later.stateAt node ≠ some .todo

theorem ConsumerRely.refl (world : Partition) : ConsumerRely world world :=
  ⟨rfl, rfl, id, fun _ => id⟩

theorem ConsumerRely.trans {first second third : Partition} (left : ConsumerRely first second)
    (right : ConsumerRely second third) : ConsumerRely first third :=
  ⟨right.messages.trans left.messages, right.pending.trans left.pending,
    fun held => right.held (left.held held),
    fun node out => right.handedOut node (left.handedOut node out)⟩

/-- The calls of the consumer thread, each with what must hold where it is made.  `accepts`
    is what is known of a new message with respect to those accepted before. -/
def ConsumerAllowed (accepts : List Message → Message → Prop) (world : Partition) :
    PartitionCall → Prop
  | .lock | .loadState _ => True
  | .pushBack data =>
    world.mutex = some .consumer ∧ world.pending = none ∧ accepts world.messages data.msg
  | .storeState node state => world.pending = some node ∧ state ≠ .todo
  | .storeTime _ => True
  | .handle node => world.pending = some node
  | .unlock => world.mutex = some .consumer ∧
      ∀ node, world.pending = some node → world.stateAt node ≠ some .todo
  | _ => False

def consumerContract (accepts : List Message → Message → Prop) :
    Contract PartitionWorld PartitionCall PartitionCall.Answer where
  rely world later := ConsumerRely world.1 later.1
  allowed world request := ConsumerAllowed accepts world.1 request
  effect world request answer after :=
    ∃ given, world.1.exec .consumer request given = some (answer, after.1)
  rely_refl world := .refl world.1
  rely_trans := .trans

abbrev ConsumerSafe {α : Type} (accepts : List Message → Message → Prop)
    (post : PartitionWorld → α → Prop) (program : PartitionProg α) (world : PartitionWorld) : Prop :=
  program.Safe (consumerContract accepts) (fun _ => False) post world

/-- `emplace_back` holds the mutex and its node is not todo any more. -/
def Emplaced (world : Partition) (node : Nat) : Prop :=
  world.mutex = some .consumer ∧ world.pending = some node ∧ world.stateAt node ≠ some .todo

theorem Emplaced.stable {world later : Partition} {node : Nat} (emplaced : Emplaced world node)
    (relied : ConsumerRely world later) : Emplaced later node :=
  ⟨relied.held emplaced.1, relied.pending.trans emplaced.2.1, relied.handedOut node emplaced.2.2⟩

theorem emplace_processTodo_safe {accepts : List Message → Message → Prop}
    {world : PartitionWorld} {node : Nat} (held : world.1.mutex = some .consumer)
    (pending : world.1.pending = some node) :
    ConsumerSafe accepts (fun later _ => Emplaced later.1 node) (processTodo (nodeOps node)) world := by
  refine Prog.Safe.perform fun reading toLoad => ?_
  have held := toLoad.held held
  have pending := toLoad.pending.trans pending
  refine ⟨trivial, ?_⟩
  rintro state loaded ⟨_, effect⟩
  obtain ⟨known, same⟩ := Partition.exec_loadState.mp effect
  obtain rfl : reading = loaded := Subtype.ext same
  show ConsumerSafe accepts _ (if state = NodeState.todo then _ else _) reading
  split
  -- a node that a worker has finished already is not handed out
  case isFalse notTodo =>
    have emplaced : Emplaced reading.1 node := ⟨held, pending, by rw [known]; simpa using notTodo⟩
    exact fun later relied => emplaced.stable relied
  case isTrue _ =>
    refine Prog.Safe.perform fun marking toMark => ?_
    refine ⟨⟨toMark.pending.trans pending, by decide⟩, ?_⟩
    rintro _ marked ⟨_, effect⟩
    rw [Partition.exec_storeState] at effect
    -- marked as doing, and it stays so whatever the workers finish
    have emplaced : Emplaced marked.1 node := by
      rw [← effect]
      refine ⟨toMark.held held, toMark.pending.trans pending, ?_⟩
      simp only [Partition.stateAt_setState, if_true]
      cases marking.1.stateAt node <;> simp
    refine Prog.Safe.perform fun timing toTime => ?_
    have emplaced := emplaced.stable toTime
    refine ⟨trivial, ?_⟩
    rintro _ timed ⟨_, effect⟩
    rw [Partition.exec_storeTime] at effect
    have emplaced : Emplaced timed.1 node := by
      rw [← effect.2]
      exact ⟨emplaced.1, emplaced.2.1, by simpa using emplaced.2.2⟩
    intro handling toHandle
    have emplaced := emplaced.stable toHandle
    refine ⟨emplaced.2.1, ?_⟩
    rintro accepted handled ⟨_, effect⟩
    rw [Partition.exec_handle] at effect
    -- a node whose message is rejected is done at once
    have emplaced : Emplaced handled.1 node := by
      rw [← effect.2]
      split
      · exact emplaced
      · refine ⟨emplaced.1, emplaced.2.1, ?_⟩
        simp only [Partition.stateAt_setState, if_true]
        cases handling.1.stateAt node <;> simp
    exact fun later relied => emplaced.stable relied

theorem emplaceBack_safe {accepts : List Message → Message → Prop} {world : PartitionWorld}
    {data : PmData} (accepted : accepts world.1.messages data.msg) :
    ConsumerSafe accepts (fun _ _ => True) (emplaceBack data) world := by
  refine Prog.Safe.perform fun waited toLock => ⟨trivial, ?_⟩
  rintro _ locked ⟨_, effect⟩
  obtain ⟨free, lockedEq⟩ := Partition.exec_lock.mp effect
  have idle : waited.1.pending = none := waited.2.pending_none (by rw [free]; decide)
  refine Prog.Safe.perform fun pushing toPush => ?_
  have held : pushing.1.mutex = some .consumer := toPush.held (by rw [← lockedEq])
  have same : pushing.1.messages = world.1.messages := by
    rw [toPush.messages, ← lockedEq]
    exact toLock.messages
  refine ⟨⟨held, toPush.pending.trans (by rw [← lockedEq]; exact idle), by rw [same]; exact accepted⟩, ?_⟩
  rintro node pushed ⟨_, effect⟩
  obtain ⟨rfl, pushedEq⟩ := Partition.exec_pushBack.mp effect
  have heldPushed : pushed.1.mutex = some .consumer := by rw [← pushedEq]; exact held
  have pendingPushed : pushed.1.pending = some pushing.1.nodes.length := by rw [← pushedEq]
  refine Prog.Safe.bind ((emplace_processTodo_safe heldPushed pendingPushed).mono ?_)
  intro marked _ emplaced leaving toUnlock
  have emplaced := emplaced.stable toUnlock
  refine ⟨⟨emplaced.1, ?_⟩, fun _ _ _ _ _ => trivial⟩
  intro node pending
  obtain rfl : _ = node := Option.some.inj (emplaced.2.1.symm.trans pending)
  exact emplaced.2.2

/-! ## Every actor keeps the invariant and what the others rely on -/

namespace Partition

/-- Setting a node that is not pending, or setting any node to done, finishes what was
    finished. -/
theorem Finished.setState {world : Partition} {node other : Nat} {state : NodeState}
    (finished : world.Finished other) (safe : state = .done ∨ world.pending = some node) :
    (world.setState node state).Finished other := by
  refine ⟨?_, finished.2⟩
  rw [stateAt_setState, finished.1]
  split
  case isFalse _ => rfl
  case isTrue same =>
    rcases safe with rfl | pending
    · rfl
    · exact absurd (same ▸ pending) finished.2

theorem stateAt_setState_ne_todo {world : Partition} {node other : Nat} {state : NodeState}
    (kept : state ≠ .todo) (out : world.stateAt other ≠ some .todo) :
    (world.setState node state).stateAt other ≠ some .todo := by
  rw [stateAt_setState]
  split
  · cases world.stateAt other <;> simp [kept]
  · exact out

/-- What a change of one node keeps of the invariant. -/
theorem WellFormed.setState {world : Partition} (wf : world.WellFormed) {node : Nat}
    {state : NodeState} (kept : state ≠ .todo) (safe : state = .done ∨ world.pending = some node) :
    (world.setState node state).WellFormed where
  suffix := by simpa using wf.suffix
  settled other todo := by
    by_contra settled
    exact stateAt_setState_ne_todo kept (mt (wf.settled other) settled) todo
  dropped other bound gone := (wf.dropped other (by simpa using bound) gone).setState safe
  pendingLast other pending := by simpa using wf.pendingLast other pending
  committed entry mem := (wf.committed entry mem).setState safe

theorem WellFormed.setTime {world : Partition} (wf : world.WellFormed) (node stime : Nat) :
    (world.setTime node stime).WellFormed where
  suffix := by simpa using wf.suffix
  settled other todo := wf.settled other (by simpa using todo)
  dropped other bound gone := by
    simpa [Finished] using wf.dropped other (by simpa using bound) gone
  pendingLast other pending := by simpa using wf.pendingLast other pending
  committed entry mem := by simpa [Finished] using wf.committed entry mem

theorem stateAt_append {world : Partition} {data : PmData} {node : Nat} (listData : List Nat)
    (pending : Option Nat) (bound : node < world.nodes.length) :
    stateAt { world with nodes := world.nodes ++ [data], listData := listData, pending := pending }
      node = world.stateAt node := by
  simp [stateAt, List.getElem?_append_left bound]

/-- `pushBack` appends a node and makes it the pending one. -/
theorem WellFormed.pushBack {world : Partition} (wf : world.WellFormed) (data : PmData)
    (held : world.mutex = some .consumer) (idle : world.pending = none) :
    WellFormed { world with
      nodes := world.nodes ++ [data]
      listData := world.listData ++ [world.nodes.length]
      pending := some world.nodes.length } where
  suffix := by
    obtain ⟨gone, split⟩ := wf.suffix
    refine ⟨gone, ?_⟩
    simp only [List.length_append, List.length_singleton, List.range_succ, ← split,
      List.append_assoc]
  settled node todo := by
    by_cases bound : node < world.nodes.length
    · rw [stateAt_append _ _ bound] at todo
      rw [wf.settled node todo] at idle
      cases idle
    · have := lt_of_stateAt todo
      simp only [List.length_append, List.length_singleton] at this
      have last : node = world.nodes.length := by omega
      rw [last]
  dropped node bound gone := by
    simp only [List.mem_append, List.mem_singleton, not_or] at gone
    simp only [List.length_append, List.length_singleton] at bound
    -- the new node is listed, so the node is an old one
    have before : node < world.nodes.length := by have := gone.2; omega
    refine ⟨?_, ?_⟩
    · rw [stateAt_append _ _ before]
      exact (wf.dropped node before gone.1).1
    · simpa using fun same => gone.2 same.symm
  pendingLast node pending := by
    obtain rfl : world.nodes.length = node := Option.some.inj pending
    exact ⟨held, by simp, by simp⟩
  committed entry mem := by
    have bound := lt_of_stateAt (wf.committed entry mem).1
    refine ⟨?_, ?_⟩
    · rw [stateAt_append _ _ bound]
      exact (wf.committed entry mem).1
    · simp only [ne_eq, Option.some.injEq]
      omega

theorem WellFormed.unlock {world : Partition} (wf : world.WellFormed)
    (ready : ∀ node, world.pending = some node → world.stateAt node ≠ some .todo) :
    WellFormed { world with mutex := none, pending := none } where
  suffix := wf.suffix
  settled node todo := absurd todo (ready node (wf.settled node todo))
  dropped node bound gone := ⟨(wf.dropped node bound gone).1, by simp⟩
  pendingLast _ pending := by cases pending
  committed entry mem := ⟨(wf.committed entry mem).1, by simp⟩

end Partition

open XBusiness.Consumer.Partition in
theorem scanner_exec {world after : Partition} {request : PartitionCall}
    {given answer : request.Answer} (wf : world.WellFormed) (allowed : ScannerAllowed world request)
    (effect : world.exec .scanner request given = some (answer, after)) :
    after.WellFormed ∧ ConsumerRely world after := by
  cases request with
  | lock =>
    obtain ⟨free, rfl⟩ := exec_lock.mp effect
    have idle : world.pending = none := wf.pending_none (by rw [free]; decide)
    refine ⟨⟨wf.suffix, wf.settled, wf.dropped, ?_, wf.committed⟩, rfl, rfl, ?_, fun _ => id⟩
    · intro node pending
      exact absurd (idle.symm.trans pending) (by simp)
    · rw [free]
      intro held
      cases held
  | unlock =>
    obtain rfl := exec_unlock.mp effect
    have held : world.mutex = some .scanner := allowed
    have idle : world.pending = none := wf.pending_none (by rw [held]; decide)
    refine ⟨wf.unlock ?_, rfl, idle.symm, ?_, fun _ => id⟩
    · rw [idle]
      intro node pending
      cases pending
    · rw [held]
      intro held
      cases held
  | loadList =>
    obtain ⟨-, rfl⟩ := exec_loadList.mp effect
    exact ⟨wf, .refl world⟩
  | loadState node =>
    obtain ⟨-, rfl⟩ := exec_loadState.mp effect
    exact ⟨wf, .refl world⟩
  | storeList listData =>
    obtain rfl := exec_storeList.mp effect
    obtain ⟨held, front, last, result, -, split, removed⟩ := allowed
    -- what leaves the list is done: the front up to the committed node
    have kept : world.listData = (front ++ [last]) ++ listData := by rw [split]; simp
    refine ⟨⟨?_, wf.settled, ?_, ?_, wf.committed⟩, rfl, rfl, id, fun _ => id⟩
    · exact (List.suffix_append _ _).trans (kept ▸ wf.suffix)
    · intro node bound gone
      by_cases listed : node ∈ front ++ [last]
      · exact removed node listed
      · refine wf.dropped node bound ?_
        rw [kept, List.mem_append]
        exact fun mem => mem.elim listed gone
    · intro node pending
      have idle : world.pending = none := wf.pending_none (by rw [held]; decide)
      exact absurd (idle.symm.trans pending) (by simp)
  | commitSync kmsg =>
    obtain ⟨rfl, rfl⟩ := exec_commitSync.mp effect
    obtain ⟨-, node, rfl, -, done⟩ := allowed
    refine ⟨⟨wf.suffix, wf.settled, wf.dropped, wf.pendingLast, ?_⟩, rfl, rfl, id, fun _ => id⟩
    intro entry mem
    rcases List.mem_append.mp mem with old | new
    · exact wf.committed entry old
    · rw [List.mem_singleton.mp new]
      exact done node (Nat.le_refl node)
  | pushBack _ => exact absurd allowed id
  | storeState _ _ => exact absurd allowed id
  | storeTime _ => exact absurd allowed id
  | handle _ => exact absurd allowed id

/-- A store to the pending node, which the scanner never relies on. -/
theorem scannerRely_setState {world : Partition} {node : Nat} {state : NodeState}
    (safe : state = .done ∨ world.pending = some node) :
    ScannerRely world (world.setState node state) :=
  ⟨fun _ finished => finished.setState safe, by simp, List.prefix_rfl, fun _ => .inl, rfl,
    fun held => ⟨held, rfl⟩⟩

open XBusiness.Consumer.Partition in
theorem consumer_exec {accepts : List Message → Message → Prop} {world after : Partition}
    {request : PartitionCall} {given answer : request.Answer} (wf : world.WellFormed)
    (allowed : ConsumerAllowed accepts world request)
    (effect : world.exec .consumer request given = some (answer, after)) :
    after.WellFormed ∧ ScannerRely world after := by
  cases request with
  | lock =>
    obtain ⟨free, rfl⟩ := exec_lock.mp effect
    refine ⟨⟨wf.suffix, wf.settled, wf.dropped, ?_, wf.committed⟩, fun _ => id, Nat.le_refl _,
      List.prefix_rfl, fun _ => .inl, rfl, ?_⟩
    · intro node pending
      exact ⟨rfl, (wf.pendingLast node pending).2⟩
    · rw [free]
      intro held
      cases held
  | unlock =>
    obtain rfl := exec_unlock.mp effect
    refine ⟨wf.unlock allowed.2, fun node finished => ⟨finished.1, by simp⟩, Nat.le_refl _,
      List.prefix_rfl, fun _ => .inl, rfl, ?_⟩
    rw [allowed.1]
    intro held
    cases held
  | pushBack data =>
    obtain ⟨-, rfl⟩ := exec_pushBack.mp effect
    -- the new node is behind every listed one, and no finished one becomes pending
    refine ⟨wf.pushBack data allowed.1 allowed.2.1, ?_, by simp, List.prefix_append _ _, ?_, rfl, ?_⟩
    · intro node finished
      have bound := lt_of_stateAt finished.1
      refine ⟨(stateAt_append _ _ bound).trans finished.1, ?_⟩
      simp only [ne_eq, Option.some.injEq]
      omega
    · intro node mem
      rcases List.mem_append.mp mem with old | new
      · exact .inl old
      · exact .inr (Nat.le_of_eq (List.mem_singleton.mp new).symm)
    · rw [allowed.1]
      intro held
      cases held
  | loadState node =>
    obtain ⟨-, rfl⟩ := exec_loadState.mp effect
    exact ⟨wf, .refl world⟩
  | storeState node state =>
    obtain rfl := exec_storeState.mp effect
    exact ⟨wf.setState allowed.2 (.inr allowed.1), scannerRely_setState (.inr allowed.1)⟩
  | storeTime node =>
    obtain ⟨-, rfl⟩ := exec_storeTime.mp effect
    refine ⟨wf.setTime node given, ?_, by simp, List.prefix_rfl, fun _ => .inl, rfl,
      fun held => ⟨held, rfl⟩⟩
    intro other finished
    exact ⟨by simpa using finished.1, finished.2⟩
  | handle node =>
    obtain ⟨rfl, rfl⟩ := exec_handle.mp effect
    split
    · exact ⟨wf, .refl world⟩
    · exact ⟨wf.setState (by decide) (.inl rfl), scannerRely_setState (.inl rfl)⟩
  | loadList => exact absurd allowed id
  | storeList _ => exact absurd allowed id
  | commitSync _ => exact absurd allowed id

/-- A worker may set any node to done at any moment. -/
theorem finish_relied (world : Partition) (node : Nat) :
    ScannerRely world (world.setState node .done) ∧ ConsumerRely world (world.setState node .done) :=
  ⟨scannerRely_setState (.inl rfl),
    by simp, rfl, id, fun _ => Partition.stateAt_setState_ne_todo (by decide)⟩

/-! ## The invariant of the machine -/

/-- Both threads are somewhere in a program that keeps its contract.  Between two passes of
    the scanner every committed node has left the list. -/
structure PartitionState.Safe (accepts : List Message → Message → Prop) (state : PartitionState) :
    Prop where
  wf : state.world.WellFormed
  cleared : state.scanner = none → state.world.Cleared
  consumer : ∀ program, state.consumer = some program →
    ConsumerSafe accepts (fun _ _ => True) program ⟨state.world, wf⟩
  scanner : ∀ program, state.scanner = some program →
    ScannerSafe (fun later _ => later.1.Cleared) program ⟨state.world, wf⟩

/-- More messages may be accepted than the running programs were started with. -/
theorem PartitionState.Safe.imp {accepts weaker : List Message → Message → Prop}
    {state : PartitionState} (safe : state.Safe accepts)
    (weaken : ∀ messages msg, accepts messages msg → weaker messages msg) : state.Safe weaker where
  wf := safe.wf
  cleared := safe.cleared
  consumer program running := by
    refine (safe.consumer program running).weaken (fun _ _ => id) ?_ fun _ _ _ _ => id
    intro world request allowed
    cases request with
    | pushBack data => exact ⟨allowed.1, allowed.2.1, weaken _ _ allowed.2.2⟩
    | _ => exact allowed
  scanner := safe.scanner

theorem partition_step_safe {accepts : List Message → Message → Prop} {commitNum : Int}
    {state next : PartitionState} {label : PartitionLabel} (safe : state.Safe accepts)
    (accepted : ∀ data, label = .emplaceBack data → accepts state.world.messages data.msg)
    (stepped : state.step commitNum label = some next) : next.Safe accepts := by
  obtain ⟨wf, cleared, consumerSafe, scannerSafe⟩ := safe
  cases partitionStep_of_step stepped with
  | emplaceBack data idle =>
    refine ⟨wf, cleared, ?_, scannerSafe⟩
    rintro _ ⟨⟩
    exact emplaceBack_safe (accepted data rfl)
  | doSomething idle =>
    refine ⟨wf, by simp, consumerSafe, ?_⟩
    rintro _ ⟨⟩
    exact doSomething_safe (floorCommitNum_pos commitNum) (cleared idle)
  | finish node =>
    -- a worker finishes a node, which both threads reckon with
    have wf' : (state.world.setState node .done).WellFormed := wf.setState (by decide) (.inl rfl)
    obtain ⟨scannerRelied, consumerRelied⟩ := finish_relied state.world node
    exact ⟨wf', fun idle => (cleared idle).stable scannerRelied,
      fun program running => (consumerSafe program running).stable consumerRelied,
      fun program running => (scannerSafe program running).stable scannerRelied⟩
  | emplaced answer running =>
    refine ⟨wf, cleared, ?_, scannerSafe⟩
    rintro _ ⟨⟩
  | consumerCall answer running effect =>
    -- the call keeps the contract of the thread, and the other one reckons with it
    obtain ⟨allowed, kept⟩ := (consumerSafe _ running).called
    obtain ⟨wf', relied⟩ := consumer_exec wf allowed effect
    refine ⟨wf', fun idle => (cleared idle).stable relied, ?_,
      fun program running => (scannerSafe program running).stable relied⟩
    rintro _ ⟨⟩
    exact kept _ ⟨_, wf'⟩ ⟨_, effect⟩
  | scanned answer running =>
    refine ⟨wf, fun _ => scannerSafe _ running ⟨state.world, wf⟩ (.refl state.world), consumerSafe, ?_⟩
    rintro _ ⟨⟩
  | scannerCall answer running effect =>
    obtain ⟨allowed, kept⟩ := (scannerSafe _ running).called
    obtain ⟨wf', relied⟩ := scanner_exec wf allowed effect
    refine ⟨wf', by simp, fun program running => (consumerSafe program running).stable relied, ?_⟩
    rintro _ ⟨⟩
    exact kept _ ⟨_, wf'⟩ ⟨_, effect⟩

theorem partition_start_safe (accepts : List Message → Message → Prop) :
    ({} : PartitionState).Safe accepts := by
  refine ⟨⟨by simp, ?_, ?_, ?_, ?_⟩, ?_, ?_, ?_⟩
  · intro node todo; simp [Partition.stateAt] at todo
  · intro node bound; simp at bound
  · intro node pending; cases pending
  · intro entry mem; cases mem
  · intro idle entry mem; cases mem
  · intro program running; cases running
  · intro program running; cases running

theorem partition_safe {commitNum : Int} {state : PartitionState}
    (reachable : (partitionMachine commitNum).Reachable state) : state.Safe fun _ _ => True := by
  refine reachable.invariant (partition_start_safe _) ?_
  intro before label next safe stepped
  exact partition_step_safe safe (fun _ _ => trivial) stepped

/-! ## What a step does to the list and the commits -/

/-- The four things a step can do to the messages, the list and the commits. -/
inductive ListStep (accepts : List Message → Message → Prop) (state : PartitionState)
    (label : PartitionLabel) (later : Partition) : Prop
  /-- Nothing changes but node states, times, the mutex and the pending node. -/
  | kept (messages : later.messages = state.world.messages)
      (listData : later.listData = state.world.listData)
      (commits : later.commits = state.world.commits)
  | append (data : PmData) (accepted : accepts state.world.messages data.msg)
      (messages : later.messages = state.world.messages ++ [data.msg])
      (listData : later.listData = state.world.listData ++ [state.world.nodes.length])
      (commits : later.commits = state.world.commits)
  | commit (node : Nat) (answer : ∀ request : PartitionCall, request.Answer)
      (next : Bool → PartitionProg PmStatus) (labelled : label = .advance .scanner answer)
      (committing : state.scanner = some (.call (.commitSync (some node)) next))
      (cleared : state.world.Cleared) (listed : node ∈ state.world.listData)
      (messages : later.messages = state.world.messages)
      (listData : later.listData = state.world.listData)
      (commits : later.commits =
        state.world.commits ++ [(node, answer (.commitSync (some node)))])
  | remove (front : List Nat) (node : Nat) (result : Bool)
      (committed : state.world.commits.getLast? = some (node, result))
      (split : state.world.listData = front ++ node :: later.listData)
      (messages : later.messages = state.world.messages)
      (commits : later.commits = state.world.commits)

theorem consumer_listStep {accepts : List Message → Message → Prop} {state : PartitionState}
    {label : PartitionLabel} {after : Partition} {request : PartitionCall}
    {given answer : request.Answer} (allowed : ConsumerAllowed accepts state.world request)
    (effect : state.world.exec .consumer request given = some (answer, after)) :
    ListStep accepts state label after := by
  cases request with
  | lock =>
    obtain ⟨-, rfl⟩ := Partition.exec_lock.mp effect
    exact .kept rfl rfl rfl
  | unlock =>
    obtain rfl := Partition.exec_unlock.mp effect
    exact .kept rfl rfl rfl
  | pushBack data =>
    obtain ⟨-, rfl⟩ := Partition.exec_pushBack.mp effect
    exact .append data allowed.2.2 (by simp [Partition.messages]) rfl rfl
  | loadState node =>
    obtain ⟨-, rfl⟩ := Partition.exec_loadState.mp effect
    exact .kept rfl rfl rfl
  | storeState node state =>
    obtain rfl := Partition.exec_storeState.mp effect
    exact .kept (Partition.messages_setState _ _ _) rfl rfl
  | storeTime node =>
    obtain ⟨-, rfl⟩ := Partition.exec_storeTime.mp effect
    exact .kept (Partition.messages_setTime _ _ _) rfl rfl
  | handle node =>
    obtain ⟨-, rfl⟩ := Partition.exec_handle.mp effect
    split
    · exact .kept rfl rfl rfl
    · exact .kept (Partition.messages_setState _ _ _) rfl rfl
  | loadList => exact absurd allowed id
  | storeList _ => exact absurd allowed id
  | commitSync _ => exact absurd allowed id

theorem scanner_listStep {accepts : List Message → Message → Prop} {state : PartitionState}
    {answers : ∀ request : PartitionCall, request.Answer} {after : Partition}
    {request : PartitionCall} {next : request.Answer → PartitionProg PmStatus}
    {answer : request.Answer} (running : state.scanner = some (.call request next))
    (allowed : ScannerAllowed state.world request)
    (effect : state.world.exec .scanner request (answers request) = some (answer, after)) :
    ListStep accepts state (.advance .scanner answers) after := by
  cases request with
  | lock =>
    obtain ⟨-, rfl⟩ := Partition.exec_lock.mp effect
    exact .kept rfl rfl rfl
  | unlock =>
    obtain rfl := Partition.exec_unlock.mp effect
    exact .kept rfl rfl rfl
  | loadList =>
    obtain ⟨-, rfl⟩ := Partition.exec_loadList.mp effect
    exact .kept rfl rfl rfl
  | loadState node =>
    obtain ⟨-, rfl⟩ := Partition.exec_loadState.mp effect
    exact .kept rfl rfl rfl
  | storeList listData =>
    obtain rfl := Partition.exec_storeList.mp effect
    obtain ⟨-, front, node, result, committed, split, -⟩ := allowed
    exact .remove front node result committed split rfl rfl
  | commitSync kmsg =>
    obtain ⟨-, rfl⟩ := Partition.exec_commitSync.mp effect
    obtain ⟨cleared, node, rfl, listed, -⟩ := allowed
    exact .commit node answers next rfl running cleared listed rfl rfl rfl
  | pushBack _ => exact absurd allowed id
  | storeState _ _ => exact absurd allowed id
  | storeTime _ => exact absurd allowed id
  | handle _ => exact absurd allowed id

theorem partition_step_cases {accepts : List Message → Message → Prop} {commitNum : Int}
    {state next : PartitionState} {label : PartitionLabel} (safe : state.Safe accepts)
    (stepped : state.step commitNum label = some next) : ListStep accepts state label next.world := by
  cases partitionStep_of_step stepped with
  | emplaceBack data idle => exact .kept rfl rfl rfl
  | doSomething idle => exact .kept rfl rfl rfl
  | finish node => exact .kept (Partition.messages_setState _ _ _) rfl rfl
  | emplaced answer running => exact .kept rfl rfl rfl
  | consumerCall answer running effect =>
    exact consumer_listStep (safe.consumer _ running).called.1 effect
  | scanned answer running => exact .kept rfl rfl rfl
  | scannerCall answer running effect =>
    exact scanner_listStep running (safe.scanner _ running).called.1 effect

/-! ## Commit safety -/

/-- What a reachable state of the partition guarantees about its list, its commits and the
    two calls that `do_something` makes outside the scan. -/
structure CommitSafe (state : PartitionState) : Prop where
  contiguous : state.world.listData <:+ List.range state.world.nodes.length
  dropped : ∀ node < state.world.nodes.length, node ∉ state.world.listData →
    state.world.stateAt node = some .done
  committed : ∀ entry ∈ state.world.commits, state.world.stateAt entry.1 = some .done
  commit : ∀ kmsg next, state.scanner = some (.call (.commitSync kmsg) next) →
    ∃ node, kmsg = some node ∧ node ∈ state.world.listData ∧
      ∀ earlier ≤ node, state.world.stateAt earlier = some .done
  remove : ∀ listData next, state.scanner = some (.call (.storeList listData) next) →
    ∃ front node result, state.world.commits.getLast? = some (node, result) ∧
      state.world.listData = front ++ node :: listData ∧
      ∀ removed ∈ front ++ [node], state.world.stateAt removed = some .done

theorem commit_safety (commitNum : Int) (state : PartitionState)
    (reachable : (partitionMachine commitNum).Reachable state) : CommitSafe state := by
  obtain ⟨wf, -, -, scannerSafe⟩ := partition_safe reachable
  refine ⟨wf.suffix, fun node bound gone => (wf.dropped node bound gone).1,
    fun entry mem => (wf.committed entry mem).1, ?_, ?_⟩
  · intro kmsg next running
    obtain ⟨-, node, found, listed, done⟩ := (scannerSafe _ running).called.1
    exact ⟨node, found, listed, fun earlier le => (done earlier le).1⟩
  · intro listData next running
    obtain ⟨-, front, node, result, last, split, done⟩ :=
      (scannerSafe _ running).called.1
    exact ⟨front, node, result, last, split, fun removed mem => (done removed mem).1⟩

/-- Messages are accepted and commits succeed; the clock stands still. -/
def acceptAll : ∀ request : PartitionCall, request.Answer
  | .lock | .unlock | .storeList _ | .storeState _ _ => ()
  | .pushBack _ | .storeTime _ => (0 : Nat)
  | .loadList => ([] : List Nat)
  | .loadState _ => NodeState.todo
  | .handle _ | .commitSync _ => true

/-- One message is delivered and finished, a second one is delivered, and a pass of
    `do_something` has reached `remove_from_head`. -/
def oneOfTwoFinished : List PartitionLabel :=
  .emplaceBack ⟨.todo, 0, "a", ⟨"gzc", 0, 7, "{}"⟩⟩ :: List.replicate 8 (.advance .consumer acceptAll) ++
  .finish 0 :: .emplaceBack ⟨.todo, 0, "b", ⟨"gzc", 0, 8, "{}"⟩⟩ ::
    List.replicate 8 (.advance .consumer acceptAll) ++
  .doSomething :: List.replicate 15 (.advance .scanner acceptAll)

theorem commit_safety_oneOfTwoFinished :
    ∃ state, (partitionMachine 1).run (partitionMachine 1).start oneOfTwoFinished = some state ∧
      state.world.listData = [0, 1] ∧ state.world.commits = [(0, true)] ∧ CommitSafe state :=
  ⟨_, rfl, rfl, rfl, commit_safety 1 _ ⟨oneOfTwoFinished, rfl⟩⟩

end XBusiness.Consumer
