import XBusiness.Consumer.CommitSafety

/-! # The counts of a pass

A visit of `do_something` loads the state of its node up to five times, and a worker may set
the node to done between any two of the loads.  Each node is nevertheless counted once: with
the mutex held no listed node is todo, and a node that was read as done is done at every later
load.

* `PassLog` — what a pass has loaded, gathered beside a run.
* `Visited` / `scanNode_counts` — the counters after the nodes visited so far.
* `Counts` — what the returned status says of the loads.
* `scan_counts_exact` — it says so at the end of every pass of every run.
-/

namespace XBusiness.Consumer

open Interaction
open Prog (perform)

/-! ## What a pass has loaded -/

/-- The list that the pass has loaded, and its loads of node states, the latest one first. -/
structure PassLog where
  listed : Option (List Nat) := none
  reads : List (Nat × NodeState) := []
  deriving DecidableEq, Repr

namespace PassLog

/-- What the latest load of the node has returned. -/
def lastRead (log : PassLog) (node : Nat) : Option NodeState :=
  (log.reads.find? fun read => read.1 = node).map Prod.snd

def read (log : PassLog) (node : Nat) (state : NodeState) : PassLog :=
  { log with reads := (node, state) :: log.reads }

/-- The log after a call of the scanning thread; `remove_from_head` loads the list again. -/
def record (log : PassLog) (world : Partition) : PartitionCall → PassLog
  | .loadList => { log with listed := some (log.listed.getD world.listData) }
  | .loadState node => (world.stateAt node).elim log fun state => log.read node state
  | _ => log

/-- The log is about the latest pass that was started. -/
def observer (state : PartitionState) : PartitionLabel → PassLog → PassLog
  | .doSomething, _ => {}
  | .advance .scanner _, log =>
    match state.scanner with
    | some (.call request _) => log.record state.world request
    | _ => log
  | _, log => log

@[simp] theorem lastRead_read_self (log : PassLog) (node : Nat) (state : NodeState) :
    (log.read node state).lastRead node = some state := by
  simp [lastRead, read]

theorem lastRead_read_of_ne (log : PassLog) {node other : Nat} (state : NodeState) (ne : other ≠ node) :
    (log.read node state).lastRead other = log.lastRead other := by
  simp [lastRead, read, ne.symm]

/-- The second log goes on with loads of the node only. -/
structure ReadsOnly (node : Nat) (log later : PassLog) : Prop where
  listed : later.listed = log.listed
  others : ∀ other, other ≠ node → later.lastRead other = log.lastRead other

theorem ReadsOnly.refl (node : Nat) (log : PassLog) : ReadsOnly node log log := ⟨rfl, fun _ _ => rfl⟩

theorem ReadsOnly.trans {node : Nat} {first second third : PassLog} (left : ReadsOnly node first second)
    (right : ReadsOnly node second third) : ReadsOnly node first third where
  listed := right.listed.trans left.listed
  others other ne := (right.others other ne).trans (left.others other ne)

theorem ReadsOnly.read (node : Nat) (log : PassLog) (state : NodeState) :
    ReadsOnly node log (log.read node state) where
  listed := rfl
  others _ ne := log.lastRead_read_of_ne state ne

end PassLog

/-- The loads of the latest pass of a run. -/
def passLog (commitNum : Int) (labels : List PartitionLabel) : PassLog :=
  (partitionMachine commitNum).observe PassLog.observer (partitionMachine commitNum).start labels {}

/-! ## The contract of a pass that is logged -/

structure CountWorld where
  world : Partition
  wf : world.WellFormed
  log : PassLog

def countContract : Contract CountWorld PartitionCall PartitionCall.Answer where
  rely before later := ScannerRely before.world later.world ∧ later.log = before.log
  allowed _ _ := True
  effect before request answer after :=
    (∃ given, before.world.exec .scanner request given = some (answer, after.world)) ∧
      after.log = before.log.record before.world request
  rely_refl before := ⟨.refl before.world, rfl⟩
  rely_trans left right := ⟨left.1.trans right.1, right.2.trans left.2⟩

abbrev CountSafe {α : Type} (post : CountWorld → α → Prop) (program : PartitionProg α)
    (here : CountWorld) : Prop :=
  program.Safe countContract (fun _ => False) post here

/-- The scanning thread holds the mutex, and since the log was `log` only the node was loaded. -/
structure Visiting (node : Nat) (log : PassLog) (here : CountWorld) : Prop where
  held : here.world.mutex = some .scanner
  reads : PassLog.ReadsOnly node log here.log

theorem Visiting.stable {node : Nat} {log : PassLog} {here later : CountWorld}
    (visiting : Visiting node log here) (relied : countContract.rely here later) :
    Visiting node log later :=
  ⟨(relied.1.held visiting.held).1, by rw [relied.2]; exact visiting.reads⟩

/-- A load of the node that is visited: the node is not todo, since that takes a running
    `emplace_back`, and one that is done is finished. -/
theorem loadVisited_safe {α : Type} {post : CountWorld → α → Prop} {node : Nat} {log : PassLog}
    {next : NodeState → PartitionProg α} {here : CountWorld} (visiting : Visiting node log here)
    (rest : ∀ later : CountWorld, ScannerRely here.world later.world → Visiting node log later →
      ∀ state, later.world.stateAt node = some state → later.log.lastRead node = some state →
        state ≠ .todo → (state = .done → later.world.Finished node) → CountSafe post (next state) later) :
    CountSafe post (perform (.loadState node) >>= next) here := by
  apply Prog.Safe.perform
  intro later relied
  have visiting := visiting.stable relied
  refine ⟨trivial, ?_⟩
  rintro state after ⟨⟨_, effect⟩, logged⟩
  obtain ⟨known, same⟩ := Partition.exec_loadState.mp effect
  -- the scanner has the mutex, so no `emplace_back` is under way
  have pending : later.world.pending = none :=
    later.wf.pending_none (by rw [visiting.held]; decide)
  have logEq : after.log = later.log.read node state := by
    rw [logged, PassLog.record, known]
    rfl
  apply rest after
  · rw [← same]
    exact relied.1
  · refine ⟨by rw [← same]; exact visiting.held, ?_⟩
    rw [logEq]
    exact visiting.reads.trans (.read node later.log state)
  · rw [← same]
    exact known
  · rw [logEq]
    simp
  · rintro rfl
    have := later.wf.settled node known
    rw [pending] at this
    cases this
  · rintro rfl
    rw [← same]
    exact ⟨known, by rw [pending]; exact Option.some_ne_none _ |>.symm⟩

theorem ret_visiting {α : Type} {node : Nat} {log : PassLog} {value : α} {fact : α → Prop}
    {here : CountWorld} (visiting : Visiting node log here) (holds : fact value) :
    CountSafe (fun later value => Visiting node log later ∧ fact value) (.ret value) here :=
  fun _ relied => ⟨visiting.stable relied, holds⟩

/-! ## One visit -/

theorem testPrefix_visiting {node : Nat} {log : PassLog} {here : CountWorld} {size : Nat}
    {prev : Option Nat} {scan : Scan} (visiting : Visiting node log here) :
    CountSafe (fun later scan' => Visiting node log later ∧
        scan'.status = scan.status ∧ scan'.processNum = scan.processNum)
      (testPrefix size prev node scan) here := by
  unfold testPrefix
  split
  case isFalse _ => exact ret_visiting visiting ⟨rfl, rfl⟩
  case isTrue _ =>
    apply loadVisited_safe visiting
    intro later _ visiting state _ _ _ _
    split
    case isTrue _ =>
      cases prev with
      | none => exact ret_visiting visiting ⟨rfl, rfl⟩
      | some itTmp => exact ret_visiting visiting ⟨rfl, rfl⟩
    case isFalse _ =>
      split
      · exact ret_visiting visiting ⟨rfl, rfl⟩
      · exact ret_visiting visiting ⟨rfl, rfl⟩

theorem processTodo_visiting {node : Nat} {log : PassLog} {here : CountWorld}
    (visiting : Visiting node log here) :
    CountSafe (fun later processed => Visiting node log later ∧ processed = false)
      (processTodo (nodeOps node)) here := by
  apply loadVisited_safe visiting
  intro later _ visiting state _ _ notTodo _
  rw [if_neg notTodo]
  exact ret_visiting visiting rfl

/-- The status counts the node once more, in the counter of the state that was read last. -/
inductive CountedOnce (node : Nat) (log : PassLog) (status : PmStatus) : PmStatus → Prop
  | doing (lastRead : log.lastRead node = some .doing) :
      CountedOnce node log status { status with doingNum := status.doingNum + 1 }
  | done (lastRead : log.lastRead node = some .done) :
      CountedOnce node log status { status with doneNum := status.doneNum + 1 }

theorem countState_once {node : Nat} {log : PassLog} {here : CountWorld} (status : PmStatus)
    (visiting : Visiting node log here) :
    CountSafe (fun later counted => Visiting node log later ∧ CountedOnce node later.log status counted)
      (countState node status) here := by
  apply loadVisited_safe visiting
  intro first _ visiting state _ _ notTodo _
  rw [if_neg notTodo]
  apply loadVisited_safe visiting
  intro second _ visiting state _ lastRead notTodo finished
  split
  case isTrue doing =>
    rintro later ⟨relied, sameLog⟩
    refine ⟨visiting.stable ⟨relied, sameLog⟩, .doing ?_⟩
    rw [sameLog, lastRead, doing]
  case isFalse notDoing =>
    -- neither todo nor doing: the node is done, and stays so for the third load
    have done : state = .done := by
      cases state with
      | todo => exact absurd rfl notTodo
      | doing => exact absurd rfl notDoing
      | done => rfl
    apply loadVisited_safe visiting
    intro third relied visiting state known lastRead _ _
    have stillDone := (relied.finished node (finished done)).1
    have stateDone : state = .done := Option.some.inj (known.symm.trans stillDone)
    rw [if_pos stateDone]
    rintro later ⟨relied, sameLog⟩
    refine ⟨visiting.stable ⟨relied, sameLog⟩, .done ?_⟩
    rw [sameLog, lastRead, stateDone]

/-! ## The loop -/

/-- How many of the nodes were last read in the state. -/
def PassLog.countRead (log : PassLog) (nodes : List Nat) (state : NodeState) : Nat :=
  nodes.countP fun node => log.lastRead node = some state

/-- The counters after the visits of the nodes `visited`. -/
structure Visited (listed visited : List Nat) (here : CountWorld) (scan : Scan) : Prop where
  held : here.world.mutex = some .scanner
  loaded : here.log.listed = some listed
  size : scan.status.cacheSize = listed.length
  todo : scan.status.todoNum = 0
  process : scan.processNum = 0
  doing : scan.status.doingNum = here.log.countRead visited .doing
  done : scan.status.doneNum = here.log.countRead visited .done
  either : ∀ node ∈ visited, here.log.lastRead node = some .doing ∨ here.log.lastRead node = some .done

theorem PassLog.ReadsOnly.countRead {node : Nat} {log later : PassLog} (reads : ReadsOnly node log later)
    {nodes : List Nat} (absent : node ∉ nodes) (state : NodeState) :
    later.countRead nodes state = log.countRead nodes state := by
  apply List.countP_congr
  intro other listed
  rw [reads.others other (by rintro rfl; exact absent listed)]

theorem PassLog.countRead_concat (log : PassLog) (nodes : List Nat) (node : Nat) (state : NodeState) :
    log.countRead (nodes ++ [node]) state =
      log.countRead nodes state + if log.lastRead node = some state then 1 else 0 := by
  simp [countRead, List.countP_append, List.countP_cons]

theorem Visited.stable {listed visited : List Nat} {here later : CountWorld} {scan : Scan}
    (counted : Visited listed visited here scan) (relied : countContract.rely here later) :
    Visited listed visited later scan := by
  obtain ⟨moved, sameLog⟩ := relied
  refine ⟨(moved.held counted.held).1, ?_, counted.size, counted.todo, counted.process, ?_, ?_, ?_⟩
  · rw [sameLog]; exact counted.loaded
  · rw [sameLog]; exact counted.doing
  · rw [sameLog]; exact counted.done
  · rw [sameLog]; exact counted.either

theorem scanNode_counts {listed visited : List Nat} {node : Nat} {here : CountWorld} {size : Nat}
    {prev : Option Nat} {scan : Scan} (fresh : node ∉ visited)
    (counted : Visited listed visited here scan) :
    CountSafe (fun later scan' => Visited listed (visited ++ [node]) later scan')
      (scanNode size prev node scan) here := by
  apply Prog.Safe.bind
  apply (testPrefix_visiting ⟨counted.held, .refl node here.log⟩).mono
  rintro tested scan' ⟨visiting, sameStatus, sameProcess⟩
  apply Prog.Safe.bind
  apply (processTodo_visiting visiting).mono
  rintro processed _ ⟨visiting, rfl⟩
  apply Prog.Safe.bind
  apply (countState_once scan'.status visiting).mono
  rintro last status ⟨visiting, once⟩ later relied
  apply Visited.stable _ relied
  -- the visit reads its own node only, so the nodes visited before count as they did
  have sameDoing := visiting.reads.countRead fresh .doing
  have sameDone := visiting.reads.countRead fresh .done
  have either : ∀ other ∈ visited,
      last.log.lastRead other = some .doing ∨ last.log.lastRead other = some .done := by
    intro other mem
    rw [visiting.reads.others other (by rintro rfl; exact fresh mem)]
    exact counted.either other mem
  rw [sameStatus] at once
  cases once with
  | doing lastRead =>
    refine ⟨visiting.held, visiting.reads.listed.trans counted.loaded, counted.size, counted.todo, ?_, ?_, ?_, ?_⟩
    · simpa [sameProcess] using counted.process
    · simp [PassLog.countRead_concat, lastRead, sameDoing, counted.doing]
    · simp [PassLog.countRead_concat, lastRead, sameDone, counted.done]
    · intro other mem
      cases List.mem_append.mp mem with
      | inl mem => exact either other mem
      | inr mem => rw [List.mem_singleton.mp mem]; exact .inl lastRead
  | done lastRead =>
    refine ⟨visiting.held, visiting.reads.listed.trans counted.loaded, counted.size, counted.todo, ?_, ?_, ?_, ?_⟩
    · simpa [sameProcess] using counted.process
    · simp [PassLog.countRead_concat, lastRead, sameDoing, counted.doing]
    · simp [PassLog.countRead_concat, lastRead, sameDone, counted.done]
    · intro other mem
      cases List.mem_append.mp mem with
      | inl mem => exact either other mem
      | inr mem => rw [List.mem_singleton.mp mem]; exact .inr lastRead

/-- The loop, by induction on the nodes still to visit. -/
theorem scanNodes_counts {listed visited rest : List Nat} {here : CountWorld} {size : Nat}
    {prev : Option Nat} {scan : Scan} (split : listed = visited ++ rest) (distinct : listed.Nodup)
    (counted : Visited listed visited here scan) :
    CountSafe (fun later scan' => Visited listed listed later scan') (scanNodes size prev rest scan) here := by
  induction rest generalizing visited prev scan here with
  | nil =>
    rw [List.append_nil] at split
    subst split
    exact fun later relied => counted.stable relied
  | cons node rest inductionHypothesis =>
    have fresh : node ∉ visited := by
      rw [split] at distinct
      intro mem
      exact (List.nodup_append.mp distinct).2.2 node mem node (by simp) rfl
    apply Prog.Safe.bind
    apply (scanNode_counts fresh counted).mono
    intro later scan' counted
    exact inductionHypothesis (by simp [split]) counted

/-! ## A whole pass -/

/-- `cache_size - done_num` as `CConsumeProcess::Run` computes it, on unsigned 32-bit fields. -/
def PmStatus.unfinished (status : PmStatus) : UInt32 :=
  UInt32.ofNat status.cacheSize - UInt32.ofNat status.doneNum

/-- The status counts each listed node once, by the state that the pass has read last. -/
structure Counts (log : PassLog) (listed : List Nat) (status : PmStatus) : Prop where
  distinct : listed.Nodup
  size : status.cacheSize = listed.length
  todo : status.todoNum = 0
  process : status.processNum = 0
  doing : status.doingNum = log.countRead listed .doing
  done : status.doneNum = log.countRead listed .done
  total : status.todoNum + status.doingNum + status.doneNum = status.cacheSize
  bounded : status.doneNum ≤ status.cacheSize
  notDone : status.cacheSize - status.doneNum =
    listed.countP fun node => log.lastRead node ≠ some .done
  unfinished : status.unfinished =
    UInt32.ofNat (listed.countP fun node => log.lastRead node ≠ some .done)

theorem PassLog.countRead_total {log : PassLog} {nodes : List Nat}
    (either : ∀ node ∈ nodes, log.lastRead node = some .doing ∨ log.lastRead node = some .done) :
    log.countRead nodes .doing + log.countRead nodes .done = nodes.length := by
  induction nodes with
  | nil => rfl
  | cons node rest inductionHypothesis =>
    have tail := inductionHypothesis fun other mem => either other (by simp [mem])
    simp only [countRead, List.countP_cons, List.length_cons] at tail ⊢
    cases either node (by simp) with
    | inl doing => simp [doing]; omega
    | inr done => simp [done]; omega

theorem PassLog.countRead_not {log : PassLog} (nodes : List Nat) :
    log.countRead nodes .done + nodes.countP (fun node => log.lastRead node ≠ some .done) =
      nodes.length := by
  rw [countRead, List.length_eq_countP_add_countP fun node => decide (log.lastRead node = some .done)]
  congr 1
  apply List.countP_congr
  simp

theorem Visited.counts {listed : List Nat} {here : CountWorld} {scan : Scan} (distinct : listed.Nodup)
    (counted : Visited listed listed here scan) (commitNum : Nat) :
    Counts here.log listed { scan.status with commitNum := commitNum, processNum := scan.processNum } := by
  have total := PassLog.countRead_total counted.either
  have rest := here.log.countRead_not listed
  have notDone : scan.status.cacheSize - scan.status.doneNum =
      listed.countP fun node => here.log.lastRead node ≠ some .done := by
    rw [counted.size, counted.done]
    omega
  have bounded : scan.status.doneNum ≤ scan.status.cacheSize := by
    rw [counted.size, counted.done]
    omega
  refine ⟨distinct, counted.size, counted.todo, counted.process, counted.doing, counted.done, ?_, bounded,
    notDone, ?_⟩
  · simp only [counted.todo, counted.doing, counted.done, counted.size]
    omega
  · rw [PmStatus.unfinished, ← UInt32.ofNat_sub bounded, notDone]

/-- What is counted does not change after the scan: no more states are loaded. -/
def Recorded (listed : List Nat) (reads : List (Nat × NodeState)) (here : CountWorld) : Prop :=
  here.log = { listed := some listed, reads := reads }

/-- Every call but a load of a node state. -/
def LoadsNoState (request : PartitionCall) : Prop := ∀ node, request ≠ .loadState node

theorem Recorded.kept {listed : List Nat} {reads : List (Nat × NodeState)} {here : CountWorld}
    {request : PartitionCall} (noState : LoadsNoState request) (recorded : Recorded listed reads here) :
    countContract.allowed here request ∧
      ∀ answer after, countContract.effect here request answer after → Recorded listed reads after := by
  refine ⟨trivial, ?_⟩
  rintro answer after ⟨-, logged⟩
  rw [Recorded, logged]
  rw [Recorded] at recorded
  cases request with
  | loadState node => exact absurd rfl (noState node)
  | loadList => simp [PassLog.record, recorded]
  | _ => exact recorded

theorem removeFromHead_makes (num : Nat) : (removeFromHead num).Makes LoadsNoState fun _ => True := by
  refine ⟨by simp [LoadsNoState], fun _ => ⟨by simp [LoadsNoState], fun listData => ?_⟩⟩
  exact ⟨by simp [LoadsNoState], fun _ => ⟨by simp [LoadsNoState], fun _ => trivial⟩⟩

theorem commitScanned_makes (commitNum : Int) (scan : Scan) :
    (commitScanned commitNum scan).Makes LoadsNoState fun status =>
      ∃ commitNum, status = { scan.status with commitNum := commitNum, processNum := scan.processNum } := by
  unfold commitScanned
  split
  · refine ⟨by simp [LoadsNoState], fun _ => ?_⟩
    apply (removeFromHead_makes scan.firstNotDonePos).bind
    exact fun _ _ => ⟨_, rfl⟩
  · exact ⟨scan.status.commitNum, rfl⟩

theorem commitScanned_recorded {listed : List Nat} {reads : List (Nat × NodeState)} {here : CountWorld}
    (commitNum : Int) (scan : Scan) (recorded : Recorded listed reads here) :
    CountSafe (fun later status => Recorded listed reads later ∧ ∃ commitNum,
        status = { scan.status with commitNum := commitNum, processNum := scan.processNum })
      (commitScanned commitNum scan) here := by
  apply (commitScanned_makes commitNum scan).safe (Recorded listed reads)
  · intro before later relied recorded
    rw [Recorded, relied.2]
    exact recorded
  · exact fun _ _ noState recorded => recorded.kept noState
  · exact fun raised => raised.elim
  · exact recorded

theorem doSomething_counts {here : CountWorld} {commitNum : Int} (fresh : here.log = {}) :
    CountSafe (fun later status => ∃ listed, later.log.listed = some listed ∧ Counts later.log listed status)
      (doSomething commitNum) here := by
  apply Prog.Safe.perform
  rintro waiting ⟨-, sameWaiting⟩
  refine ⟨trivial, ?_⟩
  rintro _ locked ⟨⟨_, effect⟩, loggedLock⟩
  obtain ⟨-, lockedEq⟩ := Partition.exec_lock.mp effect
  apply Prog.Safe.perform
  rintro reading ⟨toLoad, sameReading⟩
  refine ⟨trivial, ?_⟩
  rintro listData loaded ⟨⟨_, effect⟩, loggedLoad⟩
  obtain ⟨rfl, same⟩ := Partition.exec_loadList.mp effect
  have held : loaded.world.mutex = some .scanner := by
    rw [← same]
    exact (toLoad.held (by rw [← lockedEq])).1
  have log : loaded.log = { listed := some reading.world.listData } := by
    rw [loggedLoad, sameReading, loggedLock, sameWaiting, fresh]
    rfl
  -- no node is listed twice, so each is visited once
  have distinct : reading.world.listData.Nodup := reading.wf.sorted.imp Nat.ne_of_lt
  have start : Visited reading.world.listData [] loaded
      { status := { cacheSize := reading.world.listData.length } } :=
    ⟨held, by rw [log], rfl, rfl, rfl, rfl, rfl, by simp⟩
  apply Prog.Safe.bind
  apply (scanNodes_counts (List.nil_append _).symm distinct start).mono
  intro ended scan counted
  apply Prog.Safe.perform
  rintro leaving relied
  have counted := counted.stable relied
  refine ⟨trivial, ?_⟩
  rintro _ left ⟨-, loggedUnlock⟩
  -- what comes behind the loop reads no state, so the log stays as the loop left it
  have recorded : Recorded reading.world.listData leaving.log.reads left := by
    rw [Recorded, loggedUnlock, ← counted.loaded]
    rfl
  apply (commitScanned_recorded commitNum scan recorded).mono
  rintro final status ⟨recorded, commitNum', rfl⟩
  have sameLog : final.log = leaving.log := by
    rw [recorded, ← counted.loaded]
  refine ⟨reading.world.listData, by rw [recorded], ?_⟩
  rw [sameLog]
  exact counted.counts distinct commitNum'

/-! ## Every run -/

/-- What the scanning thread may count on, of every step but its own. -/
theorem others_relied {accepts : List Message → Message → Prop} {commitNum : Int}
    {state next : PartitionState} {label : PartitionLabel} (safe : state.Safe accepts)
    (other : ∀ answer, label ≠ .advance .scanner answer)
    (stepped : state.step commitNum label = some next) : ScannerRely state.world next.world := by
  cases partitionStep_of_step stepped with
  | emplaceBack data idle => exact .refl state.world
  | doSomething idle => exact .refl state.world
  | finish node => exact (finish_relied state.world node).1
  | emplaced answer running => exact .refl state.world
  | consumerCall answer running effect =>
    exact (consumer_exec safe.wf (safe.consumer _ running).called.1 effect).2
  | scanned answer running => exact absurd rfl (other answer)
  | scannerCall answer running effect => exact absurd rfl (other answer)

/-- The pass that is running keeps its contract from what it has loaded so far. -/
structure Counting (state : PartitionState) (log : PassLog) : Prop where
  safe : state.Safe fun _ _ => True
  scanner : ∀ program, state.scanner = some program →
    CountSafe (fun later status => ∃ listed, later.log.listed = some listed ∧ Counts later.log listed status)
      program ⟨state.world, safe.wf, log⟩

theorem counting_step {commitNum : Int} {state next : PartitionState} {log : PassLog}
    {label : PartitionLabel} (counting : Counting state log)
    (stepped : state.step commitNum label = some next) : Counting next (PassLog.observer state label log) := by
  have safe : next.Safe fun _ _ => True :=
    partition_step_safe counting.safe (fun _ _ => trivial) stepped
  -- a step of another thread, which the log leaves as it is
  have others (other : ∀ answer, label ≠ .advance .scanner answer)
      (sameScanner : next.scanner = state.scanner) : Counting next log := by
    refine ⟨safe, fun program running => ?_⟩
    rw [sameScanner] at running
    have relied : countContract.rely ⟨state.world, counting.safe.wf, log⟩ ⟨next.world, safe.wf, log⟩ :=
      ⟨others_relied counting.safe other stepped, rfl⟩
    exact (counting.scanner program running).stable relied
  cases partitionStep_of_step stepped with
  | emplaceBack data idle => exact others (by simp) rfl
  | finish node => exact others (by simp) rfl
  | emplaced answer running => exact others (by simp) rfl
  | consumerCall answer running effect => exact others (by simp) rfl
  | doSomething idle =>
    refine ⟨safe, ?_⟩
    rintro _ ⟨⟩
    exact doSomething_counts rfl
  | scanned answer running =>
    refine ⟨safe, ?_⟩
    rintro _ ⟨⟩
  | scannerCall answer running effect =>
    refine ⟨safe, ?_⟩
    rintro _ ⟨⟩
    simp only [PassLog.observer, running]
    exact (counting.scanner _ running).called.2 _ _ ⟨⟨_, effect⟩, rfl⟩

/-- Backpressure counts are exact: whenever a pass of `do_something` returns, its status counts
    every node of the list it has loaded once, none as todo, and `cache_size - done_num` is the
    number of nodes that the pass has not read as done when it last read them. -/
theorem scan_counts_exact (commitNum : Int) (labels : List PartitionLabel) (state : PartitionState)
    (status : PmStatus)
    (ran : (partitionMachine commitNum).run (partitionMachine commitNum).start labels = some state)
    (returned : state.scanner = some (.ret status)) :
    ∃ listed, (passLog commitNum labels).listed = some listed ∧
      Counts (passLog commitNum labels) listed status := by
  have start : Counting (partitionMachine commitNum).start {} := by
    refine ⟨partition_start_safe _, ?_⟩
    intro program running
    cases running
  have preserved : ∀ before log label next, Counting before log →
      (partitionMachine commitNum).step before label = some next →
      Counting next (PassLog.observer before label log) :=
    fun _ _ _ _ counting stepped => counting_step counting stepped
  have counting := Machine.run_invariant_observed preserved start ran
  have counted := counting.scanner _ returned
  exact counted ⟨state.world, counting.safe.wf, passLog commitNum labels⟩ ⟨.refl state.world, rfl⟩

/-- Two messages are delivered, and the first one is finished in the middle of the visit of its
    node, after the load that finds it not todo. -/
def finishedInBetween : List PartitionLabel :=
  .emplaceBack ⟨.todo, 0, "a", ⟨"gzc", 0, 7, "{}"⟩⟩ :: List.replicate 8 (.advance .consumer acceptAll) ++
  .emplaceBack ⟨.todo, 0, "b", ⟨"gzc", 0, 8, "{}"⟩⟩ :: List.replicate 8 (.advance .consumer acceptAll) ++
  .doSomething :: List.replicate 5 (.advance .scanner acceptAll) ++
  .finish 0 :: List.replicate 6 (.advance .scanner acceptAll)

theorem scan_counts_exact_inBetween :
    ∃ state status,
      (partitionMachine 1).run (partitionMachine 1).start finishedInBetween = some state ∧
      state.scanner = some (.ret status) ∧ status.doingNum = 1 ∧ status.doneNum = 1 ∧
      ∃ listed, (passLog 1 finishedInBetween).listed = some listed ∧
        Counts (passLog 1 finishedInBetween) listed status :=
  ⟨_, _, rfl, rfl, rfl, rfl, scan_counts_exact 1 finishedInBetween _ _ rfl rfl⟩

end XBusiness.Consumer
