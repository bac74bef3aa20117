import Mathlib.Data.List.TakeWhile
import XBusiness.Consumer.CommitSafety

/-! # One pass of `do_something` over settled nodes

Where every listed node is doing or done and stays as it is while the pass runs,
the pass is a function of the list: it finds the longest prefix of done nodes,
commits the last of them when the prefix is the whole list or reaches the
configured batch, and erases exactly that prefix.

* `Partition.donePrefix` — the prefix, said without the scan.
* `Progress` / `scanNodes_finds` — the invariant of the scanning loop, and what its locals are
  when it ends: the flag, the position and the look-back iterator agree with the prefix.
* `Passed` — what a pass leaves.
* `doSomething_commits_finished` — every pass that comes to its end leaves that, and a pass that
  finds the mutex free comes to its end.
-/

namespace XBusiness.Consumer

open Interaction
open Prog (perform)

namespace Partition

/-- The longest prefix of the list whose nodes are all done. -/
def donePrefix (world : Partition) : List Nat :=
  world.listData.takeWhile fun node => world.stateAt node = some .done

/-- Every listed node is doing or done. -/
def Settled (world : Partition) : Prop :=
  ∀ node ∈ world.listData, world.stateAt node = some .doing ∨ world.stateAt node = some .done

/-- The prefix is the whole of a list that is not empty, or reaches the batch. -/
def Ready (commitNum : Int) (world : Partition) : Prop :=
  (0 < world.listData.length ∧ world.donePrefix.length = world.listData.length) ∨
    max commitNum 1 ≤ world.donePrefix.length

/-- The list is empty, or its done prefix is short of the batch. -/
def Short (commitNum : Int) (world : Partition) : Prop :=
  world.listData = [] ∨ (world.donePrefix.length : Int) < max commitNum 1

instance (world : Partition) : Decidable world.Settled :=
  inferInstanceAs (Decidable (∀ node ∈ world.listData, _))

/-! ## The prefix of a split list -/

theorem donePrefix_isPrefix (world : Partition) : world.donePrefix <+: world.listData :=
  List.takeWhile_prefix _

theorem donePrefix_eq_take (world : Partition) :
    world.donePrefix = world.listData.take world.donePrefix.length :=
  List.prefix_iff_eq_take.mp world.donePrefix_isPrefix

/-- The prefix ends before the first node that is not done. -/
theorem donePrefix_of_notDone {world : Partition} {seen rest : List Nat} {it : Nat}
    (split : world.listData = seen ++ it :: rest)
    (done : ∀ node ∈ seen, world.stateAt node = some .done)
    (notDone : world.stateAt it ≠ some .done) : world.donePrefix = seen := by
  rw [donePrefix, split, List.takeWhile_append_of_pos (by simpa using done),
    List.takeWhile_cons_of_neg (by simpa using notDone), List.append_nil]

theorem donePrefix_of_all {world : Partition}
    (done : ∀ node ∈ world.listData, world.stateAt node = some .done) :
    world.donePrefix = world.listData :=
  List.takeWhile_eq_self_iff.mpr (by simpa using done)

/-- Behind a longest prefix the longest prefix is empty. -/
theorem takeWhile_drop_takeWhile (p : Nat → Bool) (list : List Nat) :
    (list.drop (list.takeWhile p).length).takeWhile p = [] := by
  induction list with
  | nil => rfl
  | cons head rest inductionHypothesis =>
    by_cases holds : p head
    · simpa [holds] using inductionHypothesis
    · simp [holds]

theorem takeWhile_eq_of_agree {p q : Nat → Bool} {list : List Nat}
    (agree : ∀ node ∈ list, p node = q node) : list.takeWhile p = list.takeWhile q := by
  induction list with
  | nil => rfl
  | cons head rest inductionHypothesis =>
    simp only [List.takeWhile_cons, agree head (by simp)]
    rw [inductionHypothesis fun node listed => agree node (by simp [listed])]

end Partition

/-! ## The contract of a pass -/

/-- Nothing that a pass looks at has changed. -/
structure Unmoved (world later : Partition) : Prop where
  listData : later.listData = world.listData
  states : ∀ node ∈ world.listData, later.stateAt node = world.stateAt node
  commits : later.commits = world.commits

theorem Unmoved.refl (world : Partition) : Unmoved world world := ⟨rfl, fun _ _ => rfl, rfl⟩

theorem Unmoved.trans {first second third : Partition} (left : Unmoved first second)
    (right : Unmoved second third) : Unmoved first third where
  listData := right.listData.trans left.listData
  states node listed := by
    have := right.states node (by rw [left.listData]; exact listed)
    rw [this, left.states node listed]
  commits := right.commits.trans left.commits

theorem Unmoved.settled {world later : Partition} (unmoved : Unmoved world later)
    (settled : world.Settled) : later.Settled := by
  intro node listed
  rw [unmoved.listData] at listed
  rw [unmoved.states node listed]
  exact settled node listed

/-- What a pass may count on. `undisturbed` says that no other thread moves at all; then the
    pass has to find the mutex free. -/
def passContract (undisturbed : Prop) : Contract Partition PartitionCall PartitionCall.Answer where
  rely world later := Unmoved world later ∧ (undisturbed → later = world)
  allowed world
    | .lock => undisturbed → world.mutex = none
    | .loadState node => ∃ state, world.stateAt node = some state
    | _ => True
  effect world request answer after := ∃ given, world.exec .scanner request given = some (answer, after)
  rely_refl world := ⟨.refl world, fun _ => rfl⟩
  rely_trans left right :=
    ⟨left.1.trans right.1, fun alone => (right.2 alone).trans (left.2 alone)⟩

abbrev PassSafe {α : Type} (undisturbed : Prop) (post : Partition → α → Prop)
    (program : PartitionProg α) (world : Partition) : Prop :=
  program.Safe (passContract undisturbed) (fun _ => False) post world

section Scan

variable {undisturbed : Prop} {origin : Partition}

/-- A load of the state of a listed node. -/
theorem loadListed_safe {α : Type} {post : Partition → α → Prop} {node : Nat}
    {next : NodeState → PartitionProg α} {world : Partition} (settled : origin.Settled)
    (listed : node ∈ origin.listData) (unmoved : Unmoved origin world)
    (rest : ∀ later state, Unmoved origin later → origin.stateAt node = some state →
      state ≠ .todo → PassSafe undisturbed post (next state) later) :
    PassSafe undisturbed post (perform (.loadState node) >>= next) world := by
  apply Prog.Safe.perform
  intro later relied
  have unmoved := unmoved.trans relied.1
  have same := unmoved.states node listed
  have known : ∃ state, origin.stateAt node = some state ∧ state ≠ .todo := by
    cases settled node listed with
    | inl doing => exact ⟨.doing, doing, by decide⟩
    | inr done => exact ⟨.done, done, by decide⟩
  obtain ⟨state, stateEq, notTodo⟩ := known
  refine ⟨⟨state, by rw [same, stateEq]⟩, ?_⟩
  rintro answer after ⟨_, effect⟩
  obtain ⟨known, rfl⟩ := Partition.exec_loadState.mp effect
  obtain rfl : state = answer := Option.some.inj (stateEq.symm.trans (same.symm.trans known))
  exact rest later state unmoved stateEq notTodo

/-- A value that is returned while the list stays as it is. -/
theorem ret_unmoved {α : Type} {value : α} {fact : α → Prop} {world : Partition}
    (unmoved : Unmoved origin world) (holds : fact value) :
    PassSafe undisturbed (fun later value => Unmoved origin later ∧ fact value) (.ret value) world :=
  fun _ relied => ⟨unmoved.trans relied.1, holds⟩

/-! ## The scanning loop -/

/-- The locals agree with the prefix. -/
structure Found (origin : Partition) (scan : Scan) : Prop where
  position : scan.firstNotDonePos = origin.donePrefix.length
  force : scan.forceCommit = true ↔
    0 < origin.listData.length ∧ origin.donePrefix.length = origin.listData.length
  kmsg : scan.kmsg = origin.donePrefix.getLast?

/-- What the locals say when the nodes `tested` have passed the prefix test and `rest` have not:
    the flag is up as long as no end of the prefix was seen, and once it is down they agree with
    the prefix for good.  With no node left the flag is only up for an empty list. -/
structure Progress (origin : Partition) (tested rest : List Nat) (scan : Scan) : Prop where
  found : scan.isFirst = false → Found origin scan
  searching : scan.isFirst = true → scan.firstNotDonePos = 0 ∧ scan.forceCommit = false ∧
    scan.kmsg = none ∧ (∀ node ∈ tested, origin.stateAt node = some .done) ∧ (rest = [] → tested = [])

theorem testPrefix_finds {world : Partition} {seen rest : List Nat} {it : Nat} {scan : Scan}
    (settled : origin.Settled) (split : origin.listData = seen ++ it :: rest)
    (pos : scan.pos = seen.length) (unmoved : Unmoved origin world)
    (progress : Progress origin seen (it :: rest) scan) :
    PassSafe undisturbed
      (fun later scan' => Unmoved origin later ∧
        scan'.pos = scan.pos ∧ scan'.status = scan.status ∧ Progress origin (seen ++ [it]) rest scan')
      (testPrefix origin.listData.length seen.getLast? it scan) world := by
  unfold testPrefix
  split
  case isFalse notFirst =>
    apply ret_unmoved unmoved
    have down : scan.isFirst = false := by simpa using notFirst
    refine ⟨rfl, rfl, progress.found, ?_⟩
    intro up
    simp [down] at up
  case isTrue isFirst =>
    obtain ⟨zero, notForced, noKmsg, seenDone, -⟩ := progress.searching isFirst
    refine loadListed_safe settled (by rw [split]; simp) unmoved fun later state unmoved stateEq _ => ?_
    split
    case isTrue notDone =>
      -- the prefix ends here; position 0 with no message also stands for an empty prefix
      have prefixEq : origin.donePrefix = seen :=
        Partition.donePrefix_of_notDone split seenDone (by rw [stateEq]; simpa using notDone)
      have shorter : seen.length ≠ origin.listData.length := by
        rw [split]
        simp
      cases last : seen.getLast? with
      | none =>
        have seenNil : seen = [] := List.getLast?_eq_none_iff.mp last
        apply ret_unmoved unmoved
        refine ⟨rfl, rfl, ?_, by simp⟩
        intro _
        refine ⟨?_, ?_, ?_⟩
        · simp [prefixEq, zero, seenNil]
        · rw [prefixEq]
          simp [notForced, shorter]
        · simp [prefixEq, noKmsg, last]
      | some itTmp =>
        apply ret_unmoved unmoved
        refine ⟨rfl, rfl, ?_, by simp⟩
        intro _
        refine ⟨?_, ?_, ?_⟩
        · simp [prefixEq, pos]
        · rw [prefixEq]
          simp [notForced, shorter]
        · simp [prefixEq, last]
    case isFalse done =>
      have itDone : origin.stateAt it = some .done := by rw [stateEq, not_not.mp done]
      have testedDone : ∀ node ∈ seen ++ [it], origin.stateAt node = some .done := by
        intro node mem
        cases List.mem_append.mp mem with
        | inl mem => exact seenDone node mem
        | inr mem => rw [List.mem_singleton.mp mem]; exact itDone
      split
      case isTrue atEnd =>
        -- the last node is done too, so the prefix is the whole list
        have restNil : rest = [] := by
          apply List.eq_nil_of_length_eq_zero
          simp only [pos, split, List.length_append, List.length_cons] at atEnd
          omega
        have whole : origin.listData = seen ++ [it] := by rw [split, restNil]
        have prefixEq : origin.donePrefix = seen ++ [it] := by
          rw [Partition.donePrefix_of_all (by rw [whole]; exact testedDone), whole]
        apply ret_unmoved unmoved
        refine ⟨rfl, rfl, ?_, by simp⟩
        intro _
        refine ⟨?_, ?_, ?_⟩
        · simp [prefixEq, pos]
        · simp [prefixEq, whole]
        · simp [prefixEq]
      case isFalse notEnd =>
        apply ret_unmoved unmoved
        refine ⟨rfl, rfl, ?_, ?_⟩
        · intro down
          rw [isFirst] at down
          cases down
        · intro _
          refine ⟨zero, notForced, noKmsg, testedDone, ?_⟩
          intro restNil
          refine absurd ?_ notEnd
          rw [pos, split, restNil]
          simp

/-- A settled node is not handed out again. -/
theorem settled_processTodo_safe {world : Partition} {it : Nat} (settled : origin.Settled)
    (listed : it ∈ origin.listData) (unmoved : Unmoved origin world) :
    PassSafe undisturbed (fun later processed => Unmoved origin later ∧ processed = false)
      (processTodo (nodeOps it)) world := by
  apply loadListed_safe settled listed unmoved
  intro later state unmoved _ notTodo
  rw [if_neg notTodo]
  exact ret_unmoved unmoved rfl

theorem countState_unmoved {world : Partition} {it : Nat} (status : PmStatus)
    (settled : origin.Settled) (listed : it ∈ origin.listData) (unmoved : Unmoved origin world) :
    PassSafe undisturbed
      (fun later counted => Unmoved origin later ∧ counted.commitNum = status.commitNum)
      (countState it status) world := by
  apply loadListed_safe settled listed unmoved
  intro first _ unmoved _ notTodo
  rw [if_neg notTodo]
  apply loadListed_safe settled listed unmoved
  intro second _ unmoved _ _
  split
  · exact ret_unmoved unmoved rfl
  apply loadListed_safe settled listed unmoved
  intro third _ unmoved _ _
  split
  · exact ret_unmoved unmoved rfl
  · exact ret_unmoved unmoved rfl

theorem scanNode_finds {world : Partition} {seen rest : List Nat} {it : Nat} {scan : Scan}
    (settled : origin.Settled) (split : origin.listData = seen ++ it :: rest)
    (pos : scan.pos = seen.length) (unmoved : Unmoved origin world)
    (progress : Progress origin seen (it :: rest) scan) :
    PassSafe undisturbed
      (fun later scan' => Unmoved origin later ∧ scan'.pos = (seen ++ [it]).length ∧
        scan'.status.commitNum = scan.status.commitNum ∧ Progress origin (seen ++ [it]) rest scan')
      (scanNode origin.listData.length seen.getLast? it scan) world := by
  have listed : it ∈ origin.listData := by rw [split]; simp
  apply Prog.Safe.bind
  apply (testPrefix_finds settled split pos unmoved progress).mono
  rintro tested scan' ⟨unmoved, samePos, sameStatus, progress⟩
  apply Prog.Safe.bind
  apply (settled_processTodo_safe settled listed unmoved).mono
  rintro processed _ ⟨unmoved, -⟩
  apply Prog.Safe.bind
  apply (countState_unmoved scan'.status settled listed unmoved).mono
  rintro counted status ⟨unmoved, sameCommit⟩
  apply ret_unmoved unmoved
  refine ⟨by simp [samePos, pos], by rw [sameCommit, sameStatus], ?_⟩
  exact ⟨fun down => ⟨(progress.found down).position, (progress.found down).force,
    (progress.found down).kmsg⟩, progress.searching⟩

/-- The loop, by induction on the nodes still to visit. -/
theorem scanNodes_finds {world : Partition} {seen rest : List Nat} {scan : Scan}
    (settled : origin.Settled) (split : origin.listData = seen ++ rest)
    (pos : scan.pos = seen.length) (unmoved : Unmoved origin world)
    (progress : Progress origin seen rest scan) :
    PassSafe undisturbed
      (fun later scan' => Unmoved origin later ∧
        scan'.status.commitNum = scan.status.commitNum ∧ Found origin scan')
      (scanNodes origin.listData.length seen.getLast? rest scan) world := by
  induction rest generalizing seen scan world with
  | nil =>
    apply ret_unmoved unmoved
    refine ⟨rfl, ?_⟩
    cases flag : scan.isFirst with
    | false => exact progress.found flag
    | true =>
      -- the loop body never ran
      obtain ⟨zero, notForced, noKmsg, -, emptyTested⟩ := progress.searching flag
      have empty : origin.listData = [] := by rw [split, emptyTested rfl]; rfl
      have prefixEq : origin.donePrefix = [] := by simp [Partition.donePrefix, empty]
      refine ⟨?_, ?_, ?_⟩
      · simp [prefixEq, zero]
      · simp [notForced, empty]
      · simp [prefixEq, noKmsg]
  | cons it rest inductionHypothesis =>
    apply Prog.Safe.bind
    apply (scanNode_finds settled split pos unmoved progress).mono
    rintro later scan' ⟨unmoved, pos', sameCommit, progress⟩
    have next := inductionHypothesis (by simp [split]) pos' unmoved progress
    rw [List.getLast?_concat] at next
    apply next.mono
    rintro last final ⟨unmoved, sameCommit', found⟩
    exact ⟨unmoved, sameCommit'.trans sameCommit, found⟩

/-! ## The commit and the removal -/

/-- What a pass leaves of the partition it started from. -/
structure Passed (commitNum : Int) (before after : Partition) (status : PmStatus) : Prop where
  committed : before.Ready commitNum → ∃ node result,
    before.listData[before.donePrefix.length - 1]? = some node ∧
      after.commits = before.commits ++ [(node, result)] ∧
      after.listData = before.listData.drop before.donePrefix.length ∧
      status.commitNum = before.donePrefix.length
  kept : ¬ before.Ready commitNum →
    after.commits = before.commits ∧ after.listData = before.listData ∧ status.commitNum = 0
  states : ∀ node ∈ after.listData, after.stateAt node = before.stateAt node

theorem Passed.short {commitNum : Int} {before after : Partition} {status : PmStatus}
    (passed : Passed commitNum before after status) : after.Short commitNum := by
  have sameStates : ∀ list : List Nat, after.listData = list →
      after.donePrefix = list.takeWhile fun node => before.stateAt node = some .done := by
    rintro list rfl
    apply Partition.takeWhile_eq_of_agree
    intro node listed
    rw [passed.states node listed]
  by_cases ready : before.Ready commitNum
  · obtain ⟨node, result, -, -, dropped, -⟩ := passed.committed ready
    right
    rw [sameStates _ dropped, Partition.donePrefix, Partition.takeWhile_drop_takeWhile]
    simp only [List.length_nil]
    omega
  · obtain ⟨-, same, -⟩ := passed.kept ready
    have short : ¬ max commitNum 1 ≤ (before.donePrefix.length : Int) := fun long => ready (.inr long)
    right
    rw [sameStates _ same]
    exact Int.not_le.mp short

theorem floorCommitNum_eq_max (commitNum : Int) : floorCommitNum commitNum = max commitNum 1 := by
  unfold floorCommitNum
  split <;> omega

/-- The calls of `remove_from_head`, from a world that nobody else moves. -/
theorem removeFromHead_drops {world : Partition} {num : Nat} (free : undisturbed → world.mutex = none) :
    PassSafe undisturbed
      (fun later _ => later.listData = world.listData.drop num ∧ later.commits = world.commits ∧
        ∀ node ∈ later.listData, later.stateAt node = world.stateAt node)
      (removeFromHead num) world := by
  apply Prog.Safe.perform
  rintro waiting ⟨toLock, stillLock⟩
  refine ⟨fun alone => by rw [stillLock alone]; exact free alone, ?_⟩
  rintro _ locked ⟨_, effect⟩
  obtain ⟨-, lockedEq⟩ := Partition.exec_lock.mp effect
  apply Prog.Safe.perform
  rintro reading ⟨toLoad, -⟩
  refine ⟨trivial, ?_⟩
  rintro listData read ⟨_, effect⟩
  obtain ⟨rfl, rfl⟩ := Partition.exec_loadList.mp effect
  -- nothing moved between the lock and the load of the list
  have unmoved : Unmoved world reading := by
    rw [← lockedEq] at toLoad
    exact toLock.trans ⟨toLoad.listData, toLoad.states, toLoad.commits⟩
  apply Prog.Safe.perform
  rintro storing ⟨toStore, -⟩
  refine ⟨trivial, ?_⟩
  rintro _ stored ⟨_, effect⟩
  rw [Partition.exec_storeList] at effect
  have unmovedStoring := unmoved.trans toStore
  apply Prog.Safe.perform
  rintro leaving ⟨toUnlock, -⟩
  refine ⟨trivial, ?_⟩
  rintro _ left ⟨_, effect'⟩
  rw [Partition.exec_unlock] at effect'
  rintro last ⟨toLast, -⟩
  -- nor between the store of the shorter list and the return
  have toEnd : Unmoved stored last := by
    rw [← effect'] at toLast
    exact toUnlock.trans ⟨toLast.listData, toLast.states, toLast.commits⟩
  have storedList : stored.listData = world.listData.drop num := by
    rw [← effect, eraseHead_eq_drop, unmoved.listData]
  refine ⟨toEnd.listData.trans storedList, ?_, ?_⟩
  · rw [toEnd.commits, ← effect]
    exact unmovedStoring.commits
  · intro node listed
    rw [toEnd.listData] at listed
    rw [toEnd.states node listed]
    have behind : node ∈ world.listData := by
      rw [storedList] at listed
      exact List.mem_of_mem_drop listed
    rw [← unmovedStoring.states node behind, ← effect]
    rfl

theorem Found.ready_iff {scan : Scan} (found : Found origin scan) (commitNum : Int) :
    (scan.forceCommit || decide (floorCommitNum commitNum ≤ scan.firstNotDonePos)) = true ↔
      origin.Ready commitNum := by
  rw [Bool.or_eq_true, found.force, decide_eq_true_eq, found.position, floorCommitNum_eq_max]
  rfl

/-- A ready list has a message to commit: the last of its done prefix. -/
theorem Partition.Ready.last {commitNum : Int} (ready : origin.Ready commitNum) :
    ∃ node, origin.donePrefix.getLast? = some node ∧
      origin.listData[origin.donePrefix.length - 1]? = some node := by
  have positive : 0 < origin.donePrefix.length := by
    unfold Partition.Ready at ready
    omega
  have bound : origin.donePrefix.length - 1 < origin.donePrefix.length := by omega
  have last : origin.donePrefix.getLast? = some origin.donePrefix[origin.donePrefix.length - 1] := by
    rw [List.getLast?_eq_getElem?, List.getElem?_eq_getElem bound]
  refine ⟨_, last, ?_⟩
  calc origin.listData[origin.donePrefix.length - 1]?
      = (origin.listData.take origin.donePrefix.length)[origin.donePrefix.length - 1]? :=
        (List.getElem?_take_of_lt bound).symm
    _ = origin.donePrefix[origin.donePrefix.length - 1]? := by rw [← Partition.donePrefix_eq_take]
    _ = _ := List.getElem?_eq_getElem bound

theorem commitScanned_passes {world : Partition} {commitNum : Int} {scan : Scan}
    (unmoved : Unmoved origin world) (found : Found origin scan) (noCommit : scan.status.commitNum = 0)
    (free : undisturbed → world.mutex = none) :
    PassSafe undisturbed (fun later status => Passed commitNum origin later status)
      (commitScanned (floorCommitNum commitNum) scan) world := by
  unfold commitScanned
  by_cases ready : origin.Ready commitNum
  · rw [if_pos ((found.ready_iff commitNum).mpr ready)]
    -- the commit of the last node of the done prefix, and the removal of the prefix
    obtain ⟨node, last, listed⟩ := ready.last
    apply Prog.Safe.perform
    rintro waiting ⟨toCommit, stillWaiting⟩
    refine ⟨trivial, ?_⟩
    rintro result committed ⟨given, effect⟩
    have unmovedWaiting := unmoved.trans toCommit
    rw [found.kmsg, last] at effect
    obtain ⟨-, committedEq⟩ := Partition.exec_commitSync.mp effect
    simp only [Partition.logCommit] at committedEq
    apply Prog.Safe.bind
    apply (removeFromHead_drops (by
      intro alone
      rw [← committedEq]
      simp only [stillWaiting alone, free alone])).mono
    rintro removed _ ⟨dropped, commits, states⟩ later ⟨relied, -⟩
    have sameStates : ∀ node, committed.stateAt node = waiting.stateAt node := by
      intro node
      rw [← committedEq]
      rfl
    have committedList : committed.listData = origin.listData := by
      rw [← committedEq]
      exact unmovedWaiting.listData
    refine ⟨fun _ => ⟨node, given, listed, ?_, ?_, ?_⟩, fun notReady => absurd ready notReady, ?_⟩
    · rw [relied.commits, commits, ← committedEq, ← unmovedWaiting.commits]
    · rw [relied.listData, dropped, committedList, found.position]
    · exact found.position
    · intro node behind
      rw [relied.listData] at behind
      rw [relied.states node behind, states node behind, sameStates]
      apply unmovedWaiting.states
      rw [dropped, committedList] at behind
      exact List.mem_of_mem_drop behind
  · -- too short a prefix and no force: no call at all
    rw [if_neg (by rw [found.ready_iff]; exact ready)]
    rintro later ⟨relied, -⟩
    have unmoved := unmoved.trans relied
    refine ⟨fun isReady => absurd isReady ready, fun _ => ⟨unmoved.commits, unmoved.listData, noCommit⟩, ?_⟩
    intro node behind
    rw [unmoved.listData] at behind
    exact unmoved.states node behind

theorem doSomething_passes {commitNum : Int} (settled : origin.Settled)
    (free : undisturbed → origin.mutex = none) :
    PassSafe undisturbed (fun later status => Passed commitNum origin later status)
      (doSomething (floorCommitNum commitNum)) origin := by
  apply Prog.Safe.perform
  rintro waiting ⟨toLock, stillLock⟩
  refine ⟨fun alone => by rw [stillLock alone]; exact free alone, ?_⟩
  rintro _ locked ⟨_, effect⟩
  obtain ⟨-, lockedEq⟩ := Partition.exec_lock.mp effect
  apply Prog.Safe.perform
  rintro reading ⟨toLoad, -⟩
  refine ⟨trivial, ?_⟩
  rintro listData read ⟨_, effect⟩
  obtain ⟨rfl, rfl⟩ := Partition.exec_loadList.mp effect
  -- the scan starts from the list and the states of the start
  have unmoved : Unmoved origin reading := by
    rw [← lockedEq] at toLoad
    exact toLock.trans ⟨toLoad.listData, toLoad.states, toLoad.commits⟩
  rw [unmoved.listData]
  apply Prog.Safe.bind
  have whole : origin.listData = [] ++ origin.listData := rfl
  apply (scanNodes_finds settled whole rfl unmoved ⟨by simp, by simp⟩).mono
  rintro scanned scan ⟨unmoved, noCommit, found⟩
  apply Prog.Safe.perform
  rintro leaving ⟨toUnlock, -⟩
  refine ⟨trivial, ?_⟩
  rintro _ left ⟨_, effect⟩
  rw [Partition.exec_unlock] at effect
  -- the list is unlocked before the commit
  have unmovedLeft : Unmoved origin left := by
    rw [← effect]
    have := unmoved.trans toUnlock
    exact ⟨this.listData, this.states, this.commits⟩
  exact commitScanned_passes unmovedLeft found noCommit fun _ => by rw [← effect]

end Scan

/-! ## Runs with a pass -/

/-- While the pass runs the other threads leave the list, the states of the listed nodes and the
    commits as they are. -/
def Undisturbed (commitNum : Int) (state : PartitionState) : PartitionLabel → Prop
  | .advance .scanner _ => True
  | .doSomething => False
  | label => ∀ next, state.step commitNum label = some next → Unmoved state.world next.world

/-- The pass that is running keeps its contract and will leave what a pass over `origin` leaves. -/
def PassRunning (commitNum : Int) (origin : Partition) (state : PartitionState) : Prop :=
  ∀ program, state.scanner = some program →
    PassSafe False (fun later status => Passed commitNum origin later status) program state.world

theorem pass_step {commitNum : Int} {origin : Partition} {state next : PartitionState}
    {label : PartitionLabel} (safe : PassRunning commitNum origin state)
    (undisturbed : Undisturbed commitNum state label) (stepped : state.step commitNum label = some next) :
    PassRunning commitNum origin next := by
  have others (sameScanner : next.scanner = state.scanner) (unmoved : Unmoved state.world next.world) :
      PassRunning commitNum origin next := by
    intro program running
    rw [sameScanner] at running
    exact (safe program running).stable ⟨unmoved, False.elim⟩
  cases partitionStep_of_step stepped with
  | doSomething idle => exact undisturbed.elim
  | emplaceBack data idle => exact others rfl (undisturbed _ stepped)
  | finish node => exact others rfl (undisturbed _ stepped)
  | emplaced answer running => exact others rfl (undisturbed _ stepped)
  | consumerCall answer running effect => exact others rfl (undisturbed _ stepped)
  | scanned answer running =>
    intro program impossible
    cases impossible
  | scannerCall answer running effect =>
    rintro _ ⟨⟩
    exact (safe _ running).called.2 _ _ ⟨_, effect⟩

/-- A pass that nobody disturbs makes call after call until it returns. -/
theorem pass_returns {commitNum : Int} {post : Partition → PmStatus → Prop}
    (answer : ∀ request : PartitionCall, request.Answer) {program : PartitionProg PmStatus}
    {state : PartitionState} (running : state.scanner = some program)
    (safe : PassSafe True post program state.world) :
    ∃ count final status,
      (partitionMachine commitNum).run state (List.replicate count (.advance .scanner answer)) = some final ∧
        final.scanner = some (.ret status) ∧ post final.world status := by
  induction program generalizing state with
  | ret status => exact ⟨0, state, status, rfl, running, safe _ ⟨.refl _, fun _ => rfl⟩⟩
  | raise fault => exact fault.elim
  | call request next inductionHypothesis =>
    obtain ⟨allowed, effects⟩ := safe.called
    -- each call of a safe pass can be made: the lock is free, and the node whose state is loaded exists
    have enabled : ∃ given after,
        state.world.exec .scanner request (answer request) = some (given, after) := by
      cases request with
      | lock => exact ⟨(), _, if_pos (allowed trivial)⟩
      | loadState node =>
        obtain ⟨known, stateEq⟩ := allowed
        exact ⟨known, state.world, by simp [Partition.exec, stateEq]⟩
      | unlock => exact ⟨_, _, rfl⟩
      | pushBack _ => exact ⟨_, _, rfl⟩
      | loadList => exact ⟨_, _, rfl⟩
      | storeList _ => exact ⟨_, _, rfl⟩
      | storeState _ _ => exact ⟨_, _, rfl⟩
      | storeTime _ => exact ⟨_, _, rfl⟩
      | handle _ => exact ⟨_, _, rfl⟩
      | commitSync _ => exact ⟨_, _, rfl⟩
    obtain ⟨given, after, effect⟩ := enabled
    have stepped : (partitionMachine commitNum).step state (.advance .scanner answer) =
        some { state with world := after, scanner := some (next given) } := by
      simp [partitionMachine, PartitionState.step, running, advanceProg, effect]
    have continuing : ({ state with world := after, scanner := some (next given) } :
        PartitionState).scanner = some (next given) := rfl
    obtain ⟨count, final, status, ran, returned, holds⟩ :=
      inductionHypothesis given continuing (effects given after ⟨_, effect⟩)
    refine ⟨count + 1, final, status, ?_, returned, holds⟩
    rw [List.replicate_succ, Machine.run_cons, stepped]
    exact ran

/-- `do_something` commits the maximal done prefix: however a pass over settled nodes is
    interleaved with steps that leave those nodes alone, what it leaves when it returns is
    `Passed`, and its list is short of the batch; and it does return. -/
theorem doSomething_commits_finished (commitNum : Int) (state : PartitionState)
    (starting : state.scanner = some (doSomething (floorCommitNum commitNum)))
    (settled : state.world.Settled) :
    (∀ labels final status, (partitionMachine commitNum).run state labels = some final →
      (partitionMachine commitNum).Meets (Undisturbed commitNum) state labels →
      final.scanner = some (.ret status) →
        Passed commitNum state.world final.world status ∧ final.world.Short commitNum) ∧
    (state.world.mutex = none → ∀ answer, ∃ count final status,
      (partitionMachine commitNum).run state (List.replicate count (.advance .scanner answer)) = some final ∧
        final.scanner = some (.ret status) ∧
        Passed commitNum state.world final.world status ∧ final.world.Short commitNum) := by
  constructor
  · intro labels final status ran undisturbed returned
    have startSafe : PassRunning commitNum state.world state := by
      intro program running
      rw [starting] at running
      cases running
      exact doSomething_passes settled False.elim
    have preserved : ∀ before label next, PassRunning commitNum state.world before →
        Undisturbed commitNum before label → (partitionMachine commitNum).step before label = some next →
        PassRunning commitNum state.world next :=
      fun _ _ _ safe meets stepped => pass_step safe meets stepped
    have safe := Machine.run_invariant_of_meets preserved startSafe undisturbed ran
    have passed := safe _ returned final.world ⟨.refl _, fun _ => rfl⟩
    exact ⟨passed, passed.short⟩
  · intro free answer
    have safe : PassSafe True (fun later status => Passed commitNum state.world later status)
        (doSomething (floorCommitNum commitNum)) state.world := doSomething_passes settled fun _ => free
    obtain ⟨count, final, status, ran, returned, passed⟩ := pass_returns answer starting safe
    exact ⟨count, final, status, ran, returned, passed, passed.short⟩

/-- Three messages, the first two of them finished. -/
def twoOfThreeFinished : PartitionState where
  world :=
    { nodes := [⟨.done, 0, "a", ⟨"gzc", 0, 7, "{}"⟩⟩, ⟨.done, 0, "b", ⟨"gzc", 0, 8, "{}"⟩⟩,
        ⟨.doing, 0, "c", ⟨"gzc", 0, 9, "{}"⟩⟩]
      listData := [0, 1, 2] }
  scanner := some (doSomething (floorCommitNum 0))

/-- The pass over them, with a worker that finishes a message again. -/
def passOverThree : List PartitionLabel :=
  .finish 0 :: List.replicate 22 (.advance .scanner acceptAll)

theorem meets_undisturbed_alone {commitNum : Int} {state : PartitionState} (count : Nat)
    (answer : ∀ request : PartitionCall, request.Answer) :
    (partitionMachine commitNum).Meets (Undisturbed commitNum) state
      (List.replicate count (.advance .scanner answer)) := by
  induction count generalizing state with
  | zero => trivial
  | succ count inductionHypothesis => exact ⟨trivial, fun _ _ => inductionHypothesis⟩

theorem doSomething_commits_finished_twoOfThree :
    ∃ final status, (partitionMachine 0).run twoOfThreeFinished passOverThree = some final ∧
      final.scanner = some (.ret status) ∧ final.world.listData = [2] ∧
      final.world.commits = [(1, true)] ∧
      Passed 0 twoOfThreeFinished.world final.world status ∧ final.world.Short 0 :=
  ⟨_, _, rfl, rfl, rfl, rfl,
    (doSomething_commits_finished 0 twoOfThreeFinished rfl (by decide)).1 passOverThree _ _ rfl ⟨by
      intro next stepped
      cases stepped
      exact ⟨rfl, by decide, rfl⟩, fun _ _ => meets_undisturbed_alone 22 acceptAll⟩ rfl⟩

end XBusiness.Consumer
