import XBusiness.Json.Value
import XBusiness.Consumer.CommitSafety

/-! # `CConsumeProcess` and the commits of its partitions

`process` reads the message id and hands the message to the manager of its partition
number.  `consumerMachine` is one consumer process: the Kafka thread delivers messages of
the subscribed topics, with increasing offsets in each topic-partition, and every manager
runs as in `partitionMachine`.

* `Covered` — every message that has left a cache is covered by a successful commit of its
  own topic and partition.
* `removed_covered` — it holds along every run in which each commit succeeds and takes
  nodes of one topic only.
* `removed_not_covered` — two topics that share a partition number break it.
-/

namespace XBusiness.Consumer

open Interaction

/-! ## `process` -/

/-- The part of `CConsumeProcess::process` inside the `try` block: no node for a payload that
    does not parse, or whose message id does not convert to a string. -/
def readMessage (text : JsonText) (msg : Message) : Option PmData :=
  match text.reader msg.payload with
  | .ok (some root) =>
    match root.member "msg_id" >>= text.asString with
    | .ok msgId => some { msgId := msgId, msg := msg }
    | .error _ => none
  | _ => none

theorem readMessage_msg {text : JsonText} {msg : Message} {data : PmData}
    (read : readMessage text msg = some data) : data.msg = msg := by
  simp only [readMessage] at read
  split at read
  · split at read
    · cases read; rfl
    · cases read
  · cases read

/-- `boost::split` with one separator. -/
def boostSplit (separator : Char) : List Char → List (List Char)
  | [] => [[]]
  | char :: rest =>
    if char = separator then [] :: boostSplit separator rest
    else
      match boostSplit separator rest with
      | [] => [[char]]
      | word :: words => (char :: word) :: words

/-- The topics that `CConsumeProcess::Init` subscribes to. -/
def subscribedTopics (strTopics : String) : List String :=
  (boostSplit ',' strTopics.toList).map String.ofList

/-! ## Runs of one consumer process -/

/-- A manager that has not been created yet is one without messages. -/
structure ConsumerState where
  managers : Int → PartitionState := fun _ => {}
  received : List Message := []

inductive ConsumerLabel where
  | process (msg : Message)
  | manager (partition : Int) (label : PartitionLabel)

/-- Kafka delivers the messages of a topic-partition in the order of their offsets. -/
def InOrder (received : List Message) (msg : Message) : Prop :=
  ∀ earlier ∈ received, earlier.topic = msg.topic → earlier.partition = msg.partition →
    earlier.offset < msg.offset

instance (received : List Message) (msg : Message) : Decidable (InOrder received msg) :=
  inferInstanceAs (Decidable (∀ earlier ∈ received, _))

namespace ConsumerState

def setManager (state : ConsumerState) (partition : Int) (manager : PartitionState) :
    ConsumerState :=
  { state with managers := Function.update state.managers partition manager }

/-- `CConsumeProcess::process`. -/
def process (text : JsonText) (commitNum : Int) (state : ConsumerState) (msg : Message) :
    Option ConsumerState :=
  let state := { state with received := state.received ++ [msg] }
  match readMessage text msg with
  | none => some state
  | some data =>
    ((state.managers msg.partition).step commitNum (.emplaceBack data)).map
      (state.setManager msg.partition)

def step (text : JsonText) (commitNum : Int) (strTopics : String) (state : ConsumerState) :
    ConsumerLabel → Option ConsumerState
  | .process msg =>
    if msg.topic ∈ subscribedTopics strTopics ∧ InOrder state.received msg then
      state.process text commitNum msg
    else none
  | .manager _ (.emplaceBack _) => none
  | .manager partition label =>
    ((state.managers partition).step commitNum label).map (state.setManager partition)

end ConsumerState

/-- `CConsumeProcess` with its configured `commit_num` and topics. -/
def consumerMachine (text : JsonText) (commitNum : Int) (strTopics : String) :
    Machine ConsumerState ConsumerLabel where
  start := {}
  step := ConsumerState.step text commitNum strTopics

/-! ## Coverage of one manager -/

namespace Partition

/-- The message at a position is covered by a successful commit of its topic-partition. -/
def CoveredAt (world : Partition) (msg : Message) : Prop :=
  ∃ entry ∈ world.commits, entry.2 = true ∧ ∃ committed, world.messages[entry.1]? = some committed ∧
    committed.topic = msg.topic ∧ committed.partition = msg.partition ∧ msg.offset ≤ committed.offset

def Covered (world : Partition) : Prop :=
  ∀ node msg, world.messages[node]? = some msg → node ∉ world.listData → world.CoveredAt msg

/-- All nodes listed up to this one carry its topic. -/
def OneTopicUpTo (world : Partition) (node : Nat) : Prop :=
  ∀ earlier ∈ world.listData, earlier ≤ node →
    world.messages[earlier]?.map Message.topic = world.messages[node]?.map Message.topic

instance (world : Partition) (node : Nat) : Decidable (world.OneTopicUpTo node) :=
  inferInstanceAs (Decidable (∀ earlier ∈ world.listData, _))

@[simp] theorem length_messages (world : Partition) :
    world.messages.length = world.nodes.length := by simp [messages]

theorem CoveredAt.mono {world later : Partition} {msg : Message} (covered : world.CoveredAt msg)
    (messages : world.messages <+: later.messages) (commits : world.commits ⊆ later.commits) :
    later.CoveredAt msg := by
  obtain ⟨entry, mem, succeeded, committed, found, covers⟩ := covered
  obtain ⟨appended, grown⟩ := messages
  have bound := (List.getElem?_eq_some_iff.mp found).1
  refine ⟨entry, commits mem, succeeded, committed, ?_, covers⟩
  rw [← grown, List.getElem?_append_left bound]
  exact found

end Partition

/-- What `process` knows of a message when it reaches the manager of partition `partition`. -/
def AcceptedBy (partition : Int) (received : List Message) (messages : List Message)
    (msg : Message) : Prop :=
  msg.partition = partition ∧ msg ∈ received ∧
    ∀ earlier ∈ messages, earlier.topic = msg.topic → earlier.offset < msg.offset

/-- The invariant of a manager whose commits all succeed and take one topic each. -/
structure CoveringManager (partition : Int) (received : List Message) (manager : PartitionState) :
    Prop where
  safe : manager.Safe (AcceptedBy partition received)
  own : ∀ msg ∈ manager.world.messages, msg.partition = partition ∧ msg ∈ received
  ordered : manager.world.messages.Pairwise fun earlier later =>
    earlier.topic = later.topic → earlier.offset < later.offset
  commits : ∀ entry ∈ manager.world.commits,
    entry.2 = true ∧ manager.world.OneTopicUpTo entry.1
  covered : manager.world.Covered

theorem CoveringManager.start (partition : Int) (received : List Message) :
    CoveringManager partition received {} := by
  refine ⟨partition_start_safe _, ?_, List.Pairwise.nil, ?_, ?_⟩
  · intro msg mem; cases mem
  · intro entry mem; cases mem
  · intro node msg found; cases found

theorem CoveringManager.receive {partition : Int} {received : List Message}
    {manager : PartitionState} (covering : CoveringManager partition received manager)
    (msg : Message) : CoveringManager partition (received ++ [msg]) manager where
  safe := covering.safe.imp fun _ _ accepted =>
    ⟨accepted.1, List.mem_append_left _ accepted.2.1, accepted.2.2⟩
  own earlier mem := ⟨(covering.own earlier mem).1, List.mem_append_left _ (covering.own earlier mem).2⟩
  ordered := covering.ordered
  commits := covering.commits
  covered := covering.covered

/-- Along a list of messages with increasing offsets in each topic, an earlier message of the
    same topic has no larger offset. -/
theorem offset_le_of_le {messages : List Message} {earlier later : Nat} {first second : Message}
    (ordered : messages.Pairwise fun earlier later => earlier.topic = later.topic →
      earlier.offset < later.offset)
    (le : earlier ≤ later) (foundFirst : messages[earlier]? = some first)
    (foundSecond : messages[later]? = some second) (topic : first.topic = second.topic) :
    first.offset ≤ second.offset := by
  obtain ⟨boundFirst, rfl⟩ := List.getElem?_eq_some_iff.mp foundFirst
  obtain ⟨boundSecond, rfl⟩ := List.getElem?_eq_some_iff.mp foundSecond
  rcases Nat.lt_or_eq_of_le le with lt | rfl
  · exact Int.le_of_lt
      (List.pairwise_iff_getElem.mp ordered earlier later boundFirst boundSecond lt topic)
  · exact Int.le_refl _

/-- The guard on the calls of a manager: a commit succeeds, and takes nodes of one topic. -/
def CoveringCommit (manager : PartitionState) : PartitionLabel → Prop
  | .advance .scanner answer =>
    match manager.scanner with
    | some (.call (.commitSync (some node)) _) =>
      answer (.commitSync (some node)) = true ∧ manager.world.OneTopicUpTo node
    | _ => True
  | _ => True

instance (manager : PartitionState) (label : PartitionLabel) :
    Decidable (CoveringCommit manager label) := by
  unfold CoveringCommit
  split
  · split <;> infer_instance
  · infer_instance

section CoveringSteps

variable {partition : Int} {received : List Message} {manager next : PartitionState}

/-- A message at the end: nothing before it changes, and it is behind every message of its topic. -/
theorem CoveringManager.append (covering : CoveringManager partition received manager)
    (safe : next.Safe (AcceptedBy partition received)) {msg : Message}
    (new : AcceptedBy partition received manager.world.messages msg)
    (messages : next.world.messages = manager.world.messages ++ [msg])
    (listData : next.world.listData = manager.world.listData ++ [manager.world.nodes.length])
    (commits : next.world.commits = manager.world.commits) :
    CoveringManager partition received next := by
  have grown : manager.world.messages <+: next.world.messages := by
    rw [messages]; exact List.prefix_append _ _
  refine ⟨safe, ?_, ?_, ?_, ?_⟩
  · rw [messages]
    intro other mem
    rcases List.mem_append.mp mem with old | last
    · exact covering.own other old
    · rw [List.mem_singleton.mp last]
      exact ⟨new.1, new.2.1⟩
  · rw [messages, List.pairwise_append]
    refine ⟨covering.ordered, List.pairwise_singleton _ _, ?_⟩
    intro earlier mem last single
    rw [List.mem_singleton.mp single]
    exact new.2.2 earlier mem
  · rw [commits]
    intro entry mem
    obtain ⟨succeeded, oneTopic⟩ := covering.commits entry mem
    have bound := Partition.lt_of_stateAt (covering.safe.wf.committed entry mem).1
    refine ⟨succeeded, fun earlier listed le => ?_⟩
    rw [listData] at listed
    -- the new node is behind every committed one
    have old : earlier ∈ manager.world.listData := by
      rcases List.mem_append.mp listed with old | last
      · exact old
      · have := List.mem_singleton.mp last
        omega
    have here : ∀ node ≤ entry.1, next.world.messages[node]? = manager.world.messages[node]? := by
      intro node le
      rw [messages, List.getElem?_append_left]
      rw [Partition.length_messages]
      omega
    rw [here earlier le, here entry.1 (Nat.le_refl _)]
    exact oneTopic earlier old le
  · intro node other found gone
    rw [listData, List.mem_append, not_or, List.mem_singleton] at gone
    rw [messages] at found
    have bound : node < manager.world.messages.length := by
      have := (List.getElem?_eq_some_iff.mp found).1
      simp only [List.length_append, List.length_singleton, Partition.length_messages] at this ⊢
      omega
    rw [List.getElem?_append_left bound] at found
    exact (covering.covered node other found gone.1).mono grown (by rw [commits]; exact fun _ => id)

/-- A commit that succeeds, of a node up to which the cache has one topic. -/
theorem CoveringManager.commit (covering : CoveringManager partition received manager)
    (safe : next.Safe (AcceptedBy partition received)) {node : Nat} {result : Bool}
    (succeeded : result = true) (oneTopic : manager.world.OneTopicUpTo node)
    (messages : next.world.messages = manager.world.messages)
    (listData : next.world.listData = manager.world.listData)
    (commits : next.world.commits = manager.world.commits ++ [(node, result)]) :
    CoveringManager partition received next := by
  refine ⟨safe, ?_, ?_, ?_, ?_⟩
  · rw [messages]; exact covering.own
  · rw [messages]; exact covering.ordered
  · rw [commits]
    intro entry mem
    simp only [Partition.OneTopicUpTo, messages, listData]
    rcases List.mem_append.mp mem with old | last
    · exact covering.commits entry old
    · rw [List.mem_singleton.mp last]
      exact ⟨succeeded, oneTopic⟩
  · intro gone msg found missing
    rw [messages] at found
    rw [listData] at missing
    refine (covering.covered gone msg found missing).mono (messages ▸ List.prefix_rfl) ?_
    rw [commits]
    exact List.subset_append_left _ _

/-- The last commit covers every node that the scan removes up to it. -/
theorem CoveringManager.coveredAt_of_removed (covering : CoveringManager partition received manager)
    {front back : List Nat} {node gone : Nat} {result : Bool} {msg : Message}
    (committed : (node, result) ∈ manager.world.commits)
    (split : manager.world.listData = front ++ node :: back)
    (found : manager.world.messages[gone]? = some msg) (listed : gone ∈ manager.world.listData)
    (missing : gone ∉ back) : manager.world.CoveredAt msg := by
  obtain ⟨succeeded, oneTopic⟩ := covering.commits _ committed
  have le : gone ≤ node := by
    have sorted := covering.safe.wf.sorted
    rw [split] at listed sorted
    rcases List.mem_append.mp listed with before | after
    · exact Nat.le_of_lt ((List.pairwise_append.mp sorted).2.2 gone before node List.mem_cons_self)
    · rcases List.mem_cons.mp after with rfl | behind
      · exact Nat.le_refl _
      · exact absurd behind missing
  have bound : node < manager.world.messages.length := by
    rw [Partition.length_messages]
    exact covering.safe.wf.mem_lt (by rw [split]; simp)
  have foundNode := List.getElem?_eq_getElem bound
  have topic : msg.topic = manager.world.messages[node].topic := by
    have same := oneTopic gone listed le
    rw [found, foundNode] at same
    exact Option.some.inj same
  refine ⟨(node, result), committed, succeeded, manager.world.messages[node], foundNode, topic.symm, ?_, ?_⟩
  · rw [(covering.own _ (List.getElem_mem bound)).1,
      (covering.own msg (List.mem_of_getElem? found)).1]
  · exact offset_le_of_le covering.ordered le found foundNode topic

theorem CoveringManager.remove (covering : CoveringManager partition received manager)
    (safe : next.Safe (AcceptedBy partition received)) {front : List Nat} {node : Nat} {result : Bool}
    (committed : manager.world.commits.getLast? = some (node, result))
    (split : manager.world.listData = front ++ node :: next.world.listData)
    (messages : next.world.messages = manager.world.messages)
    (commits : next.world.commits = manager.world.commits) :
    CoveringManager partition received next := by
  have shrunk : next.world.listData ⊆ manager.world.listData := by
    rw [split]
    exact fun listed mem => List.mem_append_right _ (List.mem_cons_of_mem _ mem)
  refine ⟨safe, ?_, ?_, ?_, ?_⟩
  · rw [messages]; exact covering.own
  · rw [messages]; exact covering.ordered
  · rw [commits]
    intro entry mem
    refine ⟨(covering.commits entry mem).1, fun earlier listed le => ?_⟩
    rw [messages]
    exact (covering.commits entry mem).2 earlier (shrunk listed) le
  · intro gone msg found missing
    rw [messages] at found
    have covered : manager.world.CoveredAt msg := by
      by_cases listed : gone ∈ manager.world.listData
      · exact covering.coveredAt_of_removed (List.mem_of_getLast? committed) split found listed missing
      · exact covering.covered gone msg found listed
    refine covered.mono (messages ▸ List.prefix_rfl) ?_
    rw [commits]
    exact fun _ => id

theorem coveringManager_step {commitNum : Int} {label : PartitionLabel}
    (covering : CoveringManager partition received manager)
    (accepted : ∀ data, label = .emplaceBack data →
      AcceptedBy partition received manager.world.messages data.msg)
    (guarded : CoveringCommit manager label)
    (stepped : manager.step commitNum label = some next) :
    CoveringManager partition received next := by
  have safe := partition_step_safe covering.safe accepted stepped
  cases partition_step_cases covering.safe stepped with
  | kept messages listData commits =>
    refine ⟨safe, ?_, ?_, ?_, ?_⟩
    · rw [messages]; exact covering.own
    · rw [messages]; exact covering.ordered
    · simpa only [Partition.OneTopicUpTo, messages, listData, commits] using covering.commits
    · simpa only [Partition.Covered, Partition.CoveredAt, messages, listData, commits] using
        covering.covered
  | append data new messages listData commits => exact covering.append safe new messages listData commits
  | commit node answer continuation labelled committing cleared listed messages listData commits =>
    -- the condition on the step is about this commit
    subst labelled
    simp only [CoveringCommit, committing] at guarded
    obtain ⟨succeeded, oneTopic⟩ := guarded
    exact covering.commit safe succeeded oneTopic messages listData commits
  | remove front node result committed split messages commits =>
    exact covering.remove safe committed split messages commits

end CoveringSteps

/-! ## Coverage of the consumer process -/

namespace ConsumerState

/-- Whenever a message has been removed from the cache of its manager, a successful commit of
    its topic and partition covers its offset. -/
def Covered (state : ConsumerState) : Prop :=
  ∀ partition, (state.managers partition).world.Covered

/-- The condition on a step: if it is the commit of a manager, it succeeds, and all nodes
    cached up to the committed one carry its topic. -/
def CoveringStep (state : ConsumerState) : ConsumerLabel → Prop
  | .process _ => True
  | .manager partition label => CoveringCommit (state.managers partition) label

instance (state : ConsumerState) : ∀ label, Decidable (state.CoveringStep label)
  | .process _ => inferInstanceAs (Decidable True)
  | .manager partition label => inferInstanceAs (Decidable (CoveringCommit (state.managers partition) label))

def Covering (state : ConsumerState) : Prop :=
  ∀ partition, CoveringManager partition state.received (state.managers partition)

theorem Covering.setManager {state : ConsumerState} (covering : state.Covering) {partition : Int}
    {manager : PartitionState} (kept : CoveringManager partition state.received manager) :
    (state.setManager partition manager).Covering := by
  intro other
  by_cases same : other = partition
  · subst same
    simpa [ConsumerState.setManager] using kept
  · simpa [ConsumerState.setManager, Function.update_of_ne same] using covering other

end ConsumerState

open ConsumerState in
theorem consumer_step_covering {text : JsonText} {commitNum : Int} {strTopics : String}
    {state next : ConsumerState} {label : ConsumerLabel} (covering : state.Covering)
    (guarded : state.CoveringStep label)
    (stepped : state.step text commitNum strTopics label = some next) : next.Covering := by
  cases label with
  | process msg =>
    simp only [ConsumerState.step, Option.ite_none_right_eq_some] at stepped
    obtain ⟨⟨-, inOrder⟩, processed⟩ := stepped
    have received : Covering { state with received := state.received ++ [msg] } :=
      fun partition => (covering partition).receive msg
    simp only [ConsumerState.process] at processed
    split at processed
    · cases processed
      exact received
    · next data read =>
      simp only [Option.map_eq_some_iff] at processed
      obtain ⟨manager, emplaced, rfl⟩ := processed
      refine received.setManager (coveringManager_step (received msg.partition) ?_ ?_ emplaced)
      case refine_2 => exact trivial
      rintro _ ⟨⟩
      rw [readMessage_msg read]
      refine ⟨rfl, by simp, fun earlier mem topic => ?_⟩
      obtain ⟨own, known⟩ := (covering msg.partition).own earlier mem
      exact inOrder earlier known topic own
  | manager partition label =>
    have guarded : CoveringCommit (state.managers partition) label := guarded
    obtain ⟨manager, moved, rfl, running⟩ : ∃ manager,
        (state.managers partition).step commitNum label = some manager ∧
          state.setManager partition manager = next ∧ ∀ data, label ≠ .emplaceBack data := by
      cases label with
      | emplaceBack data => cases stepped
      | _ => simpa [ConsumerState.step] using stepped
    refine covering.setManager (coveringManager_step (covering partition) ?_ guarded moved)
    exact fun data new => absurd new (running data)

theorem removed_covered (text : JsonText) (commitNum : Int) (strTopics : String)
    (labels : List ConsumerLabel) (state : ConsumerState)
    (meets : (consumerMachine text commitNum strTopics).Meets ConsumerState.CoveringStep
      (consumerMachine text commitNum strTopics).start labels)
    (ran : (consumerMachine text commitNum strTopics).run
      (consumerMachine text commitNum strTopics).start labels = some state) :
    state.Covered := by
  have start : (consumerMachine text commitNum strTopics).start.Covering :=
    fun partition => .start partition []
  have covering : state.Covering := by
    refine Machine.run_invariant_of_meets ?_ start meets ran
    exact fun _ _ _ holds guarded stepped => consumer_step_covering holds guarded stepped
  exact fun partition => (covering partition).covered

/-- A flow message of a device, which `handle` accepts. -/
def flowPayload : String :=
  "\x7b\"data\":\x7b\"app_id\":\"a\",\"did\":\"d\",\"payload\":\"\x7b\\\"event\\\":\x7b\x7d\x7d\",\"ptype\":128\x7d,\"msg_id\":\"m\"\x7d"

def flowJson : Json :=
  .object [("data", .object [("app_id", .string "a"), ("did", .string "d"),
      ("payload", .string "\x7b\"event\":\x7b\x7d\x7d"), ("ptype", .int 128)]),
    ("msg_id", .string "m")]

/-- Reads the texts of that message and nothing else. -/
def flowReader (input : String) : Except Fault (Option Json) :=
  if input = flowPayload then .ok (some flowJson)
  else if input = "\x7b\"event\":\x7b\x7d\x7d" then .ok (some (.object [("event", .object [])]))
  else .ok none

def flowText : JsonText where
  reader := flowReader
  charReader := flowReader
  toStyledString _ := ""
  realToString _ := ""

/-- A flow message is delivered to partition 0 and accepted, and a worker finishes it. -/
def finished (topic : String) (offset : Int) (node : Nat) : List ConsumerLabel :=
  .process ⟨topic, 0, offset, flowPayload⟩ ::
    List.replicate 8 (.manager 0 (.advance .consumer acceptAll)) ++ [.manager 0 (.finish node)]

/-- A pass over a finished list of two nodes. -/
def passOfTwo : List ConsumerLabel :=
  .manager 0 .doSomething :: List.replicate 19 (.manager 0 (.advance .scanner acceptAll))

theorem removed_covered_oneTopic :
    ∃ state, (consumerMachine flowText 1 "gzc").run (consumerMachine flowText 1 "gzc").start
        (finished "gzc" 7 0 ++ finished "gzc" 8 1 ++ passOfTwo) = some state ∧
      (state.managers 0).world.listData = [] ∧ state.Covered :=
  ⟨_, rfl, rfl, removed_covered flowText 1 "gzc"
    (finished "gzc" 7 0 ++ finished "gzc" 8 1 ++ passOfTwo) _ (by decide) rfl⟩

/-- Two subscribed topics share the manager of partition 0.  The commit of the second message
    says nothing about the topic of the first, which is removed with it. -/
theorem removed_not_covered :
    ∃ state, (consumerMachine flowText 1 "gzc,gzf").run (consumerMachine flowText 1 "gzc,gzf").start
        (finished "gzc" 7 0 ++ finished "gzf" 3 1 ++ passOfTwo) = some state ∧
      ¬ state.Covered := by
  refine ⟨_, rfl, fun covered => ?_⟩
  obtain ⟨entry, mem, -, committed, found, topic, -⟩ :=
    covered 0 0 ⟨"gzc", 0, 7, flowPayload⟩ rfl (by decide)
  obtain rfl : entry = (1, true) := List.mem_singleton.mp mem
  obtain rfl : _ = committed := Option.some.inj found
  exact absurd topic (by decide)

end XBusiness.Consumer
