import XBusiness.Lib.Prog

/-! # Nodes of the partition cache

`PM_DATA` and `PM_STATUS` of `DataDefine.h`, and `CPartitionManager::process_todo`,
which the consumer thread and the scanning thread both run on a node.  The node
state is an atomic, so `processTodo` is written over the loads and stores it
performs: whoever runs it decides what may happen between them.
-/

namespace XBusiness.Consumer

/-- `NODE_STATE_TODO`, `NODE_STATE_DOING`, `NODE_STATE_DONE`. -/
inductive NodeState where
  | todo
  | doing
  | done
  deriving DecidableEq, Repr

/-- The parts of an `RdKafka::Message` that the service reads. -/
structure Message where
  topic : String
  partition : Int
  offset : Int
  payload : String
  deriving DecidableEq, Repr

/-- `PM_DATA`. -/
structure PmData where
  state : NodeState := .todo
  stime : Nat := 0
  msgId : String := ""
  msg : Message
  deriving DecidableEq, Repr

/-- `PM_STATUS`, without the worker usage that nothing computes. -/
structure PmStatus where
  cacheSize : Nat := 0
  processNum : Nat := 0
  commitNum : Nat := 0
  todoNum : Nat := 0
  doingNum : Nat := 0
  doneNum : Nat := 0
  deriving DecidableEq, Repr

/-- What `process_todo` does to the node it is given. -/
structure NodeOps (M : Type → Type) where
  loadState : M NodeState
  storeState : NodeState → M Unit
  storeTime : M Unit
  handle : M Bool

/-- `CPartitionManager::process_todo`. -/
def processTodo {M : Type → Type} [Monad M] (data : NodeOps M) : M Bool := do
  if (← data.loadState) = .todo then
    data.storeState .doing
    data.storeTime
    data.handle
  else
    return false

end XBusiness.Consumer
