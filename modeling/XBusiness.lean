import XBusiness.Lib.Machine
import XBusiness.Lib.Prog
import XBusiness.Lib.Handler
import XBusiness.Lib.Coupling
import XBusiness.Lib.Outcome
import XBusiness.Lib.StateProg
import XBusiness.Lib.Threads
import XBusiness.Lib.AssocList
import XBusiness.Json.Value
import XBusiness.Common.ComFunc
import XBusiness.Common.Base64
import XBusiness.Consumer.DataDefine
import XBusiness.Consumer.Partition
import XBusiness.Consumer.CommitSafety
import XBusiness.Consumer.Pass
import XBusiness.Consumer.Counting
import XBusiness.Consumer.HandOut
import XBusiness.Consumer.ConsumeProcess
import XBusiness.Consumer.Restart
import XBusiness.Consumer.Rebalance
import XBusiness.Consumer.FlowControl
import XBusiness.Data.BaseData
import XBusiness.Data.ParseFaults
import XBusiness.Message.Session
import XBusiness.Workflow.Calls
import XBusiness.Common.RedisClient
import XBusiness.Handler.PreHandler
import XBusiness.Data.KafkaOutput
import XBusiness.Workflow.Modules
import XBusiness.Workflow.Endings
import XBusiness.Workflow.PictureWait
import XBusiness.Workflow.Ownership
import XBusiness.Workflow.Pool
import XBusiness.Workflow.PoolSafety
import XBusiness.Workflow.PoolDeadlock
import XBusiness.Workflow.PictureLock
import XBusiness.Workflow.UserEvent
import XBusiness.Workflow.UserEventGuard
import XBusiness.Workflow.Reparse
import XBusiness.Workflow.Rendezvous
import XBusiness.Workflow.Twins
import XBusiness.Workflow.ArrivalOrder
import XBusiness.Workflow.Poison
import XBusiness.Workflow.FaceRect
import XBusiness.Workflow.TraceAnswers
import XBusiness.Workflow.WaitFailures
import XBusiness.Workflow.Progress
import XBusiness.Workflow.WaitingRecords
import XBusiness.Workflow.Inputs
import XBusiness.Workflow.Album
import XBusiness.Workflow.Downloads
import XBusiness.Workflow.Output
import XBusiness.Handler.GenUrls
import XBusiness.Workflow.Responses
import XBusiness.Workflow.GeneratedUrls
import XBusiness.Workflow.PicWaitKey
import XBusiness.Workflow.StorageUrls
import XBusiness.Workflow.Screenshots
import XBusiness.Workflow.RecordIdentity
import XBusiness.Lib.Refinement
import XBusiness.Lib.CommitLog
import XBusiness.Workflow.Delivery
import XBusiness.Lib.Monitor
import XBusiness.Workflow.FifoBuffer
import XBusiness.Lib.Family
import XBusiness.Lib.Closing
import XBusiness.Workflow.HandOver
import XBusiness.Workflow.PoolCourses
import XBusiness.Consumer.LockDiscipline
import XBusiness.Workflow.PoolRest
import XBusiness.Workflow.OwnMessage
import XBusiness.Workflow.PoolNotes
import XBusiness.Workflow.Confinement
import XBusiness.Workflow.Dropped
import XBusiness.Workflow.Verdict
