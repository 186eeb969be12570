import SimpleLinkHost.Core.IndexList
import SimpleLinkHost.Core.Transition
import SimpleLinkHost.Core.KeyedExclusion
import SimpleLinkHost.Core.LockTrace
import SimpleLinkHost.Core.CallOutcome
import SimpleLinkHost.Core.WhileLoop
import SimpleLinkHost.Core.ProgramInvariant
import SimpleLinkHost.Core.ProgramScript
import SimpleLinkHost.Core.Monitor
import SimpleLinkHost.Core.LastWrite
import SimpleLinkHost.Core.WrappingCounter
import SimpleLinkHost.Driver.Pool
import SimpleLinkHost.Driver.PoolSlots
import SimpleLinkHost.Driver.PoolRelease
import SimpleLinkHost.Driver.PoolSystem
import SimpleLinkHost.Driver.PoolRuns
import SimpleLinkHost.Driver.PoolFatalError
import SimpleLinkHost.Driver.Calls
import SimpleLinkHost.Driver.GlobalLock
import SimpleLinkHost.Driver.MsgWrite
import SimpleLinkHost.Driver.DataOp
import SimpleLinkHost.Driver.DataOpLocks
import SimpleLinkHost.Driver.RxMsg
import SimpleLinkHost.Driver.MsgRead
import SimpleLinkHost.Driver.MsgParts
import SimpleLinkHost.Driver.MsgFate
import SimpleLinkHost.Driver.CmdOp
import SimpleLinkHost.Driver.CmdOpLocks
import SimpleLinkHost.WifiConn.WifiContext
import SimpleLinkHost.WifiConn.WifiApi
import SimpleLinkHost.WifiConn.WifiMachine
import SimpleLinkHost.WifiConn.WifiFrames
import SimpleLinkHost.WifiConn.WifiScripts
import SimpleLinkHost.WifiConn.WifiCalls
import SimpleLinkHost.WifiConn.WifiRuns
import SimpleLinkHost.WifiConn.WifiRole
import SimpleLinkHost.WifiConn.WifiDisable
import SimpleLinkHost.WifiConn.WifiDeferred
import SimpleLinkHost.WifiConn.WifiSession
import SimpleLinkHost.WifiConn.WifiNetIf
import SimpleLinkHost.WifiConn.WifiPolicy
import SimpleLinkHost.WifiConn.WifiActs
import SimpleLinkHost.WifiConn.WifiTimer
import SimpleLinkHost.WifiConn.WifiProfiles
import SimpleLinkHost.WifiConn.WifiQueues
import SimpleLinkHost.WifiConn.WifiWatchdog
import SimpleLinkHost.Netdev.Cc3220sf
import SimpleLinkHost.Netdev.FatalReset
import SimpleLinkHost.Driver.Delivery
import SimpleLinkHost.Driver.CmdPayload
import SimpleLinkHost.Driver.CmdSequence
import SimpleLinkHost.Netdev.LinkReport
import SimpleLinkHost.Netdev.LinkStatus
import SimpleLinkHost.Netdev.FwInstall
import SimpleLinkHost.Driver.SpawnList
import SimpleLinkHost.Driver.SpawnPool
import SimpleLinkHost.Driver.CmdFlag
import SimpleLinkHost.Driver.IrqUnmask
import SimpleLinkHost.Driver.SelectFailure
import SimpleLinkHost.Driver.TxFlow
import SimpleLinkHost.Driver.TxFlowRuns
import SimpleLinkHost.Driver.ApiCount
import SimpleLinkHost.Driver.ApiRuns
import SimpleLinkHost.Driver.PoolStop
import SimpleLinkHost.Driver.PoolStopRuns
import SimpleLinkHost.Driver.RxHandover
import SimpleLinkHost.Driver.RxHandoverRuns
import SimpleLinkHost.Driver.RxHdr
import SimpleLinkHost.Driver.RxHdrRuns
import SimpleLinkHost.Driver.RxHdrSync
import SimpleLinkHost.Driver.MsgWire
import SimpleLinkHost.Driver.AsyncPayload
import SimpleLinkHost.Driver.RecvPayload
import SimpleLinkHost.Driver.ActiveSearch
import SimpleLinkHost.Driver.PendingRelease
import SimpleLinkHost.Driver.Timeout
import SimpleLinkHost.Driver.StopArgs
import SimpleLinkHost.Driver.SpawnNesting
import SimpleLinkHost.WifiConn.WifiBackoff
import SimpleLinkHost.WifiConn.WifiIdle
import SimpleLinkHost.WifiConn.WifiReports
import SimpleLinkHost.WifiConn.WifiTasks
import SimpleLinkHost.WifiConn.WifiProvisioning
import SimpleLinkHost.WifiConn.WifiOneShot
import SimpleLinkHost.WifiConn.WifiTeardown
import SimpleLinkHost.Core.MemoryBlock
import SimpleLinkHost.WifiConn.WifiProfileBlock
import SimpleLinkHost.Netdev.InitStatus
import SimpleLinkHost.WifiConn.WifiAddresses
import SimpleLinkHost.Netdev.Statistics
import SimpleLinkHost.Netdev.ForceProvisioning
import SimpleLinkHost.Core.BlockHeap
import SimpleLinkHost.Netdev.HttpRequest
import SimpleLinkHost.Netdev.EventListeners
import SimpleLinkHost.Netdev.Certificate
import SimpleLinkHost.Driver.RxCount
import SimpleLinkHost.Core.Simulation
import SimpleLinkHost.WifiConn.WifiDiagram
import SimpleLinkHost.WifiConn.WifiStats
import SimpleLinkHost.Netdev.NetDiagram
import SimpleLinkHost.Core.LockOrder
import SimpleLinkHost.Driver.CallOrder
import SimpleLinkHost.Core.Framing
import SimpleLinkHost.Driver.WriteStream
import SimpleLinkHost.Core.ForwardLinks
import SimpleLinkHost.Driver.FatalReport
import SimpleLinkHost.Netdev.ListenerThreads
import SimpleLinkHost.Core.Progress
import SimpleLinkHost.Netdev.Recovery
import SimpleLinkHost.Driver.RxRest
