import SimpleLinkHost.Driver.MsgRead

/-!
# Commands and the spawn context

`_SlDrvCmdOp` writes a command and reads messages until its response has come;
`_SlDrvMsgReadSpawnCtx` reads one message for the spawn task.  Both run under the
global lock, which each of them gives back unless `_SlDrvMsgRead` is taken to have
done so.
-/

namespace SimpleLinkHost.CmdOp

open CallOutcome Calls GlobalLock MsgWrite RxMsg MsgRead

/-- What an event meets on its way to the spawn list: its two allocations, and
whether the object at `ActionIndex` has response arguments if one fails. -/
structure SpawnInsert where
  itemAllocated : Bool
  bufferAllocated : Bool
  pendingRespArgs : Bool

/-- What one iteration of the loop in `_SlDrvMsgReadCmdCtx` meets. -/
structure CmdRound where
  rxIrqCnt : Byte
  message : MsgEnv
  spawnInsert : SpawnInsert
  waitStatus : ℤ
  deviceStarted : Bool

/-- What one `_SlDrvCmdOp` call meets. -/
structure CmdEnv where
  provisioningInProgress : Bool
  globalLock : GlobalLockEnv
  restartRequired : Bool
  rounds : List CmdRound
  rxIrqCntAfter : Byte

/-- What one `_SlDrvMsgReadSpawnCtx` call meets. -/
structure SpawnEnv where
  globalLock : GlobalLockEnv
  rxIrqCnt : Byte
  deviceStarted : Bool
  deviceStartInProgress : Bool
  message : MsgEnv
  handlerFlags : DevFlags

variable (cfg : RxConfig)

/-- `CmdCmpltTimeout` -/
def cmdCmpltTimeout (cmdOpcode : BitVec 16) : ℕ :=
  if cmdOpcode = cfg.opcodes.nvmemFileOpen
      ∨ cmdOpcode = cfg.opcodes.nvmemNvmemFsProgrammingCommand then
    cfg.slDriverTimeoutLong * 10
  else if cfg.opcodes.siloFS &&& cmdOpcode ≠ 0 then cfg.slDriverTimeoutLong
  else cfg.slDriverTimeoutShort

/-- `SL_DRV_LOCK_GLOBAL_UNLOCK(TRUE)` where the lock was taken. -/
def unlockIfRequired (isLockRequired : Bool) : DrvM Unit :=
  runIf isLockRequired (slDrvGlobalObjUnLock true)

/-- `_SlSpawnMsgListInsert` in the build with dynamic memory. -/
def slSpawnMsgListInsert (env : SpawnInsert) (asyncBuf : List Byte) : DrvM RetCode := do
  protectionObjLockForever
  emit .malloc
  if !env.itemAllocated then
    protectionObjUnlock
    return .noFreeAsyncBuffers
  emit .malloc
  if !env.bufferAllocated then
    emit .free
    protectionObjUnlock
    return .noFreeAsyncBuffers
  modifyCB fun cb =>
    { cb with
      spawnMsgList := cb.spawnMsgList ++
        [{ actionIndex := cb.asyncExt.actionIndex
           asyncHndlr := cb.asyncExt.asyncEvtHandler
           buffer := asyncBuf }] }
  protectionObjUnlock
  return .ok

/-- `_SlFindAndReleasePendingCmd` -/
def slFindAndReleasePendingCmd (pendingRespArgs : Bool) : DrvM Unit := do
  let s ← get
  runIf pendingRespArgs (do
    emit (.setStatusOfPending s.cb.asyncExt.actionIndex)
    emit (.syncSignal (.poolObj s.cb.asyncExt.actionIndex)))

/-- An event read in command context is stored for the spawn context. -/
def storeAsyncEvt (env : SpawnInsert) (out : MsgReadOut) : DrvM Unit := do
  let inserted ← slSpawnMsgListInsert env (out.asyncBuf.take out.outMsgReadLen)
  runIf (inserted = .noFreeAsyncBuffers) (slFindAndReleasePendingCmd env.pendingRespArgs)
  emit .free

/-- What follows a message that was read in command context. -/
def handleCmdMsg (env : SpawnInsert) (out : MsgReadOut) : RxMsgClass → DrvM Unit
  | .cmdResp => do
      modifyCB fun cb => { cb with waitForCmdResp := false }
      emit (.syncClear .cmdSyncObj)
  | .asyncEvt => storeAsyncEvt env out
  | .multiSelectResp => emit (.syncSignal .selectSyncObj)
  | .recvResp | .dummyMsg => pure ()

/-- A message was not read: `SL_API_ABORTED` is taken to mean that the global lock
was given back. -/
def abandonCmd (isLockRequired : Bool) (ret : RetCode) : DrvM Unit := do
  modifyCB fun cb => { cb with waitForCmdResp := false }
  unlockIfRequired (isLockRequired && ret ≠ .apiAborted)
  throw .apiAborted

/-- A message is pending in command context. -/
def readCmdMsg (isLockRequired : Bool) (round : CmdRound) : DrvM Unit := do
  let read ← attempt stopsCaller (slDrvMsgRead cfg round.message)
  match read with
  | .error ret => abandonCmd isLockRequired ret
  | .ok out =>
      modifyCB fun cb => { cb with rxDoneCnt := cb.rxDoneCnt + 1 }
      let s ← get
      handleCmdMsg round.spawnInsert out s.cb.asyncExt.rxMsgClass

/-- The wait on `CmdSyncObj`, which the interrupt handler signals. -/
def waitForCmdMsg (cmdOpcode : BitVec 16) (isLockRequired : Bool) (round : CmdRound) :
    DrvM Unit :=
  runIf (round.waitStatus ≠ 0) (do
    modifyCB fun cb => { cb with waitForCmdResp := false }
    unlockIfRequired isLockRequired
    runIf round.deviceStarted
      (emit (.fatalError (.noCmdAck cmdOpcode (cmdCmpltTimeout cfg cmdOpcode))))
    throw .apiAborted)

/-- The loop of `_SlDrvMsgReadCmdCtx`. -/
def readUntilCmdResp (cmdOpcode : BitVec 16) (isLockRequired : Bool) : List CmdRound → DrvM Unit
  | [] => do
      let s ← get
      returnIf s.cb.waitForCmdResp .noReturn
  | round :: rounds => do
      let s ← get
      if s.cb.waitForCmdResp then
        if round.rxIrqCnt ≠ s.cb.rxDoneCnt then
          readCmdMsg cfg isLockRequired round
          readUntilCmdResp cmdOpcode isLockRequired rounds
        else
          waitForCmdMsg cfg cmdOpcode isLockRequired round
          readUntilCmdResp cmdOpcode isLockRequired rounds
      else pure ()

/-- `_SlSpawnMsgListGetCount` -/
def slSpawnMsgListGetCount : DrvM ℕ := do
  let s ← get
  protectionObjLockForever
  protectionObjUnlock
  return s.cb.spawnMsgList.length

/-- `_SlDrvMsgReadCmdCtx` -/
def slDrvMsgReadCmdCtx (cmdOpcode : BitVec 16) (isLockRequired : Bool) (env : CmdEnv) :
    DrvM Unit := do
  readUntilCmdResp cfg cmdOpcode isLockRequired env.rounds
  let numOfItems ← slSpawnMsgListGetCount
  runIf (0 < numOfItems) (emit (.spawnFromCmd true))
  unlockIfRequired isLockRequired
  let s ← get
  runIf (env.rxIrqCntAfter ≠ s.cb.rxDoneCnt) (emit (.spawnFromCmd false))

/-- The flags of a command; a provisioning command without a timeout is the stop
command. -/
def cmdLockFlags (cmdCtrl : CmdCtrl) (pTxRxDescBuff : Option (ℕ → Byte)) : GlobalLockFlags where
  updateApiInProgress := true
  provisioningStopApi := cmdCtrl.opcode = cfg.opcodes.wlanProvisioningCommand
    && (pTxRxDescBuff.map fun desc => cfg.inactivityTimeoutSec desc) = some 0
  opcodeIsDeviceStop := cmdCtrl.opcode = cfg.opcodes.deviceStopCommand
  siloIsFS := cmdCtrl.opcode &&& (0xF <<< cfg.opcodes.siloOffset) = cfg.opcodes.siloFS

/-- `IsLockRequired` -/
def isLockRequired (cmdCtrl : CmdCtrl) (env : CmdEnv) : Bool :=
  !(env.provisioningInProgress && cmdCtrl.opcode = cfg.opcodes.deviceStopCommand)

/-- The command is sent, and its response awaited if that succeeds. -/
def sendCmd (cmdCtrl : CmdCtrl) (pTxRxDescBuff : Option (ℕ → Byte)) (ext : Option CmdExt)
    (lockRequired : Bool) (env : CmdEnv) : DrvM Unit := do
  modifyCB fun cb => { cb with waitForCmdResp := true }
  let sent ← attempt stopsCaller
    (slDrvMsgWrite cfg.toProtocolConfig cmdCtrl ext pTxRxDescBuff)
  match sent with
  | .ok _ => slDrvMsgReadCmdCtx cfg cmdCtrl.opcode lockRequired env
  | .error ret =>
      unlockIfRequired lockRequired
      throw ret

/-- `_SlDrvCmdOp` -/
def slDrvCmdOp (cmdCtrl : CmdCtrl) (pTxRxDescBuff : Option (ℕ → Byte)) (ext : Option CmdExt)
    (env : CmdEnv) : DrvM Unit := do
  let lockRequired := isLockRequired cfg cmdCtrl env
  runIf lockRequired
    (lockGlobalLockForever (cmdLockFlags cfg cmdCtrl pTxRxDescBuff) env.globalLock)
  runIf env.restartRequired (do
    unlockIfRequired lockRequired
    throw .apiAborted)
  sendCmd cfg cmdCtrl pTxRxDescBuff ext lockRequired env

/-- `GLOBAL_LOCK_FLAGS_NONE` -/
def noLockFlags : GlobalLockFlags where
  updateApiInProgress := false
  provisioningStopApi := false
  opcodeIsDeviceStop := cfg.opcodes.deviceStopCommand = 0
  siloIsFS := cfg.opcodes.siloFS = 0

/-- The events that pass while provisioning is running. -/
def passesProvisioning (opcode : BitVec 16) : Bool :=
  opcode = cfg.opcodes.wlanProvisioningStatusAsyncEvent
    || opcode = cfg.opcodes.deviceResetRequestAsyncEvent
    || opcode = cfg.opcodes.deviceInitComplete
    || opcode = cfg.opcodes.wlanProvisioningProfileAddedAsyncResponse
    || opcode = cfg.opcodes.netAppRequest

/-- `_SlDrvAsyncEventGenericHandler`, up to the translation of the opcode for the
handler. -/
def slDrvAsyncEventGenericHandler (flags : DevFlags) (asyncBuf : List Byte) : DrvM Unit := do
  let s ← get
  match s.cb.asyncExt.asyncEvtHandler with
  | none => pure ()
  | some handler =>
      runIf (!((flags.provisioningActive || flags.provisioningInitiatedByUser)
          && !flags.provisioningApiAllowed)
          || passesProvisioning cfg (cfg.respHeader asyncBuf).opcode)
        (emit (.eventHandler handler asyncBuf))

/-- What follows a message that was read in the spawn context. -/
def handleSpawnMsg (flags : DevFlags) (out : MsgReadOut) : RxMsgClass → DrvM Unit
  | .asyncEvt => do
      slDrvAsyncEventGenericHandler cfg flags out.asyncBuf
      emit .free
  | .multiSelectResp =>
      if cfg.multiSelect then emit (.syncSignal .selectSyncObj)
      else slAssertError false .apiAborted
  | .dummyMsg | .recvResp | .cmdResp => pure ()

/-- The same in the spawn context. -/
def abandonSpawnMsg (ret : RetCode) : DrvM Unit := do
  runIf (ret ≠ .apiAborted) (slDrvGlobalObjUnLock false)
  throw .apiAborted

/-- A message is pending in the spawn context. -/
def readSpawnMsg (env : SpawnEnv) : DrvM Unit := do
  let read ← attempt stopsCaller (slDrvMsgRead cfg env.message)
  match read with
  | .error ret => abandonSpawnMsg ret
  | .ok out =>
      modifyCB fun cb => { cb with rxDoneCnt := cb.rxDoneCnt + 1 }
      let s ← get
      handleSpawnMsg cfg env.handlerFlags out s.cb.asyncExt.rxMsgClass
      slDrvGlobalObjUnLock false

/-- `_SlDrvMsgReadSpawnCtx` without polling. -/
def slDrvMsgReadSpawnCtx (env : SpawnEnv) : DrvM Unit := do
  lockGlobalLockForever (noLockFlags cfg) env.globalLock
  let s ← get
  if env.rxIrqCnt = s.cb.rxDoneCnt then slDrvGlobalObjUnLock false
  else if env.deviceStarted || env.deviceStartInProgress then readSpawnMsg cfg env
  else throw .interfaceClosed

end SimpleLinkHost.CmdOp
