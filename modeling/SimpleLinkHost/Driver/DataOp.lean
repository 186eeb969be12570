import SimpleLinkHost.Driver.MsgWrite

/-!
# Data operations

`_SlDrvDataReadOp` and `_SlDrvDataWriteOp` take the TX flow-control lock, wait
for a packet of the TX pool if none is free, and send their message under the
global lock; a receive also holds an object of the pool until its response
arrives.  Which exits give all of this back is decided by the outcome of the
wait and by the status of the global-lock wrapper.
-/

namespace SimpleLinkHost.DataOp

open CallOutcome Calls GlobalLock MsgWrite
open Pool (PoolError)

structure DataConfig extends ProtocolConfig where
  flowContMin : ℕ
  slMaxSockets : ℕ
  slBsdSocketIdMask : ℕ
  slDriverTimeoutShort : ℕ
  slOpcodeSocketRecv : BitVec 16
  slOpcodeSocketRecvAsyncResponse : BitVec 16
  slOpcodeSocketRecvFromAsyncResponse : BitVec 16

/-- The outcome of a wait on `TxSyncObj`, which ends in the spawn task after some
rounds of events, and elsewhere with a status and a look at the restart flag. -/
structure FlowWait where
  spawnOwnsGlobalLock : Bool
  spawnRounds : ℕ
  waitStatus : ℤ
  restartRequired : Bool

/-- The end of a wait in `_SlDrvWaitForInternalAsyncEvent`; the spawn task stops
after `spawnRounds` rounds because its time is over or because it is signalled. -/
structure AsyncWait extends FlowWait where
  timeoutExpired : Bool

/-- What follows the flow control: the global-lock wrapper, the restart flag read
under the lock, and `TxPoolCnt` at that time. -/
structure TakePackets where
  globalLock : GlobalLockEnv
  restartRequired : Bool
  txPoolCnt : Byte

/-- What one `_SlDrvDataReadOp` call meets. -/
structure ReadEnv where
  poolObj : Except PoolError ℕ
  txPoolCnt : Byte
  flowWait : FlowWait
  takePackets : TakePackets
  socketNonBlocking : BitVec 16
  asyncWait : AsyncWait

/-- What one iteration of the loop in `_SlDrvDataWriteOp` meets; `TxPoolCnt` is
read before and after the wait. -/
structure WriteRound where
  minTxPayloadSize : BitVec 16
  socketTXFailure : BitVec 16
  socketNonBlocking : BitVec 16
  txPoolCnt : Byte
  flowWait : FlowWait
  txPoolCntAfter : Byte

variable (cfg : DataConfig)

/-- The flags of a data operation. -/
def dataLockFlags : GlobalLockFlags where
  updateApiInProgress := true
  provisioningStopApi := false
  opcodeIsDeviceStop := false
  siloIsFS := false

/-- The number of a socket, without the bits that the mask leaves out. -/
def socketID (sd : Byte) : ℕ := sd.toNat &&& cfg.slBsdSocketIdMask

/-- `flags & (1<<(Sd & SL_BSD_SOCKET_ID_MASK))` -/
def socketBit (flags : BitVec 16) (sd : Byte) : Bool := flags.toNat.testBit (socketID cfg sd)

/-- Rounds of the spawn task until it finds its sync object signalled. -/
def spawnWaitForSignal : ℕ → DrvM Unit
  | 0 => emit .internalSpawnWaitForEvent
  | rounds + 1 => do
      emit .internalSpawnWaitForEvent
      spawnWaitForSignal rounds

/-- The wait for a packet of the TX pool, with the lock held. -/
def txFlowControlWait (wait : FlowWait) : DrvM Unit :=
  if wait.spawnOwnsGlobalLock then spawnWaitForSignal wait.spawnRounds
  else do
    runIf (wait.waitStatus ≠ 0) (do
      emit (.fatalError .driverAbort)
      throw .apiAborted)
    returnIf wait.restartRequired .apiAborted

/-- The last steps under the TX lock: a message may be sent once the global lock
is taken, and `amount` packets are taken from the pool, which should hold at least
`least`. -/
def takeTxPackets (least amount : ℕ) (env : TakePackets) : DrvM Unit := do
  lockGlobalLockForever dataLockFlags env.globalLock
  runIf env.restartRequired (do
    slDrvGlobalObjUnLock true
    throw .apiAborted)
  verifyProtocol (least ≤ env.txPoolCnt.toNat)
  emit (.setTxPoolCnt (env.txPoolCnt - BitVec.ofNat 8 amount))
  emit (.unlock .txLockObj)

/-- `_SlDrvWaitForPoolObj` as its caller sees it. -/
def waitForPoolObj : Except PoolError ℕ → DrvM ℕ
  | .ok objIdx => do
      emit (.lock (.poolObj objIdx))
      return objIdx
  | .error .noObj => throw .poolIsEmpty
  | .error .stopInProgress => throw .stopInProgress

/-- `_SlDrvReleasePoolObj` as its caller sees it. -/
def releasePoolObj (objIdx : ℕ) : DrvM Unit := emit (.unlock (.poolObj objIdx))

/-- The end of a wait with a timeout: an expired one is a fatal error. -/
def endAsyncWait (timeout : ℕ) (opcode : BitVec 16) (expired restartRequired : Bool) :
    DrvM RetCode :=
  if timeout ≠ 0 ∧ expired then do
    emit (.fatalError (.cmdTimeout opcode timeout))
    return .apiAborted
  else if restartRequired then return .apiAborted
  else return .ok

/-- `_SlDrvWaitForInternalAsyncEvent` with `SL_DRV_SYNC_OBJ_WAIT_TIMEOUT` and
`SL_DRV_SYNC_OBJ_WAIT_FOREVER` written out. -/
def slDrvWaitForInternalAsyncEvent (timeout : ℕ) (opcode : BitVec 16) (wait : AsyncWait) :
    DrvM RetCode :=
  if wait.spawnOwnsGlobalLock then do
    spawnWaitForSignal wait.spawnRounds
    endAsyncWait timeout opcode wait.timeoutExpired false
  else endAsyncWait timeout opcode (wait.waitStatus ≠ 0) wait.restartRequired

/-- The response to a receive that was sent is awaited; a non-blocking socket gets
it at once. -/
def waitForReceive (sd : Byte) (cmdCtrl : CmdCtrl) (env : ReadEnv) (sent : RetCode) :
    DrvM RetCode :=
  if sent ≠ .ok then return sent
  else if socketBit cfg env.socketNonBlocking sd then
    slDrvWaitForInternalAsyncEvent cfg.slDriverTimeoutShort
      (if cmdCtrl.opcode = cfg.slOpcodeSocketRecv then cfg.slOpcodeSocketRecvAsyncResponse
        else cfg.slOpcodeSocketRecvFromAsyncResponse) env.asyncWait
  else slDrvWaitForInternalAsyncEvent 0 0 env.asyncWait

/-- The message of a data operation, sent under the global lock. -/
def sendData (cmdCtrl : CmdCtrl) (ext : CmdExt) (pTxRxDescBuff : Option (ℕ → Byte)) :
    DrvM RetCode := do
  let sent ← attempt stopsCaller
    (slDrvMsgWrite cfg.toProtocolConfig cmdCtrl (some ext) pTxRxDescBuff)
  slDrvGlobalObjUnLock true
  return retVal sent

/-- The flow control of a receive. -/
def readFlowControl (env : ReadEnv) : DrvM Unit := do
  emit (.lock .txLockObj)
  emit (.syncClear .txSyncObj)
  runIf (env.txPoolCnt.toNat ≤ cfg.flowContMin) (txFlowControlWait env.flowWait)
  takeTxPackets cfg.flowContMin 1 env.takePackets

/-- The rest of a receive, from the pool object on. -/
def readWithPoolObj (sd : Byte) (cmdCtrl : CmdCtrl) (ext : CmdExt)
    (pTxRxDescBuff : Option (ℕ → Byte)) (env : ReadEnv) (objIdx : ℕ) : DrvM RetCode := do
  protectionObjLockForever
  emit (.setRespArgs objIdx)
  protectionObjUnlock
  readFlowControl cfg env
  let sent ← sendData cfg cmdCtrl ext pTxRxDescBuff
  let received ← waitForReceive cfg sd cmdCtrl env sent
  releasePoolObj objIdx
  return received

/-- `_SlDrvDataReadOp` -/
def slDrvDataReadOp (sd : Byte) (cmdCtrl : CmdCtrl) (ext : CmdExt)
    (pTxRxDescBuff : Option (ℕ → Byte)) (env : ReadEnv) : DrvM RetCode := do
  slAssertError ext.pRxPayload.isSome .invalidInput
  verifyProtocol (ext.rxPayloadLen ≠ 0)
  returnIf (cfg.slMaxSockets ≤ socketID cfg sd) .badFileNumber
  let objIdx ← waitForPoolObj env.poolObj
  readWithPoolObj cfg sd cmdCtrl ext pTxRxDescBuff env objIdx

/-- The number of TX pool packets a payload takes. -/
def allocTxPoolPkts (ext : CmdExt) (round : WriteRound) : ℕ :=
  (1 + Int.tdiv ((ext.txPayload1Len.toNat : ℤ) - 1) round.minTxPayloadSize.toNat).toNat

/-- Too few packets are left for the payload: a non-blocking socket gives up, a
blocking one waits. -/
def writeFlowControlWait (sd : Byte) (round : WriteRound) : DrvM Unit := do
  runIf (socketBit cfg round.socketNonBlocking sd) (do
    runIf round.flowWait.spawnOwnsGlobalLock (emit .internalSpawnWaitForEvent)
    emit (.unlock .txLockObj)
    throw .eagain)
  txFlowControlWait round.flowWait

/-- The loop of `_SlDrvDataWriteOp`; it ends with the TX lock held and enough
packets, the number of which it gives back. -/
def writeFlowControl (sd : Byte) (ext : CmdExt) : List WriteRound → DrvM ℕ
  | [] => throw .noReturn
  | round :: rounds => do
      emit (.lock .txLockObj)
      emit (.syncClear .txSyncObj)
      runIf (socketBit cfg round.socketTXFailure sd) (do
        emit (.unlock .txLockObj)
        throw .socError)
      runIf (round.txPoolCnt.toNat ≤ cfg.flowContMin + allocTxPoolPkts ext round)
        (writeFlowControlWait cfg sd round)
      if cfg.flowContMin + allocTxPoolPkts ext round < round.txPoolCntAfter.toNat then
        return allocTxPoolPkts ext round
      else
        emit (.unlock .txLockObj)
        writeFlowControl sd ext rounds

/-- `_SlDrvDataWriteOp` -/
def slDrvDataWriteOp (sd : Byte) (cmdCtrl : CmdCtrl) (ext : CmdExt)
    (pTxRxDescBuff : Option (ℕ → Byte)) (rounds : List WriteRound) (env : TakePackets) :
    DrvM RetCode := do
  let alloc ← writeFlowControl cfg sd ext rounds
  takeTxPackets (cfg.flowContMin + alloc) alloc env
  sendData cfg cmdCtrl ext pTxRxDescBuff

section Outcomes

/-- The wait ends with a signal and no error recovery under way. -/
def FlowWait.signalled (wait : FlowWait) : Bool :=
  wait.spawnOwnsGlobalLock || (wait.waitStatus == 0 && !wait.restartRequired)

/-- The global lock is granted and no error recovery is under way. -/
def TakePackets.granted (env : TakePackets) : Bool :=
  env.globalLock.granted dataLockFlags && !env.restartRequired

/-- A receive gets past the flow control. -/
def ReadEnv.proceeds (env : ReadEnv) : Bool :=
  (decide (cfg.flowContMin < env.txPoolCnt.toNat) || env.flowWait.signalled)
    && env.takePackets.granted

/-- The packets left are too few for the payload. -/
def WriteRound.short (round : WriteRound) (ext : CmdExt) : Bool :=
  decide (round.txPoolCnt.toNat ≤ cfg.flowContMin + allocTxPoolPkts ext round)

def WriteRound.enough (round : WriteRound) (ext : CmdExt) : Bool :=
  decide (cfg.flowContMin + allocTxPoolPkts ext round < round.txPoolCntAfter.toNat)

end Outcomes

end SimpleLinkHost.DataOp
