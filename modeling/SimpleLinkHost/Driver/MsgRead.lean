import SimpleLinkHost.Driver.RxMsg

/-!
# Reading a message

`_SlDrvMsgRead` reads a header and then what the class of the message asks for.
It gives the global lock back itself on two of its error returns; the returns
hidden in the reading macro, some of them under the protection lock, do not.
-/

namespace SimpleLinkHost.MsgRead

open CallOutcome Calls GlobalLock MsgWrite RxMsg
open Pool (PoolCB)

/-- How `_SlDrvRxHdrRead` ends. -/
inductive RxHdr
  | header (bytes : List Byte)
  | shortTransfer
  | timeout

/-- What one message meets: its header, the bytes the interface delivers behind
it, and the shared state that the message function reads. -/
structure MsgEnv where
  hdr : RxHdr
  rx : List Byte
  txSyncObjCount : ℕ
  asyncBufAllocated : Bool
  pool : PoolCB
  pArgsSet : Bool
  pDataSet : Bool
  multiSelectCB : MultiSelectCB

/-- `*outMsgReadLen` and `*pOutAsyncBuf` -/
structure MsgReadOut where
  outMsgReadLen : ℕ
  asyncBuf : List Byte

variable (cfg : RxConfig)

/-- `RSP_PAYLOAD_LEN` in 16 bits. -/
def rspPayloadLen (header : RespHeader) : BitVec 16 := header.len - cfg.respSpecHdrSize

/-- `_SlDrvRxHdrRead` as its caller sees it. -/
def slDrvRxHdrRead : RxHdr → DrvM (List Byte)
  | .header bytes => return bytes
  | .shortTransfer => do
      emit (.fatalError .driverAbort)
      throw .apiAborted
  | .timeout => throw .apiAborted

/-- The header of the message, or the return of `_SlDrvMsgRead` on a loss of
synchronization. -/
def readHeader (hdr : RxHdr) : DrvM (List Byte) := do
  let read ← attempt stopsCaller (slDrvRxHdrRead hdr)
  match read with
  | .ok bytes => return bytes
  | .error _ =>
      slDrvGlobalObjUnLock true
      emit (.fatalError .syncLoss)
      throw .apiAborted

/-- The NWP status that every header carries. -/
def updateNwpStatus (header : RespHeader) (txSyncObjCount : ℕ) : DrvM Unit := do
  modifyCB fun cb =>
    { cb with
      txPoolCnt := header.txPoolCnt
      socketNonBlocking := header.socketNonBlocking
      socketTXFailure := header.socketTXFailure
      minTxPayloadSize := header.minMaxPayload }
  emit (.setDeviceStatus header.devStatus)
  runIf (cfg.flowContMin < header.txPoolCnt.toNat ∧ txSyncObjCount = 0)
    (emit (.syncSignal .txSyncObj))

/-- The socket an event is about, `SL_MAX_SOCKETS` if it is about none. -/
def asyncEvtSd (opcode : BitVec 16) (payload : List Byte) : ℕ :=
  if opcode = cfg.opcodes.socketSocketAsyncEvent then
    (cfg.socketAsyncEventSd payload).toNat &&& cfg.slBsdSocketIdMask
  else if opcode = cfg.opcodes.socketAcceptAsyncResponse
      || opcode = cfg.opcodes.socketAcceptAsyncResponseV6
      || opcode = cfg.opcodes.socketConnectAsyncResponse
      || opcode = cfg.opcodes.socketSocketCloseAsyncEvent then
    (cfg.socketResponseSd payload).toNat &&& cfg.slBsdSocketIdMask
  else cfg.slMaxSockets

/-- The bytes of an event that fit the buffer. -/
def asyncStoredLen (respPayloadLen : BitVec 16) : ℕ :=
  if alignSize respPayloadLen.toNat ≤ cfg.slAsyncMaxPayloadLen then
    alignSize respPayloadLen.toNat
  else alignSize cfg.slAsyncMaxPayloadLen

/-- The payload of an event, the rest of which is dumped. -/
def readAsyncPayload (respPayloadLen : BitVec 16) : DrvM (List Byte) := do
  let payload ← readIntoIf (0 < respPayloadLen.toNat) .asyncBuf cfg.respHdrSize
    (asyncStoredLen cfg respPayloadLen)
  runIf (cfg.slAsyncMaxPayloadLen < alignSize respPayloadLen.toNat)
    (dumpWords ((alignSize respPayloadLen.toNat - cfg.slAsyncMaxPayloadLen) / 4))
  return payload

/-- `ASYNC_EVT_CLASS` -/
def readAsyncEvt (env : MsgEnv) (hdrBytes : List Byte) (header : RespHeader) :
    DrvM MsgReadOut := do
  emit .malloc
  returnIf (!env.asyncBufAllocated) .mallocError
  emit (.memWrite .asyncBuf 0 (List.replicate cfg.slAsyncMaxMsgLen 0))
  emit (.memWrite .asyncBuf 0 hdrBytes)
  let payload ← readAsyncPayload cfg (rspPayloadLen cfg header)
  protectionObjLockForever
  let _ ← slDrvFindAndSetActiveObj cfg env.pool header.opcode
    (asyncEvtSd cfg header.opcode payload)
  protectionObjUnlock
  return { outMsgReadLen := cfg.respHdrSize + payload.length, asyncBuf := hdrBytes ++ payload }

/-- `ExpArgSize` -/
def expArgSize (opcode : BitVec 16) : ℕ :=
  if opcode = cfg.opcodes.socketRecvFromAsyncResponse then cfg.recvFromIpv4ArgsSize
  else if opcode = cfg.opcodes.socketRecvFromAsyncResponseV6 then cfg.recvFromIpv6ArgsSize
  else cfg.recvArgsSize

/-- The socket in the arguments of a receive. -/
def recvSocket (args : List Byte) : ℕ := (cfg.recvSd args).toNat &&& cfg.slBsdSocketIdMask

/-- The receive response sent by clearing the control socket. -/
def readCtrlSock (opcode : BitVec 16) (args : List Byte) : DrvM Unit := do
  emit (.memWrite .ctrlSockBuffer 0 args)
  let _ ← readIntoIf (cfg.recvArgsSize < expArgSize cfg opcode) .ctrlSockBuffer
    cfg.recvArgsSize (expArgSize cfg opcode - cfg.recvArgsSize)
  let _ ← readIntoIf (0 < (cfg.actDataSize args).toInt ∧ 4 ≤ wholeWords (cfg.actDataSize args))
    .ctrlSockBuffer (expArgSize cfg opcode) (wholeWords (cfg.actDataSize args))
  pure ()

/-- The data of a receive response, if there is any. -/
def readRecvData (index : ℕ) (pDataSet : Bool) (size : BitVec 16) : DrvM Unit := do
  verifyProtocol pDataSet
  readAligned (.recvData index) size

/-- A receive response goes to the object that waits for it. -/
def readRecvObj (env : MsgEnv) (opcode : BitVec 16) (args : List Byte) : DrvM Unit := do
  verifyProtocol env.pArgsSet
  let s ← get
  let index := s.cb.asyncExt.actionIndex
  emit (.memWrite (.recvArgs index) 0 args)
  let _ ← readIntoIf (cfg.recvArgsSize < expArgSize cfg opcode) (.recvArgs index)
    cfg.recvArgsSize (expArgSize cfg opcode - cfg.recvArgsSize)
  runIf (0 < (cfg.actDataSize args).toInt)
    (readRecvData index env.pDataSet (cfg.actDataSize args))
  emit (.syncSignal (.poolObj index))

/-- `RECV_RESP_CLASS` -/
def readRecvResp (env : MsgEnv) (opcode : BitVec 16) : DrvM Unit := do
  let args ← nwpIfReadCheck cfg.recvArgsSize
  verifyProtocol (recvSocket cfg args < cfg.slMaxSockets)
  protectionObjLockForever
  let found ← slDrvFindAndSetActiveObj cfg env.pool opcode (recvSocket cfg args)
  if cfg.multiSelect && !found && cfg.recvSd args = env.multiSelectCB.ctrlSockFD then
    readCtrlSock cfg opcode args
    protectionObjUnlock
  else if found then
    readRecvObj cfg env opcode args
    protectionObjUnlock
  else
    protectionObjUnlock
    slDrvGlobalObjUnLock true
    throw .apiAborted

/-- The size of the response payload, `ActDataSize`. -/
def cmdActDataSize (header : RespHeader) (cmdCtrl : CmdCtrl) : BitVec 16 :=
  rspPayloadLen cfg header - cmdCtrl.rxDescLen.setWidth 16

/-- The length copied to the user, who may have room for less. -/
def cmdCopyLen (actDataSize rxPayloadLen : BitVec 16) : BitVec 16 :=
  if rxPayloadLen.toInt < actDataSize.toInt then rxPayloadLen else actDataSize

/-- `ActDataSize` after the tail was read. -/
def cmdRestSize (actDataSize rxPayloadLen : BitVec 16) : BitVec 16 :=
  if 0 < (cmdCopyLen actDataSize rxPayloadLen).toNat % 4 then actDataSize - 4 else actDataSize

/-- The bytes to dump behind what was copied. -/
def cmdDumpLen (actDataSize rxPayloadLen : BitVec 16) : ℕ :=
  wholeWords (cmdRestSize actDataSize rxPayloadLen + 3 - rxPayloadLen)

/-- A response payload for a user buffer of `rxPayloadLen` bytes. -/
def readCmdPayload (actDataSize rxPayloadLen : BitVec 16) : DrvM Unit := do
  readAligned .rxPayload (cmdCopyLen actDataSize rxPayloadLen)
  runIf (rxPayloadLen.toInt < (cmdRestSize actDataSize rxPayloadLen).toInt)
    (dumpWords (cmdDumpLen actDataSize rxPayloadLen / 4))

/-- The part of `CMD_RESP_CLASS` for commands with a response payload. -/
def readCmdExt (actDataSize : BitVec 16) (ext : CmdExt) : DrvM Unit := do
  modifyCB fun cb => { cb with pCmdExt := some { ext with actualRxPayloadLen := actDataSize } }
  if actDataSize.toInt ≤ 0 then
    modifyCB fun cb =>
      { cb with
        pCmdExt := some { ext with actualRxPayloadLen := actDataSize, rxPayloadLen := 0 } }
  else readCmdPayload actDataSize ext.rxPayloadLen

/-- `CMD_RESP_CLASS` -/
def readCmdResp (header : RespHeader) : DrvM Unit := do
  let s ← get
  let _ ← readInto .txRxDescBuff 0 (alignSize s.cb.pCmdCtrl.rxDescLen.toNat)
  match s.cb.pCmdExt with
  | none => pure ()
  | some ext =>
      runIf (ext.rxPayloadLen ≠ 0)
        (readCmdExt (cmdActDataSize cfg header s.cb.pCmdCtrl) ext)

/-- The signals to all waiting select callers. -/
def signalSelectEntries (selectEntry : ℕ → Bool) : ℕ → DrvM Unit
  | 0 => pure ()
  | count + 1 => do
      signalSelectEntries selectEntry count
      runIf (selectEntry count) (emit (.syncSignal (.poolObj count)))

/-- A select response with an error stops all waiting select callers and clears the
table, handles included. -/
def failSelect : DrvM Unit := do
  let s ← get
  signalSelectEntries s.cb.multiSelectCB.selectEntry cfg.maxConcurrentActions
  modifyCB fun cb =>
    { cb with
      multiSelectCB :=
        { ctrlSockFD := 0
          activeSelect := false
          selectEntry := fun _ => false
          readsds := 0
          writesds := 0
          selectCmdRespStatus := 0
          selectLockObj := 0
          selectSyncObj := 0 } }

/-- `MULTI_SELECT_RESP_CLASS` -/
def readMultiSelectResp : DrvM Unit := do
  let bytes ← nwpIfReadCheck (alignSize cfg.basicResponseSize)
  let status := cfg.basicResponseStatus bytes
  modifyCB fun cb =>
    { cb with multiSelectCB := { cb.multiSelectCB with selectCmdRespStatus := status } }
  runIf (status ≠ 0) (failSelect cfg)

/-- What the class of the message asks for. -/
def readPayload (env : MsgEnv) (hdrBytes : List Byte) (header : RespHeader) :
    RxMsgClass → DrvM MsgReadOut
  | .asyncEvt => readAsyncEvt cfg env hdrBytes header
  | .recvResp => do
      readRecvResp cfg env header.opcode
      return { outMsgReadLen := 0, asyncBuf := [] }
  | .cmdResp => do
      readCmdResp cfg header
      return { outMsgReadLen := 0, asyncBuf := [] }
  | .multiSelectResp => do
      readMultiSelectResp cfg
      return { outMsgReadLen := 0, asyncBuf := [] }
  | .dummyMsg => return { outMsgReadLen := 0, asyncBuf := [] }

/-- `_SlDrvMsgRead`; the message finds the interface and the select state as other
contexts left them. -/
def slDrvMsgRead (env : MsgEnv) : DrvM MsgReadOut := do
  modify fun s =>
    { s with rx := env.rx, cb := { s.cb with multiSelectCB := env.multiSelectCB } }
  let hdrBytes ← readHeader env.hdr
  let header := cfg.respHeader hdrBytes
  updateNwpStatus cfg header env.txSyncObjCount
  let rxMsgClass ← slDrvClassifyRxMsg cfg header.opcode
  let out ← readPayload cfg env hdrBytes header rxMsgClass
  emit .unmaskIntHdlr
  return out

end SimpleLinkHost.MsgRead
