import SimpleLinkHost.Driver.MsgWrite

/-!
# Received messages

What the driver does with a message before and while it reads its payload: the
class that an opcode belongs to, the search for the object that waits for it, and
the reading macro, which returns from the enclosing function when the interface
delivers too few bytes.
-/

namespace SimpleLinkHost.RxMsg

open CallOutcome Calls GlobalLock MsgWrite
open Pool (PoolCB)

/-- The opcodes that the message functions compare with. -/
structure Opcodes where
  sync : BitVec 16
  siloOffset : ℕ
  ipv6 : BitVec 16
  deviceDeviceAsyncDummy : BitVec 16
  deviceStopCommand : BitVec 16
  deviceStopAsyncResponse : BitVec 16
  deviceResetRequestAsyncEvent : BitVec 16
  deviceInitComplete : BitVec 16
  wlanProvisioningCommand : BitVec 16
  wlanProvisioningStatusAsyncEvent : BitVec 16
  wlanProvisioningProfileAddedAsyncResponse : BitVec 16
  socketAcceptAsyncResponse : BitVec 16
  socketAcceptAsyncResponseV6 : BitVec 16
  socketConnectAsyncResponse : BitVec 16
  socketSocketCloseAsyncEvent : BitVec 16
  socketSocketAsyncEvent : BitVec 16
  socketRecvAsyncResponse : BitVec 16
  socketRecvFromAsyncResponse : BitVec 16
  socketRecvFromAsyncResponseV6 : BitVec 16
  socketSelect : BitVec 16
  socketSelectResponse : BitVec 16
  socketSelectAsyncResponse : BitVec 16
  netAppDnsGetHostByNameAsyncResponse : BitVec 16
  netAppMdnsGetHostByServiceAsyncResponse : BitVec 16
  netAppPingReportRequestResponse : BitVec 16
  netAppReceive : BitVec 16
  netAppHttpGetTokenValue : BitVec 16
  netAppHttpPostTokenValue : BitVec 16
  netAppRequest : BitVec 16
  netAppResponse : BitVec 16
  netAppSend : BitVec 16
  netUtilCommandAsyncResponse : BitVec 16
  nvmemFileOpen : BitVec 16
  nvmemNvmemFsProgrammingCommand : BitVec 16
  siloFS : BitVec 16

/-- `_SlResponseHeader_t` -/
structure RespHeader where
  opcode : BitVec 16
  len : BitVec 16
  txPoolCnt : Byte
  devStatus : Byte
  minMaxPayload : BitVec 16
  socketTXFailure : BitVec 16
  socketNonBlocking : BitVec 16

/-- A row of `_SlActionLookupTable` without its action id. -/
structure ActionRow where
  actionAsyncOpcode : BitVec 16
  asyncEventHandler : Option EvtHandler

/-- The build: constants of the SDK and the readers of its packed structures. -/
structure RxConfig extends ProtocolConfig where
  opcodes : Opcodes
  /-- Multi-threaded without a trigger-select handler. -/
  multiSelect : Bool
  flowContMin : ℕ
  maxConcurrentActions : ℕ
  slMaxSockets : ℕ
  slBsdSocketIdMask : ℕ
  maxSocketEnumIdx : ℕ
  recvId : ℕ
  slNetAppFamilyMask : ℕ
  respHdrSize : ℕ
  respSpecHdrSize : BitVec 16
  slAsyncMaxMsgLen : ℕ
  slAsyncMaxPayloadLen : ℕ
  slAsyncMaxPayloadLen_aligned : 4 ∣ slAsyncMaxPayloadLen
  recvArgsSize : ℕ
  recvFromIpv4ArgsSize : ℕ
  recvFromIpv6ArgsSize : ℕ
  basicResponseSize : ℕ
  slDriverTimeoutShort : ℕ
  slDriverTimeoutLong : ℕ
  respHeader : List Byte → RespHeader
  /-- `Sd` of `SlSocketResponse_t` -/
  socketResponseSd : List Byte → Byte
  /-- `Sd` of `SlSocketAsyncEvent_t` -/
  socketAsyncEventSd : List Byte → Byte
  /-- `SD` on the arguments of a receive -/
  recvSd : List Byte → Byte
  /-- `ACT_DATA_SIZE` -/
  actDataSize : List Byte → BitVec 16
  /-- `status` of `_BasicResponse_t` -/
  basicResponseStatus : List Byte → BitVec 16
  /-- `InactivityTimeoutSec` of `SlWlanProvisioningParams_t` -/
  inactivityTimeoutSec : (ℕ → Byte) → BitVec 16
  /-- `RxMsgClassLUT` -/
  rxMsgClassLUT : ℕ → Option EvtHandler
  /-- What lies outside `_SlActionLookupTable` at a row number. -/
  beyondActionTable : ℤ → ActionRow

variable (cfg : RxConfig)

/-- `_SlActionLookupTable` -/
def slActionLookupTable : List ActionRow :=
  [ ⟨cfg.opcodes.socketAcceptAsyncResponse, some (.action 0)⟩,
    ⟨cfg.opcodes.socketConnectAsyncResponse, some (.action 1)⟩,
    ⟨cfg.opcodes.socketSelectAsyncResponse, some (.action 2)⟩,
    ⟨cfg.opcodes.netAppDnsGetHostByNameAsyncResponse, some (.action 3)⟩,
    ⟨cfg.opcodes.netAppMdnsGetHostByServiceAsyncResponse, some (.action 4)⟩,
    ⟨cfg.opcodes.netAppPingReportRequestResponse, some (.action 5)⟩,
    ⟨cfg.opcodes.netAppReceive, some (.action 6)⟩,
    ⟨cfg.opcodes.deviceStopAsyncResponse, some (.action 7)⟩,
    ⟨cfg.opcodes.netUtilCommandAsyncResponse, some (.action 8)⟩,
    ⟨cfg.opcodes.socketSocketCloseAsyncEvent, some (.action 9)⟩ ]

/-- The row that the action id of a pool object selects, checked by nothing. -/
def actionRow (actionID : ℕ) : ActionRow :=
  if cfg.maxSocketEnumIdx ≤ actionID then
    ((slActionLookupTable cfg)[actionID - cfg.maxSocketEnumIdx]?).getD
      (cfg.beyondActionTable ((actionID : ℤ) - cfg.maxSocketEnumIdx))
  else cfg.beyondActionTable ((actionID : ℤ) - cfg.maxSocketEnumIdx)

def isRecvOpcode (opcode : BitVec 16) : Bool :=
  opcode = cfg.opcodes.socketRecvAsyncResponse
    || opcode = cfg.opcodes.socketRecvFromAsyncResponse
    || opcode = cfg.opcodes.socketRecvFromAsyncResponseV6

/-- The class of `_SlDrvClassifyRxMsg`. -/
def rxMsgClassOf (opcode cmdOpcode : BitVec 16) : RxMsgClass :=
  if cfg.opcodes.sync &&& opcode = 0 then
    if opcode = cfg.opcodes.deviceDeviceAsyncDummy then .dummyMsg
    else if isRecvOpcode cfg opcode then .recvResp
    else .asyncEvt
  else if cfg.multiSelect && opcode = cfg.opcodes.socketSelectResponse
      && cmdOpcode ≠ cfg.opcodes.socketSelect then .multiSelectResp
  else .cmdResp

/-- The handler of `_SlDrvClassifyRxMsg` for an event. -/
def asyncEvtHandlerOf (opcode : BitVec 16) : Option EvtHandler :=
  if opcode = cfg.opcodes.netAppHttpGetTokenValue
      || opcode = cfg.opcodes.netAppHttpPostTokenValue
      || opcode = cfg.opcodes.netAppRequest || opcode = cfg.opcodes.netAppResponse
      || opcode = cfg.opcodes.netAppSend then some .netApp
  else if opcode = cfg.opcodes.netAppPingReportRequestResponse then some .pingResponse
  else cfg.rxMsgClassLUT ((opcode >>> cfg.opcodes.siloOffset).toNat % 8)

/-- `_SlDrvClassifyRxMsg` -/
def slDrvClassifyRxMsg (opcode : BitVec 16) : DrvM RxMsgClass := do
  let s ← get
  let rxMsgClass := rxMsgClassOf cfg opcode s.cb.pCmdCtrl.opcode
  modifyCB fun cb =>
    { cb with
      asyncExt :=
        { cb.asyncExt with
          rxMsgClass := rxMsgClass
          asyncEvtHandler :=
            if rxMsgClass = .asyncEvt then asyncEvtHandlerOf cfg opcode else none } }
  return rxMsgClass

/-- How the search of `_SlDrvFindAndSetActiveObj` ends. -/
inductive ActiveObj
  | notSet
  | recv (index : ℕ)
  | action (index : ℕ) (handler : Option EvtHandler)
  /-- The links form a cycle without a match. -/
  | endless
deriving DecidableEq

/-- The opcode with which an object and those behind it are compared. -/
def familyOpcode (opcode : BitVec 16) (additionalData : ℕ) : BitVec 16 :=
  if additionalData &&& cfg.slNetAppFamilyMask ≠ 0 then opcode &&& ~~~cfg.opcodes.ipv6
  else opcode

/-- The test of one object for a socket-related or socketless action. -/
def actionMatches (pool : PoolCB) (opcode : BitVec 16) (sd index : ℕ) : Bool :=
  let objSd := (pool.objPool index).additionalData &&& cfg.slBsdSocketIdMask
  (actionRow cfg (pool.objPool index).actionID).actionAsyncOpcode = opcode
    && (sd = objSd && sd < cfg.slMaxSockets || cfg.slMaxSockets = objSd)

/-- The loop of `_SlDrvFindAndSetActiveObj`.  The opcode loses its family bit at
most once, so that no object is looked at more than twice before the loop repeats
itself. -/
def findActiveObj (pool : PoolCB) (sd : ℕ) : ℕ → ℕ → BitVec 16 → ActiveObj
  | 0, _, _ => .endless
  | steps + 1, index, opcode =>
      if cfg.maxConcurrentActions ≤ index then .notSet
      else
        let obj := pool.objPool index
        let opcode := familyOpcode cfg opcode obj.additionalData
        if obj.actionID = cfg.recvId && sd = obj.additionalData && isRecvOpcode cfg opcode then
          .recv index
        else if actionMatches cfg pool opcode sd index then
          .action index (actionRow cfg obj.actionID).asyncEventHandler
        else findActiveObj pool sd steps obj.nextIndex opcode

def activeObjOf (pool : PoolCB) (opcode : BitVec 16) (sd : ℕ) : ActiveObj :=
  findActiveObj cfg pool sd (2 * cfg.maxConcurrentActions + 1) pool.activePoolIdx opcode

/-- `_SlDrvFindAndSetActiveObj` on the pool as it is under the protection lock; tells
whether an object was found. -/
def slDrvFindAndSetActiveObj (pool : PoolCB) (opcode : BitVec 16) (sd : ℕ) : DrvM Bool :=
  match activeObjOf cfg pool opcode sd with
  | .notSet => return false
  | .recv index => do
      modifyCB fun cb => { cb with asyncExt := { cb.asyncExt with actionIndex := index } }
      return true
  | .action index handler => do
      modifyCB fun cb =>
        { cb with
          asyncExt :=
            { cb.asyncExt with asyncEvtHandler := handler, actionIndex := index } }
      return true
  | .endless => throw .noReturn

/-- `NWP_IF_READ_CHECK` -/
def nwpIfReadCheck (count : ℕ) : DrvM (List Byte) := do
  let s ← get
  if count ≤ s.rx.length then
    set { s with rx := s.rx.drop count }
    emit (.ifRead count)
    return s.rx.take count
  else
    set { s with rx := [] }
    emit (.fatalError .driverAbort)
    throw .apiAborted

/-- `NWP_IF_READ_CHECK` into a buffer. -/
def readInto (buffer : Buffer) (offset count : ℕ) : DrvM (List Byte) := do
  let bytes ← nwpIfReadCheck count
  emit (.memWrite buffer offset bytes)
  return bytes

/-- A read that is made only if there is something to read. -/
def readIntoIf (cond : Bool) (buffer : Buffer) (offset count : ℕ) : DrvM (List Byte) :=
  if cond then readInto buffer offset count else return []

/-- The loops that read on into `TailBuffer`, four bytes at a time. -/
def dumpWords : ℕ → DrvM Unit
  | 0 => pure ()
  | words + 1 => do
      let _ ← nwpIfReadCheck 4
      dumpWords words

/-- The part of a length that fills whole words. -/
def wholeWords (len : BitVec 16) : ℕ := len.toNat / 4 * 4

/-- The unaligned part of a buffer: one word is read, and the first bytes are
copied behind the aligned part. -/
def readTail (buffer : Buffer) (len : BitVec 16) : DrvM Unit := do
  let tailBuffer ← nwpIfReadCheck 4
  emit (.memWrite buffer (wholeWords len) (tailBuffer.take (len.toNat % 4)))

/-- `len` bytes into a buffer, the last incomplete word through `TailBuffer`. -/
def readAligned (buffer : Buffer) (len : BitVec 16) : DrvM Unit := do
  let _ ← readIntoIf (4 ≤ wholeWords len) buffer 0 (wholeWords len)
  runIf (0 < len.toNat % 4) (readTail buffer len)

end SimpleLinkHost.RxMsg
