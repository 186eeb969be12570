import SimpleLinkHost.Core.WhileLoop
import SimpleLinkHost.Driver.MsgRead

/-!
# Reading a header

`_SlDrvRxHdrRead` looks for the sync pattern in the bytes that the interface delivers and reads
the header behind it.  It skips repeated words, slides a window of eight bytes over the stream
until some four of them match, and then drops further copies of the pattern.  The first two
loops poll a timeout.
-/

namespace SimpleLinkHost.RxHdr

open CallOutcome WhileLoop
open Calls (Byte FatalError RetCode)

/-- The SDK's `N2H_SYNC_PATTERN`. -/
structure SyncConfig where
  n2hSyncPattern : BitVec 32

/-- What one call meets: the bytes that the interface delivers, how many of them before a read
falls short, the result of each poll of the timeout, and that of the write in SPI mode.  In a
build without `slcb_GetTimestamp` no poll tells of an expired timeout. -/
structure HdrEnv where
  stream : ℕ → Byte
  delivered : Option ℕ
  expired : ℕ → Bool
  cnysWritten : Bool

/-- The values of the local variable `TimeoutState`. -/
inductive TimeoutState
  | initVal
  | oneMoreShot
  | expiry
deriving DecidableEq

/-- The memory, the interface and the local variables during a call, and the windows that were
compared with the sync pattern in the scan. -/
structure HdrState where
  pBuf : ℕ → Byte
  taken : ℕ
  polls : ℕ
  txSeqNum : Byte
  searchSync : Bool
  timeoutState : TimeoutState
  fatalErrors : List FatalError
  examined : List (BitVec 32)

abbrev HdrM := EStateM RetCode HdrState

/-- A call that has just begun. -/
def start (pBuf : ℕ → Byte) (txSeqNum : Byte) : HdrState where
  pBuf := pBuf
  taken := 0
  polls := 0
  txSeqNum := txSeqNum
  searchSync := true
  timeoutState := .initVal
  fatalErrors := []
  examined := []

section Words

/-- `*(_u32 *)` on a little-endian processor. -/
def word (buffer : ℕ → Byte) (offset : ℕ) : BitVec 32 :=
  BitVec.ofNat 32 ((buffer offset).toNat + 2 ^ 8 * (buffer (offset + 1)).toNat
    + 2 ^ 16 * (buffer (offset + 2)).toNat + 2 ^ 24 * (buffer (offset + 3)).toNat)

/-- Memory with `count` bytes at `offset` replaced. -/
def overwrite (buffer : ℕ → Byte) (offset count : ℕ) (bytes : ℕ → Byte) (index : ℕ) : Byte :=
  if offset ≤ index ∧ index < offset + count then bytes (index - offset) else buffer index

/-- `N2H_SYNC_PATTERN_SEQ_NUM_BITS` -/
def seqNumBits : BitVec 32 := 0x00000003

/-- `N2H_SYNC_PATTERN_SEQ_NUM_EXISTS` -/
def seqNumExists : BitVec 32 := 0x00000004

/-- `N2H_SYNC_PATTERN_MASK` -/
def syncPatternMask : BitVec 32 := 0xFFFFFFF8

/-- `N2H_SYNC_SPI_BUGS_MASK` -/
def spiBugsMask : BitVec 32 := 0x7FFF7F7F

/-- `SYNC_PATTERN_LEN` -/
def syncPatternLen : ℕ := 4

/-- `_SL_RESP_SPEC_HDR_SIZE` -/
def respSpecHdrSize : ℕ := 8

/-- `_SL_RESP_HDR_SIZE` -/
def respHdrSize : ℕ := syncPatternLen + respSpecHdrSize

variable (cfg : SyncConfig)

/-- `N2H_SYNC_SPIM` -/
def syncSpim : BitVec 32 := cfg.n2hSyncPattern &&& spiBugsMask

/-- `N2H_SYNC_SPIM_WITH_SEQ` -/
def syncSpimWithSeq (txSeqNum : Byte) : BitVec 32 :=
  (syncSpim cfg &&& syncPatternMask) ||| seqNumExists ||| (txSeqNum.setWidth 32 &&& seqNumBits)

/-- `N2H_SYNC_PATTERN_MATCH` -/
def syncPatternMatch (window : BitVec 32) (txSeqNum : Byte) : Bool :=
  (window &&& seqNumExists ≠ 0 && window &&& spiBugsMask = syncSpimWithSeq cfg txSeqNum)
    || (window &&& seqNumExists = 0 && window &&& spiBugsMask = syncSpim cfg)

end Words

section Function

variable (cfg : SyncConfig) (env : HdrEnv)

/-- The interface has `count` bytes before a read falls short. -/
def delivers (count : ℕ) : Bool := env.delivered.all fun delivered => count ≤ delivered

/-- `NWP_IF_READ_CHECK` into the buffer. -/
def nwpIfReadCheck (offset count : ℕ) : HdrM PUnit := do
  let s ← get
  if delivers env (s.taken + count) then
    set { s with
      pBuf := overwrite s.pBuf offset count fun index => env.stream (s.taken + index)
      taken := s.taken + count }
  else
    set { s with fatalErrors := s.fatalErrors ++ [FatalError.driverAbort] }
    throw .apiAborted

/-- `_SlDrvIsTimeoutExpired` -/
def isTimeoutExpired : HdrM Bool := do
  let s ← get
  set { s with polls := s.polls + 1 }
  return env.expired s.polls

/-- The body of the loop over words that repeat. -/
def readRepeated : HdrM PUnit := do
  nwpIfReadCheck env syncPatternLen 4
  let expired ← isTimeoutExpired env
  if expired then throw .apiAborted else pure ⟨⟩

/-- The pattern was found at `shiftIdx`: the bytes behind it become the begin of the buffer, and
their last word is completed. -/
def acceptSync (shiftIdx : ℕ) : HdrM PUnit := do
  modify fun s =>
    { s with
      pBuf := overwrite s.pBuf 0 4 fun index => s.pBuf (shiftIdx + syncPatternLen + index) }
  runIf (shiftIdx ≠ 0) (nwpIfReadCheck env (syncPatternLen - shiftIdx) shiftIdx)
  modify fun s => { s with searchSync := false }

/-- The `for` loop over the shifts. -/
def scanShifts : List ℕ → HdrM PUnit
  | [] => pure ⟨⟩
  | shiftIdx :: rest => do
      let s ← get
      modify fun s => { s with examined := s.examined ++ [word s.pBuf shiftIdx] }
      if syncPatternMatch cfg (word s.pBuf shiftIdx) s.txSeqNum then acceptSync env shiftIdx
      else scanShifts rest

/-- The sync pattern was not found: the upper word moves down, and the next is read. -/
def slide : HdrM PUnit := do
  modify fun s => { s with pBuf := overwrite s.pBuf 0 4 fun index => s.pBuf (4 + index) }
  nwpIfReadCheck env syncPatternLen 4

/-- The end of a pass: the one after the first expired poll is the last. -/
def pollTimeout : HdrM PUnit := do
  let s ← get
  if s.timeoutState = .oneMoreShot then set { s with timeoutState := .expiry }
  else do
    let expired ← isTimeoutExpired env
    runIf expired (modify fun s => { s with timeoutState := .oneMoreShot })

/-- The body of the scan loop. -/
def scanPass : HdrM PUnit := do
  scanShifts cfg env [0, 1, 2, 3, 4]
  let s ← get
  runIf s.searchSync (slide env)
  pollTimeout env

/-- The first word of the buffer is read twice. -/
def repeats (s : HdrState) : Bool := word s.pBuf 0 = word s.pBuf 4

/-- `SearchSync && TimeoutState` -/
def searching (s : HdrState) : Bool := s.searchSync && s.timeoutState ≠ .expiry

/-- The buffer begins with one more sync pattern. -/
def doubled (s : HdrState) : Bool := syncPatternMatch cfg (word s.pBuf 0) s.txSeqNum

/-- `_SlDrvRxHdrRead`, with each of its loops run for at most `fuel` rounds. -/
def slDrvRxHdrRead (fuel : ℕ) : HdrM PUnit := do
  runIf (env.cnysWritten = false) (do
    modify fun s => { s with fatalErrors := s.fatalErrors ++ [FatalError.driverAbort] }
    throw .apiAborted)
  nwpIfReadCheck env 0 8
  whileLoop .noReturn repeats (readRepeated env) fuel
  whileLoop .noReturn searching (scanPass cfg env) fuel
  let s ← get
  runIf (s.timeoutState = .expiry) (throw .apiAborted)
  whileLoop .noReturn (doubled cfg) (nwpIfReadCheck env 0 syncPatternLen) fuel
  modify fun s => { s with txSeqNum := s.txSeqNum + 1 }
  nwpIfReadCheck env syncPatternLen respSpecHdrSize

end Function

end SimpleLinkHost.RxHdr
