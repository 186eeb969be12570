import SimpleLinkHost.Driver.CmdSequence
import SimpleLinkHost.Driver.Delivery

/-!
# The payload of an event

The `ASYNC_EVT_CLASS` branch of `_SlDrvMsgRead` with the 16-bit variables of the source: the
clamp of the length, the loop that dumps what does not fit, and the length that the branch
reports.  None of them wraps, so the branch is the one with unbounded numbers.
-/

namespace SimpleLinkHost.AsyncPayload

open CallOutcome ProgramInvariant Calls GlobalLock MsgWrite RxMsg MsgRead MsgFate CmdSequence
open Delivery

section Branch

variable (cfg : RxConfig)

/-- The loop that dumps the rest, run for at most `fuel` rounds. -/
def dumpRest : ℕ → BitVec 16 → DrvM Unit
  | 0, alignedLengthRecv => if 0 < alignedLengthRecv then throw .noReturn else pure ()
  | fuel + 1, alignedLengthRecv =>
      if 0 < alignedLengthRecv then do
        let _ ← nwpIfReadCheck 4
        dumpRest fuel (alignedLengthRecv - 4)
      else pure ()

/-- `AlignedLengthRecv` of the read into the buffer. -/
def storeLengthRecv (respPayloadLen : BitVec 16) : BitVec 16 :=
  if alignSize respPayloadLen.toNat ≤ cfg.slAsyncMaxPayloadLen then
    BitVec.ofNat 16 (alignSize respPayloadLen.toNat)
  else BitVec.ofNat 16 (alignSize cfg.slAsyncMaxPayloadLen)

/-- `AlignedLengthRecv` of the loop behind it. -/
def dumpLengthRecv (respPayloadLen : BitVec 16) : BitVec 16 :=
  BitVec.ofNat 16 (alignSize respPayloadLen.toNat - cfg.slAsyncMaxPayloadLen)

/-- `*outMsgReadLen` and `*pOutAsyncBuf` -/
structure AsyncOut where
  outMsgReadLen : BitVec 16
  asyncBuf : List Byte

/-- What the branch reports of an event that was read. -/
def AsyncOut.of (out : MsgReadOut) : AsyncOut where
  outMsgReadLen := BitVec.ofNat 16 out.outMsgReadLen
  asyncBuf := out.asyncBuf

/-- The payload, and the length that is added to `*outMsgReadLen`. -/
def readEvtPayload (respPayloadLen : BitVec 16) (fuel : ℕ) : DrvM (List Byte × BitVec 16) := do
  let payload ← readIntoIf (0 < respPayloadLen.toNat) .asyncBuf cfg.respHdrSize
    (storeLengthRecv cfg respPayloadLen).toNat
  runIf (cfg.slAsyncMaxPayloadLen < alignSize respPayloadLen.toNat)
    (dumpRest fuel (dumpLengthRecv cfg respPayloadLen))
  return (payload, if 0 < respPayloadLen.toNat then storeLengthRecv cfg respPayloadLen else 0)

/-- `ASYNC_EVT_CLASS` -/
def asyncEvtClass (env : MsgEnv) (hdrBytes : List Byte) (header : RespHeader) (fuel : ℕ) :
    DrvM AsyncOut := do
  emit .malloc
  returnIf (!env.asyncBufAllocated) .mallocError
  emit (.memWrite .asyncBuf 0 (List.replicate cfg.slAsyncMaxMsgLen 0))
  emit (.memWrite .asyncBuf 0 hdrBytes)
  let (payload, added) ← readEvtPayload cfg (rspPayloadLen cfg header) fuel
  protectionObjLockForever
  let _ ← slDrvFindAndSetActiveObj cfg env.pool header.opcode
    (asyncEvtSd cfg header.opcode payload)
  protectionObjUnlock
  return {
    outMsgReadLen := BitVec.ofNat 16 cfg.respHdrSize + added
    asyncBuf := hdrBytes ++ payload }

end Branch

section Widths

variable {cfg : RxConfig}

/-- The sizes of the SDK fit 16 bits, and a buffer has room for a payload. -/
structure AsyncSizes (cfg : RxConfig) : Prop where
  payload_pos : 0 < cfg.slAsyncMaxPayloadLen
  msgLen_eq : cfg.slAsyncMaxMsgLen = cfg.slAsyncMaxPayloadLen + cfg.respHdrSize
  msgLen_lt : cfg.slAsyncMaxMsgLen < 2 ^ 16

theorem dumpRest_eq {words fuel : ℕ} (hwords : 4 * words < 2 ^ 16) (hfuel : words ≤ fuel) :
    dumpRest fuel (BitVec.ofNat 16 (4 * words)) = dumpWords words := by
  induction words generalizing fuel with
  | zero => cases fuel <;> rfl
  | succ words ih =>
      cases fuel with
      | zero => exact absurd hfuel (Nat.not_succ_le_zero words)
      | succ fuel =>
          have hpos : 0 < BitVec.ofNat 16 (4 * (words + 1)) := by
            rw [BitVec.lt_def, BitVec.toNat_ofNat, Nat.mod_eq_of_lt hwords]
            exact Nat.mul_pos (by decide) (Nat.succ_pos words)
          have hrest : BitVec.ofNat 16 (4 * (words + 1)) - 4 = BitVec.ofNat 16 (4 * words) := by
            apply BitVec.eq_of_toNat_eq
            rw [BitVec.toNat_sub, BitVec.toNat_ofNat, BitVec.toNat_ofNat]
            simp only [BitVec.reduceToNat]
            omega
          rw [dumpRest, if_pos hpos, hrest, ih (by omega) (by omega)]
          rfl

theorem storeLengthRecv_toNat (hsizes : AsyncSizes cfg) (respPayloadLen : BitVec 16) :
    (storeLengthRecv cfg respPayloadLen).toNat = asyncStoredLen cfg respPayloadLen := by
  have hmsgLen := hsizes.msgLen_eq
  have hlt := hsizes.msgLen_lt
  rw [storeLengthRecv, asyncStoredLen, alignSize_eq_of_dvd cfg.slAsyncMaxPayloadLen_aligned]
  split
  · rw [BitVec.toNat_ofNat, Nat.mod_eq_of_lt (by omega)]
  · rw [BitVec.toNat_ofNat, Nat.mod_eq_of_lt (by omega)]

theorem dumpRest_dumpLengthRecv (hsizes : AsyncSizes cfg) (respPayloadLen : BitVec 16) {fuel : ℕ}
    (hfuel : 2 ^ 14 ≤ fuel) :
    dumpRest fuel (dumpLengthRecv cfg respPayloadLen) =
      dumpWords ((alignSize respPayloadLen.toNat - cfg.slAsyncMaxPayloadLen) / 4) := by
  have hpos := hsizes.payload_pos
  have hlt := respPayloadLen.isLt
  have hdvd := dvd_alignSize respPayloadLen.toNat
  have hmaxDvd := cfg.slAsyncMaxPayloadLen_aligned
  have hle : alignSize respPayloadLen.toNat ≤ 2 ^ 16 := by
    rw [alignSize]
    omega
  have hwords : alignSize respPayloadLen.toNat - cfg.slAsyncMaxPayloadLen =
      4 * ((alignSize respPayloadLen.toNat - cfg.slAsyncMaxPayloadLen) / 4) := by
    omega
  rw [dumpLengthRecv]
  conv_lhs => rw [hwords]
  exact dumpRest_eq (by omega) (by omega)

/-- What `readIntoIf` returns has the length that it asks for. -/
theorem ensures_length_readIntoIf (cond : Bool) (buffer : Buffer) (offset count : ℕ)
    (s : DrvState) :
    Ensures (readIntoIf cond buffer offset count) s fun bytes _ =>
      bytes.length = if cond then count else 0 := by
  apply (reads_readIntoIf cond buffer offset count).ends.mono
  · intro bytes after hafter
    rw [hafter.2.2, List.length_take_of_le (by omega)]
  · exact fun _ _ _ => trivial

theorem readEvtPayload_eq (hsizes : AsyncSizes cfg) (respPayloadLen : BitVec 16) {fuel : ℕ}
    (hfuel : 2 ^ 14 ≤ fuel) :
    readEvtPayload cfg respPayloadLen fuel =
      (fun payload => (payload, BitVec.ofNat 16 payload.length)) <$>
        readAsyncPayload cfg respPayloadLen := by
  rw [readEvtPayload, readAsyncPayload, map_bind, storeLengthRecv_toNat hsizes,
    dumpRest_dumpLengthRecv hsizes respPayloadLen hfuel]
  apply bind_congr_of_ensures (ensures_length_readIntoIf _ _ _ _)
  intro payload hlength
  have hadded : (if 0 < respPayloadLen.toNat then storeLengthRecv cfg respPayloadLen else 0) =
      BitVec.ofNat 16 payload.length := by
    rw [hlength]
    simp only [decide_eq_true_eq]
    split
    · rw [← storeLengthRecv_toNat hsizes, BitVec.ofNat_toNat, BitVec.setWidth_eq]
    · rfl
  rw [hadded, map_bind]
  rfl

/-- The 16-bit variables hold the numbers of the branch. -/
theorem asyncEvtClass_eq (hsizes : AsyncSizes cfg) (env : MsgEnv) (hdrBytes : List Byte)
    (header : RespHeader) {fuel : ℕ} (hfuel : 2 ^ 14 ≤ fuel) :
    asyncEvtClass cfg env hdrBytes header fuel =
      AsyncOut.of <$> readAsyncEvt cfg env hdrBytes header := by
  rw [asyncEvtClass, readAsyncEvt, readEvtPayload_eq hsizes _ hfuel]
  simp only [map_bind, bind_map_left, map_pure, AsyncOut.of, BitVec.ofNat_add]

end Widths

section Stored

variable {cfg : RxConfig} {env : MsgEnv} {hdrBytes : List Byte} {respPayloadLen : BitVec 16}
variable {s : DrvState}

/-- The bytes of the payload that the buffer has room for. -/
def storedLen (cfg : RxConfig) (respPayloadLen : BitVec 16) : ℕ :=
  min (alignSize respPayloadLen.toNat) cfg.slAsyncMaxPayloadLen

/-- Between two states an event was read: the payload in whole words, of which the buffer has
what fits behind the header, and nothing behind its end. -/
structure EvtRead (cfg : RxConfig) (hdrBytes : List Byte) (respPayloadLen : BitVec 16)
    (s after : DrvState) : Prop where
  rx : after.rx = s.rx.drop (alignSize respPayloadLen.toNat)
  bytes : ∀ index, bufferAt .asyncBuf after.acts index =
    if index < cfg.respHdrSize then hdrBytes[index]?
    else if index < cfg.respHdrSize + storedLen cfg respPayloadLen then
      s.rx[index - cfg.respHdrSize]?
    else if index < cfg.slAsyncMaxMsgLen then some 0
    else bufferAt .asyncBuf s.acts index

theorem storedLen_eq (respPayloadLen : BitVec 16) :
    (if 0 < respPayloadLen.toNat then asyncStoredLen cfg respPayloadLen else 0) =
      storedLen cfg respPayloadLen := by
  rw [asyncStoredLen, storedLen, alignSize_eq_of_dvd cfg.slAsyncMaxPayloadLen_aligned]
  split
  · split <;> omega
  · rename_i hzero
    have hnone : alignSize respPayloadLen.toNat = 0 := by
      rw [alignSize]
      omega
    rw [hnone, Nat.zero_min]

theorem completes_readAsyncPayload (hrx : alignSize respPayloadLen.toNat ≤ s.rx.length) :
    Completes (readAsyncPayload cfg respPayloadLen) s fun payload after =>
      payload.length = storedLen cfg respPayloadLen ∧
        Fills .asyncBuf s (alignSize respPayloadLen.toNat) cfg.respHdrSize
          (storedLen cfg respPayloadLen) after := by
  have hsum := asyncStoredLen_add cfg respPayloadLen
  rw [storedLen_eq] at hsum
  have hempty : decide (0 < respPayloadLen.toNat) = false →
      asyncStoredLen cfg respPayloadLen = 0 := by
    rw [decide_eq_false_iff_not, Nat.not_lt, Nat.le_zero]
    intro hzero
    rw [asyncStoredLen, hzero]
    exact if_pos (Nat.zero_le _)
  have hstored : asyncStoredLen cfg respPayloadLen = storedLen cfg respPayloadLen := by
    rw [← storedLen_eq]
    split
    · rfl
    · rename_i hlen
      exact hempty (decide_eq_false hlen)
  have hfills : Completes (readIntoIf (0 < respPayloadLen.toNat) .asyncBuf cfg.respHdrSize
      (asyncStoredLen cfg respPayloadLen)) s _ :=
    completes_readIntoIf cfg.respHdrSize hempty (by omega)
  have hlength := ensures_length_readIntoIf (0 < respPayloadLen.toNat) .asyncBuf cfg.respHdrSize
    (asyncStoredLen cfg respPayloadLen) s
  simp only [decide_eq_true_eq, storedLen_eq] at hlength
  rw [hstored] at hfills hlength
  rw [Completes, readAsyncPayload, hstored, ends_bind]
  apply (Ends.and hfills hlength).mono
  · intro payload read hboth
    obtain ⟨hread, hpayload⟩ := hboth
    rw [ends_bind, ends_runIf]
    split
    · rename_i hmore
      rw [if_pos hmore] at hsum
      have hleft : 4 * ((alignSize respPayloadLen.toNat - cfg.slAsyncMaxPayloadLen) / 4) ≤
          read.rx.length := by
        rw [hread.rx, List.length_drop]
        omega
      apply Ends.mono (completes_dumpWords .asyncBuf _ hleft)
      · intro _ dumped hdumped
        refine ⟨hpayload, ?_, hdumped.cb.trans hread.cb, fun index => ?_⟩
        · rw [hdumped.rx, hread.rx, List.drop_drop, hsum]
        · rw [hdumped.bytes, hread.bytes]
      · exact fun _ _ hfalse => hfalse.elim
    · rename_i hmore
      rw [if_neg hmore, Nat.add_zero] at hsum
      exact ⟨hpayload, hsum ▸ hread.rx, hread.cb, hread.bytes⟩
  · exact fun _ _ hfalse => hfalse.1

theorem completes_readAsyncEvt {active : List ℕ} (hsizes : AsyncSizes cfg)
    (hlength : hdrBytes.length = cfg.respHdrSize) (hallocated : env.asyncBufAllocated = true)
    (hlinked : IndexList.Linked env.pool.next cfg.maxConcurrentActions env.pool.activePoolIdx
      active)
    {header : RespHeader} (hrx : alignSize (rspPayloadLen cfg header).toNat ≤ s.rx.length) :
    Completes (readAsyncEvt cfg env hdrBytes header) s fun out after =>
      EvtRead cfg hdrBytes (rspPayloadLen cfg header) s after ∧
        out.outMsgReadLen = cfg.respHdrSize + storedLen cfg (rspPayloadLen cfg header) := by
  have hmsgLen := hsizes.msgLen_eq
  have hle : storedLen cfg (rspPayloadLen cfg header) ≤ cfg.slAsyncMaxPayloadLen :=
    Nat.min_le_right _ _
  rw [Completes, readAsyncEvt, ends_bind, ends_emit, ends_bind, ends_returnIf, hallocated,
    if_neg (by decide), ends_bind, ends_emit, ends_bind, ends_emit]
  generalize hcopied : (((s.after .malloc).after _).after _) = copied
  have hcopiedRx : copied.rx = s.rx := by rw [← hcopied]; rfl
  have hcopiedBytes : ∀ index, bufferAt .asyncBuf copied.acts index =
      if index < cfg.respHdrSize then hdrBytes[index]?
      else if index < cfg.slAsyncMaxMsgLen then some 0
      else bufferAt .asyncBuf s.acts index := by
    intro index
    rw [← hcopied, bufferAt_memWrite, bufferAt_memWrite, bufferAt_after_of_not_writesTo rfl,
      hlength, List.length_replicate]
    simp only [Nat.zero_le, true_and, Nat.zero_add, Nat.sub_zero]
    split
    · rfl
    · split
      · rename_i hindex
        exact List.getElem?_replicate_of_lt hindex
      · rfl
  rw [ends_bind]
  apply Ends.mono (completes_readAsyncPayload (hcopiedRx ▸ hrx))
  · intro payload read hread
    obtain ⟨hpayload, hfills⟩ := hread
    rw [protectionObjLockForever, ends_bind, ends_emit, ends_bind]
    apply ((ends_slDrvFindAndSetActiveObj cfg env.pool header.opcode
      (asyncEvtSd cfg header.opcode payload)).and
        (ensures_slDrvFindAndSetActiveObj cfg env.pool header.opcode _)).mono
    · intro _ found hfound
      have hfoundRx : found.rx = read.rx := by
        rw [hfound.2]
        rfl
      have hfoundActs : found.acts = (read.after (.lock .protectionLockObj)).acts := by
        rw [hfound.2]
        rfl
      rw [protectionObjUnlock, ends_bind, ends_emit]
      refine ⟨⟨?_, fun index => ?_⟩, congrArg (cfg.respHdrSize + ·) hpayload⟩
      · change found.rx = _
        rw [hfoundRx, ← hcopiedRx]
        exact hfills.rx
      · rw [bufferAt_after_of_not_writesTo rfl, hfoundActs, bufferAt_after_of_not_writesTo rfl,
          hfills.bytes, hcopiedBytes, hcopiedRx]
        split_ifs <;> first | rfl | omega
    · intro ret found hfound
      exact absurd hfound.1.1 (activeObjOf_ne_endless cfg hlinked _ _)
  · exact fun _ _ hfalse => hfalse.elim

/-- An event is read up to its end, stored as far as the buffer goes, and reported with what is
stored of it. -/
theorem completes_asyncEvtClass {active : List ℕ} (hsizes : AsyncSizes cfg)
    (hlength : hdrBytes.length = cfg.respHdrSize) (hallocated : env.asyncBufAllocated = true)
    (hlinked : IndexList.Linked env.pool.next cfg.maxConcurrentActions env.pool.activePoolIdx
      active)
    {header : RespHeader} (hrx : alignSize (rspPayloadLen cfg header).toNat ≤ s.rx.length)
    {fuel : ℕ} (hfuel : 2 ^ 14 ≤ fuel) :
    Completes (asyncEvtClass cfg env hdrBytes header fuel) s fun out after =>
      EvtRead cfg hdrBytes (rspPayloadLen cfg header) s after ∧
        out.outMsgReadLen.toNat = cfg.respHdrSize + storedLen cfg (rspPayloadLen cfg header) := by
  have hmsgLen := hsizes.msgLen_eq
  have hlt := hsizes.msgLen_lt
  have hle : storedLen cfg (rspPayloadLen cfg header) ≤ cfg.slAsyncMaxPayloadLen :=
    Nat.min_le_right _ _
  rw [asyncEvtClass_eq hsizes env hdrBytes header hfuel, Completes, ends_map]
  apply (completes_readAsyncEvt hsizes hlength hallocated hlinked hrx).mono
  intro out after hafter
  refine ⟨hafter.1, ?_⟩
  rw [AsyncOut.of, hafter.2, BitVec.toNat_ofNat, Nat.mod_eq_of_lt (by omega)]

/-- A build with room for two words of payload. -/
def smallBufConfig : RxConfig :=
  { CmdOpLocks.smallRxConfig with
    respHdrSize := 12
    respSpecHdrSize := 8
    slAsyncMaxMsgLen := 20
    slAsyncMaxPayloadLen := 8
    slAsyncMaxPayloadLen_aligned := by decide }

/-- The header of an event with a payload of ten bytes. -/
def longEvtHdr : List Byte := [0x9A, 0x0C, 18, 0, 10, 0, 0, 6, 0, 0, 0, 0]

def longEvtEnv : MsgEnv := { CmdOpLocks.shortResponse with hdr := .header longEvtHdr }

def longEvtState : DrvState := .start [1, 2, 3, 4, 5, 6, 7, 8, 9, 10, 0, 0] 0 (messageCBInit 1)

theorem completes_longEvt :
    Completes (asyncEvtClass smallBufConfig longEvtEnv longEvtHdr
        (smallBufConfig.respHeader longEvtHdr) (2 ^ 14)) longEvtState fun out after =>
      EvtRead smallBufConfig longEvtHdr 10 longEvtState after ∧ out.outMsgReadLen.toNat = 20 := by
  have hlinked : IndexList.Linked longEvtEnv.pool.next smallBufConfig.maxConcurrentActions
      longEvtEnv.pool.activePoolIdx [] := rfl
  exact completes_asyncEvtClass ⟨by decide, rfl, by decide⟩ rfl rfl hlinked (by decide) (by decide)

end Stored

end SimpleLinkHost.AsyncPayload
