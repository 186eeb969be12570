import SimpleLinkHost.Driver.GlobalLock

/-!
# Writing a message

`_SlDrvMsgWrite` sends a sync pattern, the protocol header, the descriptors and
up to two payloads.  Each transfer may fall short, and the function then returns
from inside the checking macro.  How many transfers a message takes depends on
the command alone, so the message is written exactly when that many succeed.
-/

namespace SimpleLinkHost.MsgWrite

open CallOutcome Calls GlobalLock

/-- What the protocol headers of the SDK fix for outgoing messages. -/
structure ProtocolConfig where
  /-- The short pattern, `SYNC_PATTERN_LEN` bytes. -/
  h2nSyncPattern : List Byte
  /-- The bytes of a protocol header with an opcode and a length. -/
  protocolHeader : BitVec 16 → BitVec 16 → List Byte
  /-- `_SL_PROTOCOL_CALC_LEN` -/
  calcLen : CmdCtrl → Option CmdExt → BitVec 16

/-- `_SL_PROTOCOL_ALIGN_SIZE` -/
def alignSize (size : ℕ) : ℕ := (size + 3) / 4 * 4

/-- `count` bytes of a buffer from `offset` on. -/
def bufferBytes (buffer : ℕ → Byte) (offset count : ℕ) : List Byte :=
  (List.range count).map fun index => buffer (offset + index)

/-- `NWP_IF_WRITE_CHECK` -/
def nwpIfWriteCheck (bytes : List Byte) : DrvM Unit := do
  let s ← get
  match s.writesLeft with
  | 0 =>
      emit (.fatalError .driverAbort)
      throw .apiAborted
  | left + 1 =>
      set { s with writesLeft := left }
      emit (.ifWrite bytes)

/-- A negative `RxPayloadLen` marks the payload buffer as data to send. -/
def sendRxPayload (ext : CmdExt) : Bool := ext.rxPayloadLen.slt 0

/-- The parameters after the sign change of `RxPayloadLen`. -/
def signChanged (ext : CmdExt) : CmdExt :=
  if sendRxPayload ext then { ext with rxPayloadLen := -ext.rxPayloadLen } else ext

/-- The length announced in the protocol header. -/
def protocolLen (cfg : ProtocolConfig) (cmdCtrl : CmdCtrl) : Option CmdExt → BitVec 16
  | none => cfg.calcLen cmdCtrl none
  | some ext =>
      if sendRxPayload ext then cfg.calcLen cmdCtrl (some ext) + -ext.rxPayloadLen
      else cfg.calcLen cmdCtrl (some ext)

/-- The bytes of the second payload that complete the last word of the first. -/
def secondPayloadOffset (ext : CmdExt) : ℕ :=
  if ext.txPayload1Len.toNat % 4 = 0 then 0 else 4 - ext.txPayload1Len.toNat % 4

/-- Two payloads are merged; the first one's length is cut to whole words. -/
def writeTwoPayloads (ext : CmdExt) : DrvM Unit := do
  let firstPayloadReminder := ext.txPayload1Len.toNat % 4
  let firstLen := ext.txPayload1Len.toNat - firstPayloadReminder
  modifyCB fun cb =>
    { cb with pCmdExt := some { ext with txPayload1Len := BitVec.ofNat 16 firstLen } }
  nwpIfWriteCheck (bufferBytes ext.pTxPayload1 0 firstLen)
  runIf (firstPayloadReminder ≠ 0) (nwpIfWriteCheck
    (bufferBytes ext.pTxPayload1 firstLen firstPayloadReminder
      ++ bufferBytes ext.pTxPayload2 0 (secondPayloadOffset ext)))
  runIf (secondPayloadOffset ext < ext.txPayload2Len.toNat) (nwpIfWriteCheck
    (bufferBytes ext.pTxPayload2 (secondPayloadOffset ext)
      (alignSize (ext.txPayload2Len.toNat - secondPayloadOffset ext))))

def writePayloads (ext : CmdExt) : DrvM Unit :=
  if 0 < ext.txPayload1Len.toNat ∧ 0 < ext.txPayload2Len.toNat then writeTwoPayloads ext
  else if 0 < ext.txPayload1Len.toNat then
    nwpIfWriteCheck (bufferBytes ext.pTxPayload1 0 (alignSize ext.txPayload1Len.toNat))
  else if 0 < ext.txPayload2Len.toNat then
    nwpIfWriteCheck (bufferBytes ext.pTxPayload2 0 (alignSize ext.txPayload2Len.toNat))
  else pure ()

def writeDescriptors (cmdCtrl : CmdCtrl) (pTxRxDescBuff : Option (ℕ → Byte)) : DrvM Unit :=
  match pTxRxDescBuff with
  | none => pure ()
  | some desc =>
      runIf (0 < cmdCtrl.txDescLen.toNat)
        (nwpIfWriteCheck (bufferBytes desc 0 (alignSize cmdCtrl.txDescLen.toNat)))

/-- The payload of `fs_Close` and of `sl_Send` in transceiver mode. -/
def writeRxPayload (ext : CmdExt) : DrvM Unit :=
  nwpIfWriteCheck
    (bufferBytes (ext.pRxPayload.getD fun _ => 0) 0 (alignSize ext.rxPayloadLen.toNat))

/-- The part of `_SlDrvMsgWrite` after the descriptors. -/
def writeExt (cmdCtrl : CmdCtrl) : Option CmdExt → DrvM Unit
  | none => pure ()
  | some ext => do
      runIf (sendRxPayload ext) (writeRxPayload (signChanged ext))
      verifyProtocol (cmdCtrl.txDescLen.toNat % 4 = 0)
      writePayloads (signChanged ext)

/-- The parameters saved in the control block. -/
def saveParameters (cfg : ProtocolConfig) (cmdCtrl : CmdCtrl) (ext : Option CmdExt)
    (pTxRxDescBuff : Option (ℕ → Byte)) (cb : DriverCB) : DriverCB :=
  { cb with
    pCmdCtrl := cmdCtrl
    pTxRxDescBuff := pTxRxDescBuff
    pCmdExt := ext.map signChanged
    tempProtocolHeaderOpcode := cmdCtrl.opcode
    tempProtocolHeaderLen := protocolLen cfg cmdCtrl ext }

/-- `_SlDrvMsgWrite`; that `pCmdCtrl` is not NULL, which it asserts, holds by its
type. -/
def slDrvMsgWrite (cfg : ProtocolConfig) (cmdCtrl : CmdCtrl) (ext : Option CmdExt)
    (pTxRxDescBuff : Option (ℕ → Byte)) : DrvM Unit := do
  modifyCB (saveParameters cfg cmdCtrl ext pTxRxDescBuff)
  nwpIfWriteCheck cfg.h2nSyncPattern
  nwpIfWriteCheck (cfg.protocolHeader cmdCtrl.opcode (protocolLen cfg cmdCtrl ext))
  writeDescriptors cmdCtrl pTxRxDescBuff
  writeExt cmdCtrl ext

section Transfers

/-- How many transfers the payloads take. -/
def payloadTransfers (ext : CmdExt) : ℕ :=
  if 0 < ext.txPayload1Len.toNat ∧ 0 < ext.txPayload2Len.toNat then
    1 + ((if ext.txPayload1Len.toNat % 4 ≠ 0 then 1 else 0) +
      if secondPayloadOffset ext < ext.txPayload2Len.toNat then 1 else 0)
  else if 0 < ext.txPayload1Len.toNat ∨ 0 < ext.txPayload2Len.toNat then 1
  else 0

def extTransfers : Option CmdExt → ℕ
  | none => 0
  | some ext => (if sendRxPayload ext then 1 else 0) + payloadTransfers ext

/-- How many transfers the whole message takes. -/
def transfers (cmdCtrl : CmdCtrl) (ext : Option CmdExt) (pTxRxDescBuff : Option (ℕ → Byte)) :
    ℕ :=
  2 + (if pTxRxDescBuff.isSome ∧ 0 < cmdCtrl.txDescLen.toNat then 1 else 0) + extTransfers ext

/-- What the transfers do not change: all but the length of the first payload. -/
def writeView (s : DrvState) :
    (LockObj → Option ℕ) × List Byte × DriverCB × Option (BitVec 16) :=
  (s.held, s.rx, { s.cb with pCmdExt := none }, s.cb.pCmdExt.map (·.rxPayloadLen))

/-- A program that takes `need` transfers. -/
def Writes (program : DrvM Unit) (s : DrvState) (need : ℕ) : Prop :=
  Consumes DrvState.writesLeft writeView .apiAborted program s need fun _ _ => True

variable {s : DrvState} {program other : DrvM Unit} {need more : ℕ}

theorem writes_pure : Writes (pure ()) s 0 := consumes_pure trivial

theorem writes_nwpIfWriteCheck (bytes : List Byte) : Writes (nwpIfWriteCheck bytes) s 1 := by
  simp only [Writes, Consumes, nwpIfWriteCheck, ends_bind, ends_get]
  cases hleft : s.writesLeft with
  | zero =>
      refine ⟨rfl, by omega, ?_⟩
      simp only [writeView, held_neutral (rfl : lockEvent (.fatalError .driverAbort) = none)]
      rfl
  | succ left =>
      refine ⟨rfl, ?_, trivial⟩
      have hheld := held_neutral (s := { s with writesLeft := left })
        (rfl : lockEvent (.ifWrite bytes) = none)
      exact congrArg (·, s.rx, { s.cb with pCmdExt := none },
        s.cb.pCmdExt.map (·.rxPayloadLen)) hheld

theorem Writes.seq {next : Unit → DrvM Unit} (hprogram : Writes program s need)
    (hnext : ∀ after, writeView after = writeView s → Writes (next ()) after more) :
    Writes (program >>= next) s (need + more) :=
  Consumes.bind hprogram fun _ after hview _ => hnext after hview

theorem writes_runIf {cond : Prop} [Decidable cond] (hprogram : Writes program s need) :
    Writes (runIf cond program) s (if cond then need else 0) := by
  rw [runIf]
  split
  · exact hprogram
  · exact writes_pure

theorem writes_verifyProtocol (check : Bool) : Writes (verifyProtocol check) s 0 := by
  apply Completes.consumes
  apply (completes_verifyProtocol check s).mono
  intro _ after hafter
  exact ⟨hafter.writesLeft, by simp [writeView, hafter.held, hafter.rx, hafter.cb], trivial⟩

theorem writes_modifyCB {change : DriverCB → DriverCB}
    (hview : writeView (s.changeCB change) = writeView s) : Writes (modifyCB change) s 0 :=
  ⟨rfl, hview, trivial⟩

section Payloads

variable {ext : CmdExt} (hext : s.cb.pCmdExt.map (·.rxPayloadLen) = some ext.rxPayloadLen)

include hext

theorem writes_writeTwoPayloads :
    Writes (writeTwoPayloads ext) s
      (0 + (1 + ((if ext.txPayload1Len.toNat % 4 ≠ 0 then 1 else 0) +
        if secondPayloadOffset ext < ext.txPayload2Len.toNat then 1 else 0))) := by
  rw [writeTwoPayloads]
  apply (writes_modifyCB _).seq
  · intro after _
    apply (writes_nwpIfWriteCheck _).seq
    intro after _
    apply (writes_runIf (writes_nwpIfWriteCheck _)).seq
    intro after _
    exact writes_runIf (writes_nwpIfWriteCheck _)
  · simp [writeView, hext]

theorem writes_writePayloads : Writes (writePayloads ext) s (payloadTransfers ext) := by
  rw [writePayloads, payloadTransfers]
  by_cases hfirst : 0 < ext.txPayload1Len.toNat
  · by_cases hsecond : 0 < ext.txPayload2Len.toNat
    · have htwo := writes_writeTwoPayloads hext
      rw [Nat.zero_add] at htwo
      simpa only [hfirst, hsecond, and_self, if_true] using htwo
    · simpa only [hfirst, hsecond, and_false, or_false, if_true, if_false]
        using writes_nwpIfWriteCheck _
  · by_cases hsecond : 0 < ext.txPayload2Len.toNat
    · simpa only [hfirst, hsecond, false_and, false_or, if_true, if_false]
        using writes_nwpIfWriteCheck _
    · simpa only [hfirst, hsecond, false_and, or_self, if_false] using writes_pure

end Payloads

theorem writes_writeDescriptors (cmdCtrl : CmdCtrl) (pTxRxDescBuff : Option (ℕ → Byte)) :
    Writes (writeDescriptors cmdCtrl pTxRxDescBuff) s
      (if pTxRxDescBuff.isSome ∧ 0 < cmdCtrl.txDescLen.toNat then 1 else 0) := by
  cases pTxRxDescBuff with
  | none => exact writes_pure
  | some desc =>
      simpa only [writeDescriptors, Option.isSome_some, true_and]
        using writes_runIf (writes_nwpIfWriteCheck _)

theorem payloadTransfers_signChanged (ext : CmdExt) :
    payloadTransfers (signChanged ext) = payloadTransfers ext := by
  rw [signChanged]
  split <;> rfl

theorem writes_writeExt (cmdCtrl : CmdCtrl) (ext : Option CmdExt)
    (hext : s.cb.pCmdExt.map (·.rxPayloadLen) =
      (ext.map signChanged).map (·.rxPayloadLen)) :
    Writes (writeExt cmdCtrl ext) s (extTransfers ext) := by
  cases ext with
  | none => exact writes_pure
  | some ext =>
      rw [extTransfers, ← payloadTransfers_signChanged, ← Nat.zero_add (payloadTransfers _)]
      apply (writes_runIf (writes_nwpIfWriteCheck _)).seq
      intro sent hsent
      apply (writes_verifyProtocol _).seq
      intro checked hchecked
      apply writes_writePayloads
      exact (congrArg (·.2.2.2) (hchecked.trans hsent)).trans hext

/-- The message is written exactly when all its transfers succeed; both ways its
parameters are saved. -/
theorem ends_slDrvMsgWrite_view (cfg : ProtocolConfig) (cmdCtrl : CmdCtrl) (ext : Option CmdExt)
    (pTxRxDescBuff : Option (ℕ → Byte)) :
    Ends (slDrvMsgWrite cfg cmdCtrl ext pTxRxDescBuff) s
      (fun _ after => transfers cmdCtrl ext pTxRxDescBuff ≤ s.writesLeft ∧
        writeView after = writeView (s.changeCB (saveParameters cfg cmdCtrl ext pTxRxDescBuff)))
      fun ret after => ret = .apiAborted ∧
        s.writesLeft < transfers cmdCtrl ext pTxRxDescBuff ∧
        writeView after =
          writeView (s.changeCB (saveParameters cfg cmdCtrl ext pTxRxDescBuff)) := by
  have hwrites : Writes
      (do
        nwpIfWriteCheck cfg.h2nSyncPattern
        nwpIfWriteCheck (cfg.protocolHeader cmdCtrl.opcode (protocolLen cfg cmdCtrl ext))
        writeDescriptors cmdCtrl pTxRxDescBuff
        writeExt cmdCtrl ext)
      (s.changeCB (saveParameters cfg cmdCtrl ext pTxRxDescBuff))
      (1 + (1 + ((if pTxRxDescBuff.isSome ∧ 0 < cmdCtrl.txDescLen.toNat then 1 else 0)
        + extTransfers ext))) := by
    apply (writes_nwpIfWriteCheck _).seq
    intro synced hsynced
    apply (writes_nwpIfWriteCheck _).seq
    intro headed hheaded
    apply (writes_writeDescriptors _ _).seq
    intro described hdescribed
    have hview :=
      calc writeView described = writeView headed := hdescribed
        _ = writeView synced := hheaded
        _ = writeView _ := hsynced
    exact writes_writeExt cmdCtrl ext (congrArg (·.2.2.2) hview)
  have hsum : transfers cmdCtrl ext pTxRxDescBuff = 1 + (1 + ((if pTxRxDescBuff.isSome ∧
      0 < cmdCtrl.txDescLen.toNat then 1 else 0) + extTransfers ext)) := by
    rw [transfers]
    omega
  rw [slDrvMsgWrite, ends_bind, ends_modifyCB, hsum]
  apply Ends.mono hwrites
  · intro _ after hafter
    have hleft := hafter.1
    rw [DrvState.changeCB_writesLeft] at hleft
    exact ⟨by omega, hafter.2.1⟩
  · exact fun _ _ hafter => hafter

theorem ends_slDrvMsgWrite (cfg : ProtocolConfig) (cmdCtrl : CmdCtrl) (ext : Option CmdExt)
    (pTxRxDescBuff : Option (ℕ → Byte)) :
    Ends (slDrvMsgWrite cfg cmdCtrl ext pTxRxDescBuff) s
      (fun _ after => transfers cmdCtrl ext pTxRxDescBuff ≤ s.writesLeft ∧
        writeView after = writeView (s.changeCB (saveParameters cfg cmdCtrl ext pTxRxDescBuff)))
      fun ret after => ret = .apiAborted ∧
        s.writesLeft < transfers cmdCtrl ext pTxRxDescBuff ∧ after.held = s.held := by
  apply (ends_slDrvMsgWrite_view cfg cmdCtrl ext pTxRxDescBuff).mono
  · exact fun _ _ hafter => hafter
  · intro ret after hafter
    exact ⟨hafter.1, hafter.2.1, congrArg (·.1) hafter.2.2⟩

end Transfers

end SimpleLinkHost.MsgWrite
