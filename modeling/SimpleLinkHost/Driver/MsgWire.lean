import SimpleLinkHost.Driver.MsgWrite

/-!
# The bytes of a message

What `_SlDrvMsgWrite` hands to the interface, transfer by transfer, and how many bytes follow
the protocol header.  Two payloads go out as if they were one; a payload in the receive buffer
is rounded up to whole words only where it is written.
-/

namespace SimpleLinkHost.MsgWrite

open CallOutcome Calls GlobalLock

section Sends

/-- The transfers that were handed to the interface. -/
def transfersOf (s : DrvState) : List (List Byte) :=
  s.acts.filterMap fun
    | .ifWrite bytes => some bytes
    | _ => none

/-- A program that hands these transfers to the interface. -/
def Sends (program : DrvM Unit) (s : DrvState) (packets : List (List Byte)) : Prop :=
  Consumes DrvState.writesLeft (fun _ => ()) .apiAborted program s packets.length
    fun _ after => transfersOf after = transfersOf s ++ packets

variable {s : DrvState} {program : DrvM Unit} {packets more : List (List Byte)}

theorem transfersOf_after (act : DrvAct) :
    transfersOf (s.after act) = transfersOf s ++ transfersOf { s with acts := [act] } :=
  List.filterMap_append

theorem sends_pure : Sends (pure ()) s [] :=
  consumes_pure (List.append_nil _).symm

theorem sends_modifyCB (change : DriverCB → DriverCB) : Sends (modifyCB change) s [] :=
  ⟨rfl, rfl, (List.append_nil _).symm⟩

theorem sends_nwpIfWriteCheck (bytes : List Byte) : Sends (nwpIfWriteCheck bytes) s [bytes] := by
  simp only [Sends, Consumes, nwpIfWriteCheck, ends_bind, ends_get]
  cases hleft : s.writesLeft with
  | zero => exact ⟨rfl, Nat.zero_lt_one, trivial⟩
  | succ left => exact ⟨rfl, trivial, transfersOf_after (.ifWrite bytes)⟩

theorem sends_verifyProtocol (check : Bool) : Sends (verifyProtocol check) s [] := by
  cases check with
  | true => exact sends_pure
  | false => exact ⟨rfl, rfl, transfersOf_after (.fatalError .driverAbort)⟩

theorem Sends.seq {next : Unit → DrvM Unit} (hprogram : Sends program s packets)
    (hnext : ∀ after, Sends (next ()) after more) :
    Sends (program >>= next) s (packets ++ more) := by
  rw [Sends, List.length_append]
  apply Consumes.bind hprogram
  intro _ middle _ hmiddle
  apply (hnext middle).mono
  intro _ after hafter
  rw [hafter, hmiddle, List.append_assoc]

theorem sends_runIf {cond : Prop} [Decidable cond] (hprogram : Sends program s packets) :
    Sends (runIf cond program) s (if cond then packets else []) := by
  rw [runIf]
  split
  · exact hprogram
  · exact sends_pure

/-- With enough transfers left, the program falls through. -/
theorem Sends.completes (hsends : Sends program s packets) (hleft : packets.length ≤ s.writesLeft) :
    Completes program s fun _ after => transfersOf after = transfersOf s ++ packets := by
  apply Ends.mono hsends
  · exact fun _ _ hafter => hafter.2.2
  · exact fun _ _ hafter => absurd hafter.2.1 (Nat.not_lt.mpr hleft)

end Sends

section Packets

/-- The transfers of two payloads: whole words of the first, a word that both complete, and the
rest of the second. -/
def twoPayloadPackets (ext : CmdExt) : List (List Byte) :=
  let firstPayloadReminder := ext.txPayload1Len.toNat % 4
  let firstLen := ext.txPayload1Len.toNat - firstPayloadReminder
  [bufferBytes ext.pTxPayload1 0 firstLen] ++
    ((if firstPayloadReminder ≠ 0 then
        [bufferBytes ext.pTxPayload1 firstLen firstPayloadReminder
          ++ bufferBytes ext.pTxPayload2 0 (secondPayloadOffset ext)]
      else []) ++
      if secondPayloadOffset ext < ext.txPayload2Len.toNat then
        [bufferBytes ext.pTxPayload2 (secondPayloadOffset ext)
          (alignSize (ext.txPayload2Len.toNat - secondPayloadOffset ext))]
      else [])

def payloadPackets (ext : CmdExt) : List (List Byte) :=
  if 0 < ext.txPayload1Len.toNat ∧ 0 < ext.txPayload2Len.toNat then twoPayloadPackets ext
  else if 0 < ext.txPayload1Len.toNat then
    [bufferBytes ext.pTxPayload1 0 (alignSize ext.txPayload1Len.toNat)]
  else if 0 < ext.txPayload2Len.toNat then
    [bufferBytes ext.pTxPayload2 0 (alignSize ext.txPayload2Len.toNat)]
  else []

def descriptorPackets (cmdCtrl : CmdCtrl) (pTxRxDescBuff : Option (ℕ → Byte)) :
    List (List Byte) :=
  match pTxRxDescBuff with
  | none => []
  | some desc =>
      if 0 < cmdCtrl.txDescLen.toNat then [bufferBytes desc 0 (alignSize cmdCtrl.txDescLen.toNat)]
      else []

def rxPayloadPackets (ext : CmdExt) : List (List Byte) :=
  if sendRxPayload ext then
    [bufferBytes (ext.pRxPayload.getD fun _ => 0) 0 (alignSize (-ext.rxPayloadLen).toNat)]
  else []

/-- The transfers behind the protocol header. -/
def bodyPackets (cmdCtrl : CmdCtrl) (ext : CmdExt) (pTxRxDescBuff : Option (ℕ → Byte)) :
    List (List Byte) :=
  descriptorPackets cmdCtrl pTxRxDescBuff ++ (rxPayloadPackets ext ++ payloadPackets ext)

variable {s : DrvState}

theorem sends_writeTwoPayloads (ext : CmdExt) :
    Sends (writeTwoPayloads ext) s (twoPayloadPackets ext) := by
  rw [writeTwoPayloads, twoPayloadPackets]
  rw [← List.nil_append ([_] ++ _)]
  apply (sends_modifyCB _).seq
  intro cut
  apply (sends_nwpIfWriteCheck _).seq
  intro first
  apply (sends_runIf (sends_nwpIfWriteCheck _)).seq
  intro bridged
  exact sends_runIf (sends_nwpIfWriteCheck _)

theorem sends_writePayloads (ext : CmdExt) :
    Sends (writePayloads ext) s (payloadPackets ext) := by
  rw [writePayloads, payloadPackets]
  split
  · exact sends_writeTwoPayloads ext
  · split
    · exact sends_nwpIfWriteCheck _
    · split
      · exact sends_nwpIfWriteCheck _
      · exact sends_pure

theorem sends_writeDescriptors (cmdCtrl : CmdCtrl) (pTxRxDescBuff : Option (ℕ → Byte)) :
    Sends (writeDescriptors cmdCtrl pTxRxDescBuff) s
      (descriptorPackets cmdCtrl pTxRxDescBuff) := by
  cases pTxRxDescBuff with
  | none => exact sends_pure
  | some desc => exact sends_runIf (sends_nwpIfWriteCheck _)

theorem payloadPackets_signChanged (ext : CmdExt) :
    payloadPackets (signChanged ext) = payloadPackets ext := by
  rw [signChanged]
  split <;> rfl

theorem sends_writeExt (cmdCtrl : CmdCtrl) (ext : CmdExt) :
    Sends (writeExt cmdCtrl (some ext)) s (rxPayloadPackets ext ++ payloadPackets ext) := by
  have hrxPayload : Sends (runIf (sendRxPayload ext) (writeRxPayload (signChanged ext))) s
      (rxPayloadPackets ext) := by
    rw [rxPayloadPackets, runIf, signChanged]
    split
    · exact sends_nwpIfWriteCheck _
    · exact sends_pure
  apply hrxPayload.seq
  intro sent
  rw [← List.nil_append (payloadPackets ext), ← payloadPackets_signChanged]
  apply (sends_verifyProtocol _).seq
  exact fun _ => sends_writePayloads _

/-- The sync pattern, the protocol header and the body. -/
theorem sends_slDrvMsgWrite (cfg : ProtocolConfig) (cmdCtrl : CmdCtrl) (ext : CmdExt)
    (pTxRxDescBuff : Option (ℕ → Byte)) :
    Sends (slDrvMsgWrite cfg cmdCtrl (some ext) pTxRxDescBuff) s
      ([cfg.h2nSyncPattern] ++
        ([cfg.protocolHeader cmdCtrl.opcode (protocolLen cfg cmdCtrl (some ext))] ++
          bodyPackets cmdCtrl ext pTxRxDescBuff)) := by
  rw [← List.nil_append ([cfg.h2nSyncPattern] ++ _)]
  apply (sends_modifyCB _).seq
  intro saved
  apply (sends_nwpIfWriteCheck _).seq
  intro synced
  apply (sends_nwpIfWriteCheck _).seq
  intro headed
  apply (sends_writeDescriptors cmdCtrl pTxRxDescBuff).seq
  exact fun _ => sends_writeExt cmdCtrl ext

/-- As many transfers as the message takes. -/
theorem length_packets (cfg : ProtocolConfig) (cmdCtrl : CmdCtrl) (ext : CmdExt)
    (pTxRxDescBuff : Option (ℕ → Byte)) :
    ([cfg.h2nSyncPattern] ++
      ([cfg.protocolHeader cmdCtrl.opcode (protocolLen cfg cmdCtrl (some ext))] ++
        bodyPackets cmdCtrl ext pTxRxDescBuff)).length =
      transfers cmdCtrl (some ext) pTxRxDescBuff := by
  have hdescriptors : (descriptorPackets cmdCtrl pTxRxDescBuff).length =
      if pTxRxDescBuff.isSome ∧ 0 < cmdCtrl.txDescLen.toNat then 1 else 0 := by
    cases pTxRxDescBuff with
    | none => rfl
    | some desc =>
        rw [descriptorPackets, apply_ite List.length]
        simp
  have hrxPayload : (rxPayloadPackets ext).length = if sendRxPayload ext then 1 else 0 := by
    rw [rxPayloadPackets, apply_ite List.length]
    rfl
  have hpayloads : (payloadPackets ext).length = payloadTransfers ext := by
    rw [payloadPackets, payloadTransfers, twoPayloadPackets]
    split
    · simp only [List.length_append, List.length_singleton, apply_ite List.length,
        List.length_nil]
    · split
      · rename_i hfirst
        simp [hfirst]
      · rename_i hfirst
        split
        · rename_i hsecond
          simp [hsecond]
        · rename_i hsecond
          simp [hfirst, hsecond]
  simp only [bodyPackets, List.length_append, List.length_singleton, hdescriptors, hrxPayload,
    hpayloads, transfers, extTransfers]
  omega

end Packets

section Bytes

theorem length_bufferBytes (buffer : ℕ → Byte) (offset count : ℕ) :
    (bufferBytes buffer offset count).length = count := by
  rw [bufferBytes, List.length_map, List.length_range]

theorem bufferBytes_add (buffer : ℕ → Byte) (offset count more : ℕ) :
    bufferBytes buffer offset (count + more) =
      bufferBytes buffer offset count ++ bufferBytes buffer (offset + count) more := by
  simp only [bufferBytes, List.range_add, List.map_append, List.map_map]
  congr 1
  apply List.map_congr_left
  intro index _
  exact congrArg buffer (Nat.add_assoc offset count index).symm

/-- The bytes of both payloads. -/
def payloadBytes (ext : CmdExt) : List Byte :=
  bufferBytes ext.pTxPayload1 0 ext.txPayload1Len.toNat ++
    bufferBytes ext.pTxPayload2 0 ext.txPayload2Len.toNat

theorem length_payloadBytes (ext : CmdExt) :
    (payloadBytes ext).length = ext.txPayload1Len.toNat + ext.txPayload2Len.toNat := by
  rw [payloadBytes, List.length_append, length_bufferBytes, length_bufferBytes]

/-- The second payload continues where the first ends, as far as whole words need. -/
theorem flatten_twoPayloadPackets {ext : CmdExt} (hsecond : 0 < ext.txPayload2Len.toNat) :
    (twoPayloadPackets ext).flatten =
      bufferBytes ext.pTxPayload1 0 ext.txPayload1Len.toNat ++
        bufferBytes ext.pTxPayload2 0 (alignSize
          (ext.txPayload1Len.toNat + ext.txPayload2Len.toNat) - ext.txPayload1Len.toNat) := by
  have hfirst := bufferBytes_add ext.pTxPayload1 0
    (ext.txPayload1Len.toNat - ext.txPayload1Len.toNat % 4) (ext.txPayload1Len.toNat % 4)
  rw [Nat.sub_add_cancel (Nat.mod_le _ 4), Nat.zero_add] at hfirst
  rw [twoPayloadPackets]
  by_cases hreminder : ext.txPayload1Len.toNat % 4 = 0
  · have hoffset : secondPayloadOffset ext = 0 := if_pos hreminder
    have hcount : alignSize (ext.txPayload1Len.toNat + ext.txPayload2Len.toNat) -
        ext.txPayload1Len.toNat = alignSize ext.txPayload2Len.toNat := by
      unfold alignSize
      omega
    simp [hreminder, hoffset, hsecond, hcount]
  · have hoffset : secondPayloadOffset ext = 4 - ext.txPayload1Len.toNat % 4 := if_neg hreminder
    by_cases hmore : secondPayloadOffset ext < ext.txPayload2Len.toNat
    · have hcount : alignSize (ext.txPayload1Len.toNat + ext.txPayload2Len.toNat) -
          ext.txPayload1Len.toNat = secondPayloadOffset ext +
            alignSize (ext.txPayload2Len.toNat - secondPayloadOffset ext) := by
        unfold alignSize
        omega
      rw [hcount, hfirst, bufferBytes_add]
      simp [hreminder, hmore]
    · have hcount : alignSize (ext.txPayload1Len.toNat + ext.txPayload2Len.toNat) -
          ext.txPayload1Len.toNat = secondPayloadOffset ext := by
        rw [alignSize]
        omega
      rw [hcount, hfirst]
      simp [hreminder, hmore]

/-- The payloads go out one behind the other, with less than a word of padding. -/
theorem exists_padding (ext : CmdExt) :
    ∃ padding, (payloadPackets ext).flatten = payloadBytes ext ++ padding ∧
      padding.length = alignSize (payloadBytes ext).length - (payloadBytes ext).length := by
  rw [length_payloadBytes]
  have hle : ext.txPayload1Len.toNat + ext.txPayload2Len.toNat ≤
      alignSize (ext.txPayload1Len.toNat + ext.txPayload2Len.toNat) := by
    rw [alignSize]
    omega
  obtain ⟨more, hmore⟩ := Nat.exists_eq_add_of_le hle
  rw [payloadPackets, payloadBytes]
  split
  · rename_i hboth
    refine ⟨bufferBytes ext.pTxPayload2 ext.txPayload2Len.toNat more, ?_, ?_⟩
    · rw [flatten_twoPayloadPackets hboth.2, hmore, Nat.add_assoc, Nat.add_sub_cancel_left,
        bufferBytes_add, List.append_assoc, Nat.zero_add]
    · rw [length_bufferBytes, hmore, Nat.add_sub_cancel_left]
  · rename_i hboth
    split
    · rename_i hfirst
      have hsecond : ext.txPayload2Len.toNat = 0 := by omega
      rw [hsecond, Nat.add_zero] at hmore ⊢
      refine ⟨bufferBytes ext.pTxPayload1 ext.txPayload1Len.toNat more, ?_, ?_⟩
      · rw [List.flatten_singleton, hmore, bufferBytes_add, Nat.zero_add]
        exact congrArg (· ++ _) (List.append_nil _).symm
      · rw [length_bufferBytes, hmore, Nat.add_sub_cancel_left]
    · rename_i hfirst
      have hzero : ext.txPayload1Len.toNat = 0 := by omega
      rw [hzero, Nat.zero_add] at hmore ⊢
      split
      · refine ⟨bufferBytes ext.pTxPayload2 ext.txPayload2Len.toNat more, ?_, ?_⟩
        · rw [List.flatten_singleton, hmore, bufferBytes_add, Nat.zero_add]
          rfl
        · rw [length_bufferBytes, hmore, Nat.add_sub_cancel_left]
      · rename_i hsecond
        have hsecond' : ext.txPayload2Len.toNat = 0 := by omega
        rw [hsecond']
        exact ⟨[], rfl, rfl⟩

end Bytes

section Frames

/-- The SDK's `_SL_PROTOCOL_CALC_LEN` counts whole words for the descriptors and for the
payloads. -/
def CalcsWholeWords (cfg : ProtocolConfig) : Prop :=
  ∀ cmdCtrl ext, cfg.calcLen cmdCtrl (some ext) = BitVec.ofNat 16
    (alignSize cmdCtrl.txDescLen.toNat +
      alignSize (ext.txPayload1Len.toNat + ext.txPayload2Len.toNat))

def descriptorBytes (cmdCtrl : CmdCtrl) : Option (ℕ → Byte) → List Byte
  | none => []
  | some desc => bufferBytes desc 0 cmdCtrl.txDescLen.toNat

/-- The descriptors and the payload, in whole words. -/
def frameLen (cmdCtrl : CmdCtrl) (payload : List Byte) : ℕ :=
  cmdCtrl.txDescLen.toNat + alignSize payload.length

/-- The length that a message with this payload announces. -/
def announcedLen (cmdCtrl : CmdCtrl) (payload : List Byte) : BitVec 16 :=
  BitVec.ofNat 16 (frameLen cmdCtrl payload)

/-- The transfers of a message with this payload: the protocol header announces what follows,
the descriptors, the payload and less than a word of padding. -/
def IsFrame (cfg : ProtocolConfig) (cmdCtrl : CmdCtrl) (pTxRxDescBuff : Option (ℕ → Byte))
    (payload : List Byte) (packets : List (List Byte)) : Prop :=
  ∃ body padding,
    packets = [cfg.h2nSyncPattern,
      cfg.protocolHeader cmdCtrl.opcode (announcedLen cmdCtrl payload)] ++ body ∧
    body.flatten.length = (announcedLen cmdCtrl payload).toNat ∧
    body.flatten = descriptorBytes cmdCtrl pTxRxDescBuff ++ payload ++ padding ∧
    padding.length < 4

variable {cfg : ProtocolConfig} {cmdCtrl : CmdCtrl} {ext : CmdExt}
variable {pTxRxDescBuff : Option (ℕ → Byte)} {s : DrvState}

theorem alignSize_of_aligned {size : ℕ} (haligned : size % 4 = 0) : alignSize size = size := by
  rw [alignSize]
  omega

theorem flatten_descriptorPackets (haligned : cmdCtrl.txDescLen.toNat % 4 = 0)
    (hdesc : pTxRxDescBuff = none → cmdCtrl.txDescLen = 0) :
    (descriptorPackets cmdCtrl pTxRxDescBuff).flatten = descriptorBytes cmdCtrl pTxRxDescBuff ∧
      (descriptorBytes cmdCtrl pTxRxDescBuff).length = cmdCtrl.txDescLen.toNat := by
  cases pTxRxDescBuff with
  | none =>
      rw [hdesc rfl]
      exact ⟨rfl, rfl⟩
  | some desc =>
      refine ⟨?_, length_bufferBytes desc 0 _⟩
      rw [descriptorPackets, descriptorBytes, alignSize_of_aligned haligned]
      split
      · exact List.flatten_singleton
      · rename_i hzero
        rw [Nat.eq_zero_of_not_pos hzero]
        rfl

/-- How many bytes follow the protocol header. -/
theorem length_bodyPackets (haligned : cmdCtrl.txDescLen.toNat % 4 = 0)
    (hdesc : pTxRxDescBuff = none → cmdCtrl.txDescLen = 0) :
    (bodyPackets cmdCtrl ext pTxRxDescBuff).flatten.length =
      frameLen cmdCtrl (payloadBytes ext) +
        if sendRxPayload ext then alignSize (-ext.rxPayloadLen).toNat else 0 := by
  obtain ⟨hflatten, hlength⟩ := flatten_descriptorPackets haligned hdesc
  obtain ⟨padding, hpayloads, hpadding⟩ := exists_padding ext
  have hle : (payloadBytes ext).length ≤ alignSize (payloadBytes ext).length := by
    rw [alignSize]
    omega
  have hrxPayload : (rxPayloadPackets ext).flatten.length =
      if sendRxPayload ext then alignSize (-ext.rxPayloadLen).toNat else 0 := by
    rw [rxPayloadPackets]
    split
    · rw [List.flatten_singleton, length_bufferBytes]
    · rfl
  rw [bodyPackets, List.flatten_append, List.flatten_append, List.length_append,
    List.length_append, hflatten, hlength, hrxPayload, hpayloads, List.length_append, hpadding,
    frameLen]
  omega

theorem calcLen_eq (hcalc : CalcsWholeWords cfg) (haligned : cmdCtrl.txDescLen.toNat % 4 = 0) :
    cfg.calcLen cmdCtrl (some ext) = announcedLen cmdCtrl (payloadBytes ext) := by
  rw [hcalc, alignSize_of_aligned haligned, announcedLen, frameLen, length_payloadBytes]

theorem sendRxPayload_iff (ext : CmdExt) :
    sendRxPayload ext = true ↔ ext.rxPayloadLen.toInt < 0 := by
  rw [sendRxPayload, BitVec.slt, decide_eq_true_eq]
  rfl

/-- A message with payloads is one frame of both payloads put together. -/
theorem completes_slDrvMsgWrite_frame (hcalc : CalcsWholeWords cfg)
    (haligned : cmdCtrl.txDescLen.toNat % 4 = 0)
    (hdesc : pTxRxDescBuff = none → cmdCtrl.txDescLen = 0)
    (hmode : 0 ≤ ext.rxPayloadLen.toInt)
    (hfits : frameLen cmdCtrl (payloadBytes ext) < 2 ^ 16)
    (hleft : transfers cmdCtrl (some ext) pTxRxDescBuff ≤ s.writesLeft) :
    Completes (slDrvMsgWrite cfg cmdCtrl (some ext) pTxRxDescBuff) s fun _ after =>
      ∃ packets, transfersOf after = transfersOf s ++ packets ∧
        IsFrame cfg cmdCtrl pTxRxDescBuff (payloadBytes ext) packets := by
  have hnot : sendRxPayload ext = false := by
    rw [Bool.eq_false_iff]
    intro hsend
    have hneg := (sendRxPayload_iff ext).mp hsend
    omega
  have hlen : protocolLen cfg cmdCtrl (some ext) = announcedLen cmdCtrl (payloadBytes ext) := by
    rw [protocolLen, hnot, if_neg Bool.false_ne_true, calcLen_eq hcalc haligned]
  obtain ⟨padding, hpayloads, hpadding⟩ := exists_padding ext
  have hbody : (bodyPackets cmdCtrl ext pTxRxDescBuff).flatten.length = _ :=
    length_bodyPackets haligned hdesc
  rw [hnot, if_neg Bool.false_ne_true, Nat.add_zero] at hbody
  rw [← length_packets cfg] at hleft
  apply ((sends_slDrvMsgWrite cfg cmdCtrl ext pTxRxDescBuff).completes hleft).mono
  intro _ after hafter
  refine ⟨_, hafter, bodyPackets cmdCtrl ext pTxRxDescBuff, padding, ?_, ?_, ?_, ?_⟩
  · rw [hlen]
    rfl
  · rw [hbody, announcedLen, BitVec.toNat_ofNat, Nat.mod_eq_of_lt hfits]
  · rw [bodyPackets, rxPayloadPackets, hnot, if_neg Bool.false_ne_true, List.nil_append,
      List.flatten_append, (flatten_descriptorPackets haligned hdesc).1, hpayloads,
      List.append_assoc]
  · rw [hpadding]
    rw [alignSize]
    omega

/-- With a payload in the receive buffer, the announced length is the written one exactly for
whole words. -/
theorem completes_slDrvMsgWrite_announced_iff (hcalc : CalcsWholeWords cfg)
    (haligned : cmdCtrl.txDescLen.toNat % 4 = 0)
    (hdesc : pTxRxDescBuff = none → cmdCtrl.txDescLen = 0)
    (hlow : -32767 ≤ ext.rxPayloadLen.toInt) (hneg : ext.rxPayloadLen.toInt < 0)
    (hfits : frameLen cmdCtrl (payloadBytes ext) + ext.rxPayloadLen.toInt.natAbs < 2 ^ 16)
    (hleft : transfers cmdCtrl (some ext) pTxRxDescBuff ≤ s.writesLeft) :
    Completes (slDrvMsgWrite cfg cmdCtrl (some ext) pTxRxDescBuff) s fun _ after =>
      ∃ body, transfersOf after = transfersOf s ++ ([cfg.h2nSyncPattern,
          cfg.protocolHeader cmdCtrl.opcode (protocolLen cfg cmdCtrl (some ext))] ++ body) ∧
        (body.flatten.length = (protocolLen cfg cmdCtrl (some ext)).toNat ↔
          4 ∣ ext.rxPayloadLen.toInt.natAbs) := by
  have hsend := (sendRxPayload_iff ext).mpr hneg
  have hchanged : (-ext.rxPayloadLen).toNat = ext.rxPayloadLen.toInt.natAbs := by
    rw [BitVec.toNat_neg]
    rw [BitVec.toInt_eq_toNat_cond] at hlow hneg ⊢
    split at hneg
    · omega
    · omega
  have hlen : (protocolLen cfg cmdCtrl (some ext)).toNat =
      frameLen cmdCtrl (payloadBytes ext) + ext.rxPayloadLen.toInt.natAbs := by
    rw [protocolLen, if_pos hsend, calcLen_eq hcalc haligned, BitVec.toNat_add, hchanged,
      announcedLen, BitVec.toNat_ofNat, Nat.mod_add_mod, Nat.mod_eq_of_lt hfits]
  have hbody : (bodyPackets cmdCtrl ext pTxRxDescBuff).flatten.length = _ :=
    length_bodyPackets haligned hdesc
  rw [if_pos hsend, hchanged] at hbody
  rw [← length_packets cfg] at hleft
  apply ((sends_slDrvMsgWrite cfg cmdCtrl ext pTxRxDescBuff).completes hleft).mono
  intro _ after hafter
  refine ⟨_, hafter, ?_⟩
  rw [hbody, hlen, alignSize]
  omega

end Frames

section Split

/-- The length that the SDK's headers compute, and a header with its opcode and length. -/
def wholeWordsProtocol : ProtocolConfig where
  h2nSyncPattern := [0xFF, 0xEE, 0xDD, 0xBB]
  protocolHeader := fun opcode len =>
    [opcode.setWidth 8, (opcode >>> 8).setWidth 8, len.setWidth 8, (len >>> 8).setWidth 8]
  calcLen := fun cmdCtrl ext => BitVec.ofNat 16 (alignSize cmdCtrl.txDescLen.toNat +
    ext.elim 0 fun ext => alignSize (ext.txPayload1Len.toNat + ext.txPayload2Len.toNat))

/-- A command with two words of descriptors. -/
def sendCtrl : CmdCtrl where
  opcode := 0x9400
  txDescLen := 8
  rxDescLen := 0

/-- Five bytes of payload in one buffer. -/
def wholeExt : CmdExt where
  pRxPayload := none
  rxPayloadLen := 0
  actualRxPayloadLen := 0
  txPayload1Len := 5
  pTxPayload1 := fun index => BitVec.ofNat 8 (index + 1)
  txPayload2Len := 0
  pTxPayload2 := fun _ => 0

/-- The same payload in two buffers. -/
def splitExt : CmdExt :=
  { wholeExt with
    txPayload1Len := 1
    txPayload2Len := 4
    pTxPayload2 := fun index => if index < 4 then BitVec.ofNat 8 (index + 2) else 0xEE }

/-- A call with transfers enough. -/
def writing : DrvState := .start [] 8 (messageCBInit 0)

/-- The bytes that a call hands to the interface. -/
def sentBytes (cfg : ProtocolConfig) (cmdCtrl : CmdCtrl) (ext : CmdExt)
    (pTxRxDescBuff : Option (ℕ → Byte)) (s : DrvState) : List Byte :=
  match (slDrvMsgWrite cfg cmdCtrl (some ext) pTxRxDescBuff).run s with
  | .ok _ after => (transfersOf after).flatten
  | .error _ after => (transfersOf after).flatten

theorem completes_splitExt :
    Completes (slDrvMsgWrite wholeWordsProtocol sendCtrl (some splitExt) (some fun _ => 0))
      writing fun _ after => ∃ packets, transfersOf after = transfersOf writing ++ packets ∧
        IsFrame wholeWordsProtocol sendCtrl (some fun _ => 0) [1, 2, 3, 4, 5] packets :=
  completes_slDrvMsgWrite_frame (fun _ _ => rfl) (by decide) (by decide) (by decide) (by decide)
    (by decide)

/-- The padding of the last word is read from behind the buffer that ends the payload. -/
theorem sentBytes_split_ne :
    payloadBytes wholeExt = payloadBytes splitExt ∧
      sentBytes wholeWordsProtocol sendCtrl wholeExt (some fun _ => 0) writing ≠
        sentBytes wholeWordsProtocol sendCtrl splitExt (some fun _ => 0) writing := by
  decide

/-- One byte of payload in the receive buffer. -/
def oneByteExt : CmdExt :=
  { wholeExt with pRxPayload := some fun _ => 0x55, rxPayloadLen := -1, txPayload1Len := 0 }

theorem completes_oneByteExt :
    Completes (slDrvMsgWrite wholeWordsProtocol sendCtrl (some oneByteExt) (some fun _ => 0))
      writing fun _ after => ∃ body, transfersOf after = transfersOf writing ++
          ([[0xFF, 0xEE, 0xDD, 0xBB], [0x00, 0x94, 0x09, 0x00]] ++ body) ∧
        (body.flatten.length = 9 ↔ 4 ∣ 1) :=
  completes_slDrvMsgWrite_announced_iff (fun _ _ => rfl) (by decide) (by decide) (by decide)
    (by decide) (by decide) (by decide)

/-- Nine bytes are announced, and twelve follow the sync pattern and the protocol header. -/
theorem announced_oneByteExt :
    (protocolLen wholeWordsProtocol sendCtrl (some oneByteExt)).toNat = 9 ∧
      (sentBytes wholeWordsProtocol sendCtrl oneByteExt (some fun _ => 0) writing).length =
        4 + 4 + 12 := by
  decide

end Split

end SimpleLinkHost.MsgWrite
