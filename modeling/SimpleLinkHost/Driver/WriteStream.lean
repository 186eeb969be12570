import SimpleLinkHost.Core.Framing
import SimpleLinkHost.Driver.MsgWire

/-!
# The stream of messages

The driver writes its messages one behind the other, and the interface may fail at any
transfer.  What was handed to it until then is a stream of frames and the beginning of one
more; it tells which messages were written whole.
-/

namespace SimpleLinkHost.WriteStream

open CallOutcome Calls GlobalLock MsgWrite Framing

section Hands

variable {s : DrvState} {program : DrvM Unit} {packets more : List (List Byte)}

/-- The program hands these transfers to the interface, as many as succeed, and returns
unless all of them do. -/
def Hands (program : DrvM Unit) (s : DrvState) (packets : List (List Byte)) : Prop :=
  Ends program s
    (fun _ after => s.writesLeft = after.writesLeft + packets.length ∧
      transfersOf after = transfersOf s ++ packets)
    fun ret after => ret = .apiAborted ∧ s.writesLeft < packets.length ∧
      transfersOf after = transfersOf s ++ packets.take s.writesLeft

theorem hands_pure : Hands (pure ()) s [] := ⟨rfl, (List.append_nil _).symm⟩

theorem hands_modifyCB (change : DriverCB → DriverCB) : Hands (modifyCB change) s [] :=
  ⟨rfl, (List.append_nil _).symm⟩

theorem hands_nwpIfWriteCheck (bytes : List Byte) : Hands (nwpIfWriteCheck bytes) s [bytes] := by
  rw [Hands, nwpIfWriteCheck, ends_bind, ends_get]
  cases hleft : s.writesLeft with
  | zero => exact ⟨rfl, Nat.zero_lt_one, transfersOf_after (.fatalError .driverAbort)⟩
  | succ left => exact ⟨rfl, transfersOf_after (.ifWrite bytes)⟩

theorem hands_verifyProtocol (check : Bool) : Hands (verifyProtocol check) s [] := by
  cases check with
  | true => exact hands_pure
  | false => exact ⟨rfl, transfersOf_after (.fatalError .driverAbort)⟩

theorem Hands.seq {next : Unit → DrvM Unit} (hprogram : Hands program s packets)
    (hnext : ∀ after, Hands (next ()) after more) :
    Hands (program >>= next) s (packets ++ more) := by
  rw [Hands, ends_bind, List.length_append]
  apply Ends.mono hprogram
  · intro _ middle hmiddle
    obtain ⟨hleft, htransfers⟩ := hmiddle
    apply Ends.mono (hnext middle)
    · intro _ after hafter
      refine ⟨by omega, ?_⟩
      rw [hafter.2, htransfers, List.append_assoc]
    · intro ret after hafter
      obtain ⟨hret, hshort, hafter⟩ := hafter
      refine ⟨hret, by omega, ?_⟩
      rw [hafter, htransfers, List.append_assoc, hleft, Nat.add_comm,
        List.take_length_add_append]
  · intro ret after hafter
    obtain ⟨hret, hshort, hafter⟩ := hafter
    refine ⟨hret, by omega, ?_⟩
    rw [hafter, List.take_append_of_le_length (by omega)]

theorem hands_runIf {cond : Prop} [Decidable cond] (hprogram : Hands program s packets) :
    Hands (runIf cond program) s (if cond then packets else []) := by
  rw [runIf]
  split
  · exact hprogram
  · exact hands_pure

theorem hands_writePayloads (ext : CmdExt) : Hands (writePayloads ext) s (payloadPackets ext) := by
  rw [writePayloads, payloadPackets]
  split
  · rw [writeTwoPayloads, twoPayloadPackets, ← List.nil_append ([_] ++ _)]
    apply (hands_modifyCB _).seq
    intro cut
    apply (hands_nwpIfWriteCheck _).seq
    intro first
    apply (hands_runIf (hands_nwpIfWriteCheck _)).seq
    intro bridged
    exact hands_runIf (hands_nwpIfWriteCheck _)
  · split
    · exact hands_nwpIfWriteCheck _
    · split
      · exact hands_nwpIfWriteCheck _
      · exact hands_pure

/-- The transfers of the payloads, if there are parameters. -/
def extPackets : Option CmdExt → List (List Byte)
  | none => []
  | some ext => rxPayloadPackets ext ++ payloadPackets ext

theorem hands_writeExt (cmdCtrl : CmdCtrl) (ext : Option CmdExt) :
    Hands (writeExt cmdCtrl ext) s (extPackets ext) := by
  cases ext with
  | none => exact hands_pure
  | some ext =>
      have hrxPayload : Hands (runIf (sendRxPayload ext) (writeRxPayload (signChanged ext))) s
          (rxPayloadPackets ext) := by
        rw [rxPayloadPackets, runIf, signChanged]
        split
        · exact hands_nwpIfWriteCheck _
        · exact hands_pure
      apply hrxPayload.seq
      intro sent
      rw [← List.nil_append (payloadPackets ext), ← payloadPackets_signChanged]
      apply (hands_verifyProtocol _).seq
      exact fun _ => hands_writePayloads _

/-- The transfers of a message. -/
def messagePackets (cfg : ProtocolConfig) (cmdCtrl : CmdCtrl) (ext : Option CmdExt)
    (pTxRxDescBuff : Option (ℕ → Byte)) : List (List Byte) :=
  [cfg.h2nSyncPattern] ++ ([cfg.protocolHeader cmdCtrl.opcode (protocolLen cfg cmdCtrl ext)] ++
    (descriptorPackets cmdCtrl pTxRxDescBuff ++ extPackets ext))

theorem hands_slDrvMsgWrite (cfg : ProtocolConfig) (cmdCtrl : CmdCtrl) (ext : Option CmdExt)
    (pTxRxDescBuff : Option (ℕ → Byte)) :
    Hands (slDrvMsgWrite cfg cmdCtrl ext pTxRxDescBuff) s
      (messagePackets cfg cmdCtrl ext pTxRxDescBuff) := by
  rw [messagePackets, ← List.nil_append ([cfg.h2nSyncPattern] ++ _)]
  apply (hands_modifyCB _).seq
  intro saved
  apply (hands_nwpIfWriteCheck _).seq
  intro synced
  apply (hands_nwpIfWriteCheck _).seq
  intro headed
  have hdescriptors : ∀ s, Hands (writeDescriptors cmdCtrl pTxRxDescBuff) s
      (descriptorPackets cmdCtrl pTxRxDescBuff) := by
    intro s
    cases pTxRxDescBuff with
    | none => exact hands_pure
    | some desc => exact hands_runIf (hands_nwpIfWriteCheck _)
  apply (hdescriptors headed).seq
  exact fun _ => hands_writeExt cmdCtrl ext

end Hands

section Frames

/-- What the SDK's headers promise of the protocol: a protocol header of one length that tells
the opcode and the announced length, which counts whole words. -/
structure SdkProtocol extends ProtocolConfig where
  headerLen : ℕ
  headerLen_pos : 0 < headerLen
  length_protocolHeader : ∀ opcode len, (protocolHeader opcode len).length = headerLen
  protocolHeader_injective : Function.Injective2 protocolHeader
  calcsWholeWords : CalcsWholeWords toProtocolConfig
  calcLen_none : ∀ cmdCtrl,
    calcLen cmdCtrl none = BitVec.ofNat 16 (alignSize cmdCtrl.txDescLen.toNat)

/-- The bytes behind the protocol header. -/
def messageLen (cmdCtrl : CmdCtrl) : Option CmdExt → ℕ
  | none => cmdCtrl.txDescLen.toNat
  | some ext =>
      frameLen cmdCtrl (payloadBytes ext) +
        if sendRxPayload ext then ext.rxPayloadLen.toInt.natAbs else 0

/-- A message as its callers make it: descriptors in whole words, a payload in the receive
buffer in whole words if it is one to send, and a length that fits its field. -/
structure Message where
  cmdCtrl : CmdCtrl
  ext : Option CmdExt
  pTxRxDescBuff : Option (ℕ → Byte)
  aligned : cmdCtrl.txDescLen.toNat % 4 = 0
  described : pTxRxDescBuff = none → cmdCtrl.txDescLen = 0
  wholeWords : ∀ e ∈ ext, e.rxPayloadLen.toInt < 0 →
    -32767 ≤ e.rxPayloadLen.toInt ∧ 4 ∣ e.rxPayloadLen.toInt.natAbs
  fits : messageLen cmdCtrl ext < 2 ^ 16

variable (cfg : SdkProtocol)

/-- A message announces the bytes behind its protocol header. -/
def messageFormat : Format (BitVec 16 × BitVec 16) Byte where
  encode head := cfg.h2nSyncPattern ++ cfg.protocolHeader head.1 head.2
  headLen := cfg.h2nSyncPattern.length + cfg.headerLen
  bodyLen head := head.2.toNat
  headLen_pos := Nat.add_pos_right _ cfg.headerLen_pos
  length_encode head := by rw [List.length_append, cfg.length_protocolHeader]
  encode_injective head other heq := by
    have hheader := List.append_cancel_left heq
    obtain ⟨hopcode, hlen⟩ := cfg.protocolHeader_injective hheader
    exact Prod.ext hopcode hlen

/-- The magnitude of a negative length. -/
theorem toNat_neg_of_neg {len : BitVec 16} (hneg : len.toInt < 0) :
    (-len).toNat = len.toInt.natAbs := by
  rw [BitVec.toNat_neg]
  rw [BitVec.toInt_eq_toNat_cond] at hneg ⊢
  split at hneg
  · omega
  · omega

/-- The length announced is that of the descriptors and the payloads. -/
theorem protocolLen_toNat (message : Message) :
    (protocolLen cfg.toProtocolConfig message.cmdCtrl message.ext).toNat =
      messageLen message.cmdCtrl message.ext := by
  obtain ⟨cmdCtrl, ext, pTxRxDescBuff, haligned, -, hwords, hfits⟩ := message
  cases ext with
  | none =>
      rw [messageLen] at hfits
      rw [protocolLen, cfg.calcLen_none, alignSize_of_aligned haligned, BitVec.toNat_ofNat,
        Nat.mod_eq_of_lt hfits, messageLen]
  | some ext =>
      change messageLen cmdCtrl (some ext) < 2 ^ 16 at hfits
      change (protocolLen cfg.toProtocolConfig cmdCtrl (some ext)).toNat = messageLen _ (some ext)
      rw [messageLen] at hfits ⊢
      rw [protocolLen, calcLen_eq cfg.calcsWholeWords haligned]
      split
      · rename_i hsend
        rw [if_pos hsend] at hfits
        rw [BitVec.toNat_add, toNat_neg_of_neg ((sendRxPayload_iff ext).mp hsend), announcedLen,
          BitVec.toNat_ofNat, Nat.mod_add_mod, Nat.mod_eq_of_lt hfits]
      · rename_i hkeep
        rw [if_neg hkeep, Nat.add_zero] at hfits
        rw [announcedLen, BitVec.toNat_ofNat, Nat.mod_eq_of_lt hfits, Nat.add_zero]

/-- What a message is to its reader. -/
def Message.frame (message : Message) : Frame (messageFormat cfg) where
  head := (message.cmdCtrl.opcode,
    protocolLen cfg.toProtocolConfig message.cmdCtrl message.ext)
  body := (descriptorPackets message.cmdCtrl message.pTxRxDescBuff ++
    extPackets message.ext).flatten
  length_body := by
    change _ = (protocolLen cfg.toProtocolConfig message.cmdCtrl message.ext).toNat
    rw [protocolLen_toNat]
    obtain ⟨cmdCtrl, ext, pTxRxDescBuff, haligned, hdescribed, hwords, -⟩ := message
    cases ext with
    | none =>
        obtain ⟨hflatten, hlength⟩ := flatten_descriptorPackets haligned hdescribed
        change (descriptorPackets cmdCtrl pTxRxDescBuff ++ []).flatten.length = _
        rw [List.append_nil, hflatten, hlength, messageLen]
    | some ext =>
        change (bodyPackets cmdCtrl ext pTxRxDescBuff).flatten.length =
          messageLen cmdCtrl (some ext)
        rw [length_bodyPackets haligned hdescribed, messageLen]
        split
        · rename_i hsend
          have hneg := (sendRxPayload_iff ext).mp hsend
          have hdvd := (hwords ext rfl hneg).2
          rw [toNat_neg_of_neg hneg, alignSize_of_aligned (Nat.mod_eq_zero_of_dvd hdvd)]
        · rfl

/-- The transfers of the message. -/
def Message.packets (message : Message) : List (List Byte) :=
  messagePackets cfg.toProtocolConfig message.cmdCtrl message.ext message.pTxRxDescBuff

theorem flatten_packets (message : Message) :
    (message.packets cfg).flatten = (message.frame cfg).letters := by
  rw [Message.packets, messagePackets, Frame.letters, List.flatten_append, List.flatten_append,
    List.flatten_singleton, List.flatten_singleton, ← List.append_assoc]
  rfl

end Frames

section Cuts

variable {packets more : List (List Byte)}

/-- The last transfer, if there is one, has some bytes. -/
def EndsFull (packets : List (List Byte)) : Prop := ∀ last ∈ packets.getLast?, last ≠ []

theorem endsFull_nil : EndsFull [] := by simp [EndsFull]

theorem endsFull_singleton {bytes : List Byte} (hbytes : bytes ≠ []) : EndsFull [bytes] := by
  simpa [EndsFull] using hbytes

theorem endsFull_bufferBytes {buffer : ℕ → Byte} {offset count : ℕ} (hcount : 0 < count) :
    EndsFull [bufferBytes buffer offset count] := by
  apply endsFull_singleton
  rw [← List.length_pos_iff, length_bufferBytes]
  exact hcount

theorem EndsFull.append (hpackets : EndsFull packets) (hmore : EndsFull more) :
    EndsFull (packets ++ more) := by
  intro last hlast
  rw [List.getLast?_append] at hlast
  cases hfound : more.getLast? with
  | none =>
      rw [hfound] at hlast
      exact hpackets last hlast
  | some found =>
      rw [hfound] at hlast
      exact hmore last (hfound.trans hlast)

theorem endsFull_append_of_ne_nil (hne : more ≠ []) (hmore : EndsFull more) :
    EndsFull (packets ++ more) := by
  intro last hlast
  rw [List.getLast?_append_of_ne_nil _ hne] at hlast
  exact hmore last hlast

theorem alignSize_pos {size : ℕ} (hsize : 0 < size) : 0 < alignSize size := by
  rw [alignSize]
  omega

theorem endsFull_payloadPackets (ext : CmdExt) : EndsFull (payloadPackets ext) := by
  rw [payloadPackets]
  split
  · rename_i hboth
    rw [twoPayloadPackets]
    by_cases hrest : secondPayloadOffset ext < ext.txPayload2Len.toNat
    · rw [if_pos hrest, ← List.append_assoc]
      apply endsFull_append_of_ne_nil (List.cons_ne_nil _ _)
      exact endsFull_bufferBytes (alignSize_pos (by omega))
    · have hreminder : ext.txPayload1Len.toNat % 4 ≠ 0 := by
        intro hzero
        rw [secondPayloadOffset, if_pos hzero] at hrest
        exact hrest hboth.2
      rw [if_neg hrest, List.append_nil, if_pos hreminder]
      apply endsFull_append_of_ne_nil (List.cons_ne_nil _ _)
      apply endsFull_singleton
      rw [← List.length_pos_iff, List.length_append, length_bufferBytes]
      omega
  · split
    · rename_i hfirst
      exact endsFull_bufferBytes (alignSize_pos hfirst)
    · split
      · rename_i hsecond
        exact endsFull_bufferBytes (alignSize_pos hsecond)
      · exact endsFull_nil

variable (cfg : SdkProtocol)

/-- The last transfer of a message is never empty. -/
theorem endsFull_packets (message : Message) : EndsFull (message.packets cfg) := by
  rw [Message.packets, messagePackets]
  apply endsFull_append_of_ne_nil (by simp)
  apply EndsFull.append
  · apply endsFull_singleton
    rw [← List.length_pos_iff, cfg.length_protocolHeader]
    exact cfg.headerLen_pos
  apply EndsFull.append
  · cases message.pTxRxDescBuff with
    | none => exact endsFull_nil
    | some desc =>
        rw [descriptorPackets]
        split
        · rename_i hlen
          exact endsFull_bufferBytes (alignSize_pos hlen)
        · exact endsFull_nil
  · cases message.ext with
    | none => exact endsFull_nil
    | some ext =>
        apply EndsFull.append _ (endsFull_payloadPackets ext)
        rw [rxPayloadPackets]
        split
        · rename_i hsend
          have hneg := (sendRxPayload_iff ext).mp hsend
          apply endsFull_bufferBytes (alignSize_pos _)
          rw [toNat_neg_of_neg hneg]
          omega
        · exact endsFull_nil

/-- Fewer transfers than there are hand over fewer bytes. -/
theorem flatten_take_ne {count : ℕ} (hfull : EndsFull packets) (hcount : count < packets.length) :
    (packets.take count).flatten ≠ packets.flatten := by
  intro heq
  have hsplit := congrArg List.flatten (List.take_append_drop count packets)
  rw [List.flatten_append, heq] at hsplit
  have hlost := List.append_right_eq_self.mp hsplit
  have hne : packets.drop count ≠ [] := by
    rw [← List.length_pos_iff, List.length_drop]
    omega
  have hlast := List.getLast_mem hne
  have hempty := List.flatten_eq_nil_iff.mp hlost _ hlast
  apply hfull _ _ hempty
  rw [List.getLast_drop, List.getLast?_eq_some_getLast]
  rfl

end Cuts

section Streams

variable (cfg : SdkProtocol) {s after : DrvState} {messages written : List Message}

/-- Messages written one behind the other until a write fails, which ends the use of the
device; gives those back whose write succeeded. -/
def writeAll : List Message → DrvM (List Message)
  | [] => return []
  | message :: rest => do
      let sent ← attempt stopsCaller
        (slDrvMsgWrite cfg.toProtocolConfig message.cmdCtrl message.ext message.pTxRxDescBuff)
      match sent with
      | .error _ => return []
      | .ok _ =>
          let others ← writeAll rest
          return message :: others

/-- The bytes that were handed to the interface. -/
def wireBytes (s : DrvState) : List Byte := (transfersOf s).flatten

/-- What was handed over is the stream of the messages that were written, and the beginning of
one more. -/
theorem completes_writeAll (messages : List Message) (s : DrvState) :
    Completes (writeAll cfg messages) s fun written after =>
      ∃ rest, IsCut (messageFormat cfg) rest ∧
        wireBytes after = wireBytes s ++ (stream (written.map (Message.frame cfg)) ++ rest) := by
  induction messages generalizing s with
  | nil => exact ⟨[], isCut_nil, by simp⟩
  | cons message messages ih =>
      have hhands := hands_slDrvMsgWrite cfg.toProtocolConfig message.cmdCtrl message.ext
        message.pTxRxDescBuff (s := s)
      rw [Completes, writeAll, ends_bind, ends_attempt]
      apply Ends.mono hhands
      · intro _ sent hsent
        rw [ends_bind]
        apply (ih sent).mono
        intro others last hlast
        obtain ⟨rest, hcut, hbytes⟩ := hlast
        refine ⟨rest, hcut, ?_⟩
        have hletters : (messagePackets cfg.toProtocolConfig message.cmdCtrl message.ext
            message.pTxRxDescBuff).flatten = (message.frame cfg).letters :=
          flatten_packets cfg message
        rw [hbytes, wireBytes, hsent.2, List.flatten_append, hletters, List.map_cons, stream_cons,
          wireBytes, List.append_assoc, List.append_assoc]
      · intro ret lost hlost
        obtain ⟨rfl, hshort, htransfers⟩ := hlost
        rw [if_neg (by decide)]
        refine ⟨((message.packets cfg).take s.writesLeft).flatten, ?_, ?_⟩
        · have hprefix : ((message.packets cfg).take s.writesLeft).flatten <+:
              (message.frame cfg).letters := by
            rw [← flatten_packets]
            exact (List.take_prefix _ _).flatten
          apply isCut_of_prefix hprefix
          rw [← flatten_packets]
          exact flatten_take_ne (endsFull_packets cfg message) hshort
        · rw [wireBytes, htransfers, List.flatten_append]
          rfl

/-- A header of the opcode and the length, both with the low byte first. -/
def wholeWordsSdk : SdkProtocol where
  toProtocolConfig := wholeWordsProtocol
  headerLen := 4
  headerLen_pos := by decide
  length_protocolHeader _ _ := rfl
  protocolHeader_injective opcode opcode' len len' heq := by
    simp only [wholeWordsProtocol, List.cons.injEq, and_true] at heq
    obtain ⟨hlow, hhigh, hlenLow, hlenHigh⟩ := heq
    constructor
    · bv_omega
    · bv_omega
  calcsWholeWords _ _ := rfl
  calcLen_none _ := rfl

/-- A message with five bytes of payload. -/
def fiveBytes (byte : Byte) : Message where
  cmdCtrl := sendCtrl
  ext := some { wholeExt with pTxPayload1 := fun _ => byte }
  pTxRxDescBuff := some fun _ => 0
  aligned := by decide
  described := by decide
  wholeWords e he hneg := by
    rw [Option.mem_some_iff] at he
    subst he
    exact absurd hneg (by change ¬(0 : BitVec 16).toInt < 0; decide)
  fits := by
    simp [messageLen, frameLen, length_payloadBytes, sendRxPayload, wholeExt, sendCtrl, alignSize]

end Streams

end SimpleLinkHost.WriteStream
