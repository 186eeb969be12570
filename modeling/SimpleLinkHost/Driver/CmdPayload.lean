import SimpleLinkHost.Driver.CmdOpLocks
import SimpleLinkHost.Driver.Delivery

/-!
# The payload of a command response

A response payload is read in whole words, copied as far as the user has room, and the rest
of it is dumped.  The tail of a truncated copy is taken off the size that the dump loop
compares with the room of the user, so that the loop may stop a word too early.
-/

namespace SimpleLinkHost.CmdPayload

open CallOutcome Calls GlobalLock MsgWrite RxMsg MsgRead MsgFate Delivery

section Sizes

variable {actDataSize rxPayloadLen : BitVec 16}

theorem toNat_of_pos (hpos : 0 < actDataSize.toInt) :
    actDataSize.toInt = actDataSize.toNat ∧ 0 < actDataSize.toNat ∧
      actDataSize.toNat < 2 ^ 15 := by
  have hlt := actDataSize.isLt
  rw [BitVec.toInt_eq_toNat_cond] at hpos ⊢
  split at hpos
  · rename_i hsmall
    rw [if_pos hsmall]
    omega
  · omega

theorem alignedNeed_eq (len : BitVec 16) : alignedNeed len = alignSize len.toNat := by
  rw [alignedNeed, alignSize, wholeWords]
  split_ifs <;> omega

/-- The user gets what there is and what there is room for. -/
theorem toNat_cmdCopyLen (hsize : 0 < actDataSize.toInt) (hroom : 0 < rxPayloadLen.toInt) :
    (cmdCopyLen actDataSize rxPayloadLen).toNat = min actDataSize.toNat rxPayloadLen.toNat := by
  have hsizeNat := (toNat_of_pos hsize).1
  have hroomNat := (toNat_of_pos hroom).1
  rw [cmdCopyLen]
  split <;> omega

/-- The size that the dump loop goes by. -/
theorem toInt_cmdRestSize (hsize : 0 < actDataSize.toInt) (hroom : 0 < rxPayloadLen.toInt) :
    (cmdRestSize actDataSize rxPayloadLen).toInt =
      if min actDataSize.toNat rxPayloadLen.toNat % 4 = 0 then (actDataSize.toNat : ℤ)
      else actDataSize.toNat - 4 := by
  obtain ⟨hsizeNat, hsizePos, hsizeLt⟩ := toNat_of_pos hsize
  rw [cmdRestSize, toNat_cmdCopyLen hsize hroom]
  by_cases htail : min actDataSize.toNat rxPayloadLen.toNat % 4 = 0
  · rw [if_neg (by omega), if_pos htail, hsizeNat]
  · rw [if_pos (by omega), if_neg htail, BitVec.toInt_sub, hsizeNat]
    have hfour : (4 : BitVec 16).toInt = 4 := by decide
    rw [hfour]
    exact Int.bmod_eq_of_le (by omega) (by omega)

/-- What the dump loop reads once it starts. -/
theorem cmdDumpLen_eq (hsize : 0 < actDataSize.toInt) (hroom : 0 < rxPayloadLen.toInt)
    (hdump : rxPayloadLen.toInt < (cmdRestSize actDataSize rxPayloadLen).toInt) :
    (cmdDumpLen actDataSize rxPayloadLen : ℤ) =
      ((cmdRestSize actDataSize rxPayloadLen).toInt + 3 - rxPayloadLen.toNat) / 4 * 4 := by
  obtain ⟨hsizeNat, hsizePos, hsizeLt⟩ := toNat_of_pos hsize
  obtain ⟨hroomNat, hroomPos, hroomLt⟩ := toNat_of_pos hroom
  have hrest := toInt_cmdRestSize hsize hroom
  have hdumps : 0 < (cmdRestSize actDataSize rxPayloadLen).toInt := hroom.trans hdump
  obtain ⟨hrestNat, hrestPos, hrestLt⟩ := toNat_of_pos hdumps
  have hthree : (3 : BitVec 16).toNat = 3 := by decide
  rw [cmdDumpLen, wholeWords, BitVec.toNat_sub, BitVec.toNat_add, hthree, hrestNat]
  omega

/-- The payload bytes that are read: the padded payload, or one word less. -/
theorem cmdPayloadNeed_eq (hsize : 0 < actDataSize.toInt) (hroom : 0 < rxPayloadLen.toInt) :
    cmdPayloadNeed actDataSize rxPayloadLen =
      if actDataSize.toNat ≤ alignSize rxPayloadLen.toNat
          ∨ rxPayloadLen.toNat % 4 ≤ (actDataSize.toNat + 3) % 4 then
        alignSize actDataSize.toNat
      else alignSize actDataSize.toNat - 4 := by
  obtain ⟨hsizeNat, hsizePos, hsizeLt⟩ := toNat_of_pos hsize
  obtain ⟨hroomNat, hroomPos, hroomLt⟩ := toNat_of_pos hroom
  have hrest := toInt_cmdRestSize hsize hroom
  rw [cmdPayloadNeed, alignedNeed_eq, toNat_cmdCopyLen hsize hroom]
  by_cases hdump : rxPayloadLen.toInt < (cmdRestSize actDataSize rxPayloadLen).toInt
  · have hlen := cmdDumpLen_eq hsize hroom hdump
    rw [if_pos hdump]
    unfold alignSize
    split_ifs at hrest ⊢ <;> omega
  · rw [if_neg hdump]
    unfold alignSize
    split_ifs at hrest ⊢ <;> omega

end Sizes

section Response

variable (cfg : RxConfig) {header : RespHeader} {s : DrvState} {ext : CmdExt}
variable {actDataSize rxPayloadLen : BitVec 16}

theorem completes_readCmdPayload
    (hrx : cmdPayloadNeed actDataSize rxPayloadLen ≤ s.rx.length) :
    Completes (readCmdPayload actDataSize rxPayloadLen) s fun _ after =>
      Fills .rxPayload s (cmdPayloadNeed actDataSize rxPayloadLen) 0
        (cmdCopyLen actDataSize rxPayloadLen).toNat after := by
  rw [cmdPayloadNeed, alignedNeed_eq] at hrx ⊢
  apply (completes_readAligned (cmdCopyLen actDataSize rxPayloadLen) (by omega)).bind
  intro _ copied hcopied
  have hleft : copied.rx.length = s.rx.length -
      alignSize (cmdCopyLen actDataSize rxPayloadLen).toNat := by
    rw [hcopied.rx, List.length_drop]
  rw [ends_runIf]
  split
  · rename_i hdump
    rw [if_pos hdump] at hrx
    apply (completes_dumpWords .rxPayload _ (by omega)).mono
    intro _ after hafter
    refine ⟨?_, hafter.cb.trans hcopied.cb, fun index => ?_⟩
    · rw [hafter.rx, hcopied.rx, List.drop_drop]
    · rw [hafter.bytes, hcopied.bytes]
  · exact hcopied

/-- The response of a command with room for a payload: how far the interface is read, what
the user finds, and the size that is reported. -/
theorem completes_readCmdResp (hext : s.cb.pCmdExt = some ext) (hroom : 0 < ext.rxPayloadLen.toInt)
    (hsize : 0 < (cmdActDataSize cfg header s.cb.pCmdCtrl).toInt)
    (hrx : alignSize s.cb.pCmdCtrl.rxDescLen.toNat +
      alignSize (cmdActDataSize cfg header s.cb.pCmdCtrl).toNat ≤ s.rx.length) :
    Completes (readCmdResp cfg header) s fun _ after =>
      after.rx = s.rx.drop (alignSize s.cb.pCmdCtrl.rxDescLen.toNat +
        cmdPayloadNeed (cmdActDataSize cfg header s.cb.pCmdCtrl) ext.rxPayloadLen) ∧
      after.cb.pCmdExt =
        some { ext with actualRxPayloadLen := cmdActDataSize cfg header s.cb.pCmdCtrl } ∧
      ∀ index, bufferAt .rxPayload after.acts index =
        if index < min (cmdActDataSize cfg header s.cb.pCmdCtrl).toNat ext.rxPayloadLen.toNat then
          s.rx[alignSize s.cb.pCmdCtrl.rxDescLen.toNat + index]?
        else bufferAt .rxPayload s.acts index := by
  generalize hactDataSize : cmdActDataSize cfg header s.cb.pCmdCtrl = actDataSize at *
  have hne : ext.rxPayloadLen ≠ 0 := by
    intro hzero
    rw [hzero] at hroom
    exact absurd hroom (by decide)
  have hneed := cmdPayloadNeed_eq hsize hroom
  rw [Completes, readCmdResp, ends_bind, ends_get, hext]
  apply (completes_readInto_other .rxPayload 0 (by simp)
    (by omega : alignSize s.cb.pCmdCtrl.rxDescLen.toNat ≤ s.rx.length)).bind
  intro _ described hdescribed
  simp only [runIf, if_pos hne, hactDataSize]
  rw [readCmdExt, ends_bind, ends_modifyCB, if_neg (by omega)]
  generalize hchange : (fun cb : DriverCB =>
    { cb with pCmdExt := some { ext with actualRxPayloadLen := actDataSize } }) = change
  have hleft : cmdPayloadNeed actDataSize ext.rxPayloadLen ≤
      (described.changeCB change).rx.length := by
    rw [DrvState.changeCB_rx, hdescribed.rx, List.length_drop]
    split at hneed <;> omega
  apply (completes_readCmdPayload hleft).mono
  intro _ after hafter
  refine ⟨?_, ?_, fun index => ?_⟩
  · rw [hafter.rx, DrvState.changeCB_rx, hdescribed.rx, List.drop_drop]
  · rw [hafter.cb, DrvState.changeCB_cb, ← hchange]
  · rw [hafter.bytes, toNat_cmdCopyLen hsize hroom]
    by_cases hindex : index < min actDataSize.toNat ext.rxPayloadLen.toNat
    · rw [if_pos (by omega), if_pos hindex, DrvState.changeCB_rx, hdescribed.rx,
        List.getElem?_drop, Nat.sub_zero]
    · rw [if_neg (by omega), if_neg hindex]
      exact hdescribed.bytes index

end Response

section Results

variable (cfg : RxConfig) {header : RespHeader} {s : DrvState} {ext : CmdExt}

/-- The response is read up to the end of its padded payload, where the next message
starts. -/
def ReadsToNext (header : RespHeader) (s : DrvState) : Prop :=
  ∃ after, (readCmdResp cfg header).run s = .ok () after ∧
    after.rx = s.rx.drop (alignSize s.cb.pCmdCtrl.rxDescLen.toNat +
      alignSize (cmdActDataSize cfg header s.cb.pCmdCtrl).toNat)

/-- A truncated payload is read to its end unless the dump loop stops a word too early. -/
theorem readsToNext_iff (hext : s.cb.pCmdExt = some ext) (hroom : 0 < ext.rxPayloadLen.toInt)
    (hsize : 0 < (cmdActDataSize cfg header s.cb.pCmdCtrl).toInt)
    (hrx : alignSize s.cb.pCmdCtrl.rxDescLen.toNat +
      alignSize (cmdActDataSize cfg header s.cb.pCmdCtrl).toNat ≤ s.rx.length) :
    ReadsToNext cfg header s ↔
      (cmdActDataSize cfg header s.cb.pCmdCtrl).toNat ≤ alignSize ext.rxPayloadLen.toNat ∨
        ext.rxPayloadLen.toNat % 4 ≤ ((cmdActDataSize cfg header s.cb.pCmdCtrl).toNat + 3) % 4 := by
  have hneed := cmdPayloadNeed_eq hsize hroom
  have hpos := (toNat_of_pos hsize).2.1
  have hread := completes_readCmdResp cfg hext hroom hsize hrx
  rw [Completes, Ends] at hread
  split at hread
  · rename_i _ after hrun
    obtain ⟨hafter, -, -⟩ := hread
    constructor
    · intro hreads
      by_contra hneither
      obtain ⟨other, hother, hnext⟩ := hreads
      rw [hrun] at hother
      cases hother
      rw [if_neg hneither] at hneed
      have hlengths := congrArg List.length (hafter.symm.trans hnext)
      rw [List.length_drop, List.length_drop, hneed] at hlengths
      unfold alignSize at hlengths hrx
      omega
    · intro hcondition
      rw [if_pos hcondition] at hneed
      exact ⟨after, hrun, hneed ▸ hafter⟩
  · exact hread.elim

/-- The payload of a response, as the interface delivers it behind the descriptor. -/
def respPayload (header : RespHeader) (s : DrvState) : List Byte :=
  (s.rx.drop (alignSize s.cb.pCmdCtrl.rxDescLen.toNat)).take
    (cmdActDataSize cfg header s.cb.pCmdCtrl).toNat

/-- The user finds as much of the payload as there is room for, nothing else in the buffer
is written, and the size of the payload is reported. -/
theorem readCmdResp_delivers (hext : s.cb.pCmdExt = some ext)
    (hroom : 0 < ext.rxPayloadLen.toInt)
    (hsize : 0 < (cmdActDataSize cfg header s.cb.pCmdCtrl).toInt)
    (hrx : alignSize s.cb.pCmdCtrl.rxDescLen.toNat +
      alignSize (cmdActDataSize cfg header s.cb.pCmdCtrl).toNat ≤ s.rx.length) :
    ∃ after, (readCmdResp cfg header).run s = .ok () after ∧
      (∀ index, bufferAt .rxPayload after.acts index =
        if index < min (cmdActDataSize cfg header s.cb.pCmdCtrl).toNat ext.rxPayloadLen.toNat then
          (respPayload cfg header s)[index]?
        else bufferAt .rxPayload s.acts index) ∧
      after.cb.pCmdExt.map (·.actualRxPayloadLen) =
        some (cmdActDataSize cfg header s.cb.pCmdCtrl) := by
  have hread := completes_readCmdResp cfg hext hroom hsize hrx
  rw [Completes, Ends] at hread
  split at hread
  · rename_i _ after hrun
    obtain ⟨-, hreported, hbytes⟩ := hread
    refine ⟨after, hrun, fun index => ?_, by rw [hreported, Option.map_some]⟩
    rw [hbytes]
    by_cases hindex :
        index < min (cmdActDataSize cfg header s.cb.pCmdCtrl).toNat ext.rxPayloadLen.toNat
    · rw [if_pos hindex, if_pos hindex, respPayload, List.getElem?_take_of_lt (by omega),
        List.getElem?_drop]
    · rw [if_neg hindex, if_neg hindex]
  · exact hread.elim

end Results

section Truncated

/-- A command without descriptor bytes whose user has room for `room` bytes, with a response
payload of `size` bytes and four bytes of the next message on their way. -/
def awaiting (size room : ℕ) : DrvState :=
  .start (List.replicate (alignSize size) 0xAA ++ [1, 2, 3, 4]) 0
    { messageCBInit 1 with
      pCmdExt := some
        { pRxPayload := some fun _ => 0
          rxPayloadLen := BitVec.ofNat 16 room
          actualRxPayloadLen := 0
          txPayload1Len := 0
          pTxPayload1 := fun _ => 0
          txPayload2Len := 0
          pTxPayload2 := fun _ => 0 } }

/-- A response header for a payload of `size` bytes. -/
def respOf (size : ℕ) : RespHeader where
  opcode := 0x4400
  len := CmdOpLocks.smallRxConfig.respSpecHdrSize + BitVec.ofNat 16 size
  txPoolCnt := 10
  devStatus := 0
  minMaxPayload := 1536
  socketTXFailure := 0
  socketNonBlocking := 0

/-- Six bytes of which the user takes four. -/
theorem readsToNext_six_four :
    ReadsToNext CmdOpLocks.smallRxConfig (respOf 6) (awaiting 6 4) :=
  (readsToNext_iff CmdOpLocks.smallRxConfig rfl (by decide) (by decide) (by decide)).mpr
    (by decide)

/-- Of nine bytes the user takes one, and one word is left to the next header. -/
theorem not_readsToNext_nine_one :
    ¬ReadsToNext CmdOpLocks.smallRxConfig (respOf 9) (awaiting 9 1) := by
  intro hreads
  obtain ⟨after, hrun, hnext⟩ := hreads
  have hlost : (readCmdResp CmdOpLocks.smallRxConfig (respOf 9)).run (awaiting 9 1) =
      .ok () after → after.rx = [0xAA, 0xAA, 0xAA, 0xAA, 1, 2, 3, 4] := by
    intro hafter
    cases hafter
    rfl
  rw [hlost hrun] at hnext
  exact absurd hnext (by decide)

theorem delivers_six_four :
    ∃ after, (readCmdResp CmdOpLocks.smallRxConfig (respOf 6)).run (awaiting 6 4) =
        .ok () after ∧
      bufferAt .rxPayload after.acts 3 = some 0xAA ∧ bufferAt .rxPayload after.acts 4 = none := by
  obtain ⟨after, hrun, hbytes, -⟩ := @readCmdResp_delivers CmdOpLocks.smallRxConfig (respOf 6)
    (awaiting 6 4) _ rfl (by decide) (by decide) (by decide)
  exact ⟨after, hrun, (hbytes 3).trans rfl, (hbytes 4).trans rfl⟩

end Truncated

end SimpleLinkHost.CmdPayload
