import SimpleLinkHost.Driver.CmdOpLocks
import SimpleLinkHost.Driver.MsgParts

/-!
# Messages after which the receive interrupt stays masked

`_SlDrvRxIrqHandler` masks the interrupt, and only the common exit of `_SlDrvMsgRead`
unmasks it.  The returns inside the reading macro come behind a fatal error, which resets
the device.  Two returns do neither: the one for an event that finds no memory, and the one
for a receive response that nobody waits for.
-/

namespace SimpleLinkHost.IrqUnmask

open CallOutcome Calls GlobalLock RxMsg MsgRead MsgParts MsgFate

/-- The actions after which messages may come again: the interrupt is unmasked, or the
device is about to be reset. -/
def relieves : DrvAct → Bool
  | .unmaskIntHdlr | .fatalError _ => true
  | _ => false

def relief (s : DrvState) : ℕ := s.acts.countP relieves

/-- Wherever the call returns it has unmasked the interrupt or raised a fatal error. -/
def Relieves {α : Type} (program : DrvM α) (s : DrvState) : Prop :=
  Ends program s (fun _ after => relief s < relief after)
    fun ret after => ret ≠ .noReturn → relief s < relief after

variable (cfg : RxConfig)

/-- A receive response whose arguments were read names a socket for which no object is
active, and not the control socket. -/
def Unclaimed (env : MsgEnv) (opcode : BitVec 16) : Prop :=
  cfg.recvArgsSize ≤ env.rx.length ∧
    recvSocket cfg (env.rx.take cfg.recvArgsSize) < cfg.slMaxSockets ∧
    activeObjOf cfg env.pool opcode (recvSocket cfg (env.rx.take cfg.recvArgsSize)) = .notSet ∧
    ¬(cfg.multiSelect = true ∧
      cfg.recvSd (env.rx.take cfg.recvArgsSize) = env.multiSelectCB.ctrlSockFD)

/-- What a message of a class must not meet. -/
def StrandedPayload (env : MsgEnv) (header : RespHeader) : RxMsgClass → Prop
  | .asyncEvt => env.asyncBufAllocated = false
  | .recvResp => Unclaimed cfg env header.opcode
  | _ => False

/-- The messages that leave the interrupt masked. -/
def Stranded (env : MsgEnv) (cmdOpcode : BitVec 16) : Prop :=
  ∃ bytes, env.hdr = .header bytes ∧
    StrandedPayload cfg env (cfg.respHeader bytes)
      (rxMsgClassOf cfg (cfg.respHeader bytes).opcode cmdOpcode)

/-- Every return of the program is behind a fatal error. -/
def Alarmed {α : Type} (program : DrvM α) : Prop :=
  ∀ s, Ends program s (fun _ after => relief s ≤ relief after)
    fun ret after => ret = .noReturn ∨ relief s < relief after

section Alarmed

variable {α β : Type} {s : DrvState} {act : DrvAct} {program : DrvM α}

theorem relief_after : relief (s.after act) = relief s + if relieves act then 1 else 0 := by
  rw [relief, DrvState.after, List.countP_append, List.countP_singleton]
  rfl

theorem relief_after_of_not (hact : relieves act = false) : relief (s.after act) = relief s := by
  rw [relief_after, hact]
  rfl

theorem relief_lt_after (hact : relieves act = true) : relief s < relief (s.after act) := by
  rw [relief_after, hact]
  exact Nat.lt_succ_self _

theorem alarmed_pure (value : α) : Alarmed (pure value : DrvM α) := fun _ => le_rfl

theorem alarmed_get : Alarmed (get : DrvM DrvState) := fun _ => le_rfl

theorem alarmed_emit (act : DrvAct) : Alarmed (emit act) := by
  intro s
  rw [ends_emit, relief_after]
  exact Nat.le_add_right _ _

theorem alarmed_modifyCB (change : DriverCB → DriverCB) : Alarmed (modifyCB change) :=
  fun _ => le_rfl

theorem alarmed_noReturn : Alarmed (throw .noReturn : DrvM α) := fun _ => Or.inl rfl

theorem alarmed_bind {next : α → DrvM β} (hprogram : Alarmed program)
    (hnext : ∀ value, Alarmed (next value)) : Alarmed (program >>= next) := by
  intro s
  rw [ends_bind]
  apply (hprogram s).mono
  · intro value middle hmiddle
    apply (hnext value middle).mono
    · exact fun _ _ hafter => hmiddle.trans hafter
    · exact fun _ _ hafter => hafter.imp_right hmiddle.trans_lt
  · exact fun _ _ hafter => hafter

theorem alarmed_nwpIfReadCheck (count : ℕ) : Alarmed (nwpIfReadCheck count) := by
  intro s
  rw [nwpIfReadCheck, ends_bind, ends_get]
  split
  · exact (relief_after_of_not (s := { s with rx := s.rx.drop count }) rfl).ge
  · exact Or.inr (relief_lt_after (s := { s with rx := [] }) rfl)

def alarmedRule : PartRule where
  holds := Alarmed
  pure := alarmed_pure
  get := alarmed_get
  modifyCB := alarmed_modifyCB
  emit _ := alarmed_emit _
  noReturn := alarmed_noReturn
  nwpIfReadCheck := alarmed_nwpIfReadCheck
  bind := alarmed_bind

end Alarmed

section Strands

variable {α β : Type} {s : DrvState} {program : DrvM α} {stranded : Prop}

/-- A program that returns without relief exactly if `stranded` holds, which lets it neither
fall through nor wait. -/
def Strands (stranded : Prop) (program : DrvM α) (s : DrvState) : Prop :=
  Ends program s (fun _ after => ¬stranded ∧ relief s ≤ relief after) fun ret after =>
    (stranded → ret ≠ .noReturn ∧ relief after = relief s) ∧
      (¬stranded → ret ≠ .noReturn → relief s < relief after)

theorem Alarmed.strands (hprogram : Alarmed program) (hstranded : ¬stranded) :
    Strands stranded program s := by
  apply (hprogram s).mono
  · exact fun _ _ hafter => ⟨hstranded, hafter⟩
  · exact fun _ _ hafter =>
      ⟨fun hyes => absurd hyes hstranded, fun _ hret => hafter.resolve_left hret⟩

/-- Behind a part that ends with no relief and no early return. -/
theorem Strands.behind {falls : α → DrvState → Prop} {next : α → DrvM β}
    (hprogram : Completes program s falls)
    (hrelief : ∀ value after, falls value after → relief after = relief s)
    (hnext : ∀ value after, falls value after → Strands stranded (next value) after) :
    Strands stranded (program >>= next) s := by
  apply Ends.bind hprogram.ends
  intro value middle hmiddle
  have hsame := hrelief value middle hmiddle
  have hrest := hnext value middle hmiddle
  rwa [Strands, hsame] at hrest

/-- A program that strands relieves otherwise, once it falls through to the unmasking. -/
theorem Strands.relieves_iff (next : α → DrvM β) (hprogram : Strands stranded program s)
    (hnext : ∀ value middle, Completes (next value) middle
      fun _ after => relief middle < relief after) :
    Relieves (program >>= next) s ↔ ¬stranded := by
  constructor
  · intro hrelieves hyes
    rw [Relieves, ends_bind] at hrelieves
    apply (Ends.and hprogram hrelieves).elim
    · rintro value middle ⟨⟨hno, -⟩, -⟩
      exact hno hyes
    · rintro ret after ⟨⟨hstrands, -⟩, hrelief⟩
      obtain ⟨hret, hsame⟩ := hstrands hyes
      have hlt := hrelief hret
      omega
  · intro hno
    rw [Relieves, ends_bind]
    apply Ends.mono hprogram
    · rintro value middle ⟨-, hle⟩
      apply ((hnext value middle).mono _).ends
      exact fun _ _ hlt => hle.trans_lt hlt
    · exact fun _ _ hafter => hafter.2 hno

theorem strands_readAsyncEvt (env : MsgEnv) (hdrBytes : List Byte) (header : RespHeader) :
    Strands (env.asyncBufAllocated = false) (readAsyncEvt cfg env hdrBytes header) s := by
  cases hallocated : env.asyncBufAllocated with
  | false =>
      have hmalloc : relief (s.after .malloc) = relief s := relief_after_of_not rfl
      rw [Strands, readAsyncEvt, ends_bind, ends_emit, ends_bind, ends_returnIf, hallocated]
      exact ⟨fun _ => ⟨by simp, hmalloc⟩, fun hno => absurd rfl hno⟩
  | true =>
      have hreturns : Alarmed (returnIf (!env.asyncBufAllocated) .mallocError) := by
        rw [hallocated]
        exact alarmed_pure ()
      apply Alarmed.strands _ (by simp)
      exact alarmedRule.readAsyncEvt cfg env hdrBytes header (alarmed_emit _) hreturns

theorem ends_nwpIfReadCheck_relief (count : ℕ) :
    Ends (nwpIfReadCheck count) s
      (fun bytes after => count ≤ s.rx.length ∧ bytes = s.rx.take count ∧ relief after = relief s)
      fun _ after => s.rx.length < count ∧ relief s < relief after := by
  rw [nwpIfReadCheck, ends_bind, ends_get]
  split
  · rename_i hlong
    exact ⟨hlong, rfl, relief_after_of_not (s := { s with rx := s.rx.drop count }) rfl⟩
  · rename_i hshort
    exact ⟨Nat.lt_of_not_le hshort, relief_lt_after (s := { s with rx := [] }) rfl⟩

theorem completes_slDrvGlobalObjUnLock_relief :
    Completes (slDrvGlobalObjUnLock true) s fun _ after => relief after = relief s := by
  have hneutral : ∀ {at' : DrvState} {act : DrvAct}, relieves act = false →
      relief (at'.after act) = relief at' := relief_after_of_not
  rw [Completes, slDrvGlobalObjUnLock, ends_bind, ends_emit, if_pos rfl, slDrvUpdateApiInProgress,
    protectionObjLockForever, protectionObjUnlock, ends_bind, ends_emit, ends_bind, ends_emit,
    ends_emit, hneutral rfl, hneutral rfl, hneutral rfl, hneutral rfl]

/-- The search for the socket of a receive response finds nobody. -/
def Unmatched (env : MsgEnv) (opcode : BitVec 16) (args : List Byte) : Prop :=
  activeObjOf cfg env.pool opcode (recvSocket cfg args) = .notSet ∧
    ¬(cfg.multiSelect = true ∧ cfg.recvSd args = env.multiSelectCB.ctrlSockFD)

/-- What follows the search. -/
theorem strands_searched (env : MsgEnv) (opcode : BitVec 16) (args : List Byte) {found : Bool}
    (hfound : found = true ↔ activeObjOf cfg env.pool opcode (recvSocket cfg args) ≠ .notSet) :
    Strands (Unmatched cfg env opcode args)
      (if cfg.multiSelect && !found && cfg.recvSd args = env.multiSelectCB.ctrlSockFD then do
        readCtrlSock cfg opcode args
        protectionObjUnlock
      else if found then do
        readRecvObj cfg env opcode args
        protectionObjUnlock
      else do
        protectionObjUnlock
        slDrvGlobalObjUnLock true
        throw .apiAborted : DrvM Unit) s := by
  split
  · rename_i hctrl
    have hread : Alarmed (do readCtrlSock cfg opcode args; protectionObjUnlock) :=
      alarmed_bind (alarmedRule.readCtrlSock cfg opcode args) fun _ => alarmed_emit _
    apply hread.strands
    rw [Unmatched]
    simp_all
  · rename_i hctrl
    split
    · rename_i hyes
      have hread : Alarmed (do readRecvObj cfg env opcode args; protectionObjUnlock) :=
        alarmed_bind (alarmedRule.readRecvObj cfg env opcode args) fun _ => alarmed_emit _
      exact hread.strands fun hunmatched => hfound.mp hyes hunmatched.1
    · rename_i hno
      have hunmatched : Unmatched cfg env opcode args := by
        refine ⟨not_not.mp fun hobj => hno (hfound.mpr hobj), ?_⟩
        simp_all
      rw [Strands, protectionObjUnlock, ends_bind, ends_emit]
      apply completes_slDrvGlobalObjUnLock_relief.bind
      intro _ after hafter
      rw [relief_after_of_not rfl] at hafter
      exact ⟨fun _ => ⟨by simp, hafter⟩, fun hmatched => absurd hunmatched hmatched⟩

theorem strands_search (env : MsgEnv) (opcode : BitVec 16) (args : List Byte) :
    Strands (Unmatched cfg env opcode args)
      (do
        protectionObjLockForever
        let found ← slDrvFindAndSetActiveObj cfg env.pool opcode (recvSocket cfg args)
        if cfg.multiSelect && !found && cfg.recvSd args = env.multiSelectCB.ctrlSockFD then
          readCtrlSock cfg opcode args
          protectionObjUnlock
        else if found then
          readRecvObj cfg env opcode args
          protectionObjUnlock
        else
          protectionObjUnlock
          slDrvGlobalObjUnLock true
          throw .apiAborted) s := by
  have hlock : relief (s.after (.lock .protectionLockObj)) = relief s := relief_after_of_not rfl
  rw [Strands, protectionObjLockForever, ends_bind, ends_emit, ends_bind, ← hlock]
  have hsame : Ends (slDrvFindAndSetActiveObj cfg env.pool opcode (recvSocket cfg args))
      (s.after (.lock .protectionLockObj))
      (fun _ after => relief after = relief (s.after (.lock .protectionLockObj)))
      fun ret _ => ret = .noReturn := by
    rw [slDrvFindAndSetActiveObj]
    split <;> rfl
  apply ((ends_slDrvFindAndSetActiveObj cfg env.pool opcode _).and hsame).mono
  · rintro found set ⟨⟨-, hfound, -, -⟩, hrelief⟩
    have hrest := strands_searched (s := set) cfg env opcode args hfound
    rwa [Strands, hrelief] at hrest
  · rintro ret set ⟨⟨hendless, -, -⟩, hret⟩
    refine ⟨fun hunmatched => ?_, fun _ hreturns => absurd hret hreturns⟩
    rw [hunmatched.1] at hendless
    cases hendless

/-- A socket that is out of range is reported before the search. -/
theorem strands_readRecvResp (env : MsgEnv) (opcode : BitVec 16) (hrx : s.rx = env.rx) :
    Strands (Unclaimed cfg env opcode) (readRecvResp cfg env opcode) s := by
  rw [Strands, readRecvResp, ends_bind]
  apply (ends_nwpIfReadCheck_relief cfg.recvArgsSize).mono
  · rintro args read ⟨hlong, hargs, hread⟩
    rw [hrx] at hlong hargs
    have hrest := fun verified => strands_search (s := verified) cfg env opcode args
    rw [← hread, ends_bind, verifyProtocol]
    by_cases hsd : recvSocket cfg args < cfg.slMaxSockets
    · have hiff : Unclaimed cfg env opcode ↔ Unmatched cfg env opcode args := by
        rw [Unclaimed, ← hargs]
        exact ⟨fun hunclaimed => hunclaimed.2.2, fun hunmatched => ⟨hlong, hsd, hunmatched⟩⟩
      rw [if_pos (decide_eq_true hsd), ends_pure, hiff]
      exact hrest read
    · have hno : ¬Unclaimed cfg env opcode := by
        rw [Unclaimed, ← hargs]
        exact fun hunclaimed => hsd hunclaimed.2.1
      have halarm : relief read < relief (read.after (.fatalError .driverAbort)) :=
        relief_lt_after rfl
      rw [if_neg (by simpa using hsd), ends_emit]
      apply (hrest (read.after (.fatalError .driverAbort))).mono
      · exact fun _ _ hafter => ⟨hno, halarm.le.trans hafter.2⟩
      · rintro ret after ⟨hstrands, hmatched⟩
        refine ⟨fun hyes => absurd hyes hno, fun _ hret => ?_⟩
        by_cases hunmatched : Unmatched cfg env opcode args
        · rwa [(hstrands hunmatched).2]
        · exact halarm.trans (hmatched hunmatched hret)
  · rintro ret after ⟨hshort, hrelief⟩
    rw [hrx] at hshort
    exact ⟨fun hunclaimed => absurd hunclaimed.1 (Nat.not_le.mpr hshort), fun _ _ => hrelief⟩

end Strands

section Message

variable {s : DrvState}

theorem strands_readPayload (env : MsgEnv) (hdrBytes : List Byte) (header : RespHeader)
    (rxMsgClass : RxMsgClass) (hrx : s.rx = env.rx) :
    Strands (StrandedPayload cfg env header rxMsgClass)
      (readPayload cfg env hdrBytes header rxMsgClass) s := by
  cases rxMsgClass with
  | asyncEvt => exact strands_readAsyncEvt cfg env hdrBytes header
  | recvResp =>
      rw [readPayload, Strands, ends_bind]
      exact strands_readRecvResp cfg env header.opcode hrx
  | cmdResp =>
      apply Alarmed.strands _ id
      exact alarmed_bind (alarmedRule.readCmdResp cfg header) fun _ => alarmed_pure _
  | multiSelectResp =>
      apply Alarmed.strands _ id
      exact alarmed_bind (alarmedRule.readMultiSelectResp cfg) fun _ => alarmed_pure _
  | dummyMsg => exact (alarmed_pure _).strands id

theorem relief_of_status {after : DrvState} {taken : List DrvAct}
    (hacts : after.acts = s.acts ++ taken) (htaken : ∀ act ∈ taken, ofStatus act = true) :
    relief after = relief s := by
  have hneutral : taken.countP relieves = 0 := by
    rw [List.countP_eq_zero]
    intro act hact hrelieves
    have hstatus := htaken act hact
    cases act <;> simp_all [ofStatus, relieves]
  rw [relief, hacts, List.countP_append, hneutral]
  rfl

/-- A header that is not read is reported. -/
theorem ends_readHeader_relief (hdr : RxHdr) :
    Ends (readHeader hdr) s (fun bytes after => hdr = .header bytes ∧ after = s)
      fun _ after => (∀ bytes, hdr ≠ .header bytes) ∧ relief s < relief after := by
  have hlost : ∀ {at' : DrvState}, relief s ≤ relief at' →
      Ends (do slDrvGlobalObjUnLock true; emit (.fatalError .syncLoss); throw .apiAborted) at'
        (fun (_ : List Byte) _ => False) fun _ after => relief s < relief after := by
    intro at' hle
    apply completes_slDrvGlobalObjUnLock_relief.bind
    intro _ unlocked hunlocked
    rw [ends_bind, ends_emit, ends_throw]
    calc relief s ≤ relief at' := hle
      _ = relief unlocked := hunlocked.symm
      _ < relief (unlocked.after (.fatalError .syncLoss)) := relief_lt_after rfl
  rw [readHeader, ends_bind, ends_attempt]
  cases hdr with
  | header bytes => exact ⟨rfl, rfl⟩
  | timeout =>
      rw [slDrvRxHdrRead, ends_throw, if_neg (by decide)]
      apply (hlost le_rfl).mono
      · exact fun _ _ hfalse => hfalse.elim
      · exact fun _ _ hafter => ⟨by simp, hafter⟩
  | shortTransfer =>
      rw [slDrvRxHdrRead, ends_bind, ends_emit, ends_throw, if_neg (by decide)]
      apply (hlost (relief_lt_after rfl).le).mono
      · exact fun _ _ hfalse => hfalse.elim
      · exact fun _ _ hafter => ⟨by simp, hafter⟩

/-- `_SlDrvMsgRead` up to the unmasking. -/
theorem strands_message (env : MsgEnv) :
    Strands (Stranded cfg env s.cb.pCmdCtrl.opcode)
      (do
        modify fun s =>
          { s with rx := env.rx, cb := { s.cb with multiSelectCB := env.multiSelectCB } }
        let hdrBytes ← readHeader env.hdr
        updateNwpStatus cfg (cfg.respHeader hdrBytes) env.txSyncObjCount
        let rxMsgClass ← slDrvClassifyRxMsg cfg (cfg.respHeader hdrBytes).opcode
        readPayload cfg env hdrBytes (cfg.respHeader hdrBytes) rxMsgClass) s := by
  rw [Strands, ends_bind, ends_modify, ends_bind]
  apply (ends_readHeader_relief env.hdr).mono
  · rintro bytes found ⟨hhdr, rfl⟩
    apply (completes_updateNwpStatus_frame cfg (cfg.respHeader bytes) env.txSyncObjCount).bind
    rintro - updated ⟨hupdatedRx, hctrl, -, taken, hacts, htaken⟩
    have hupdated := relief_of_status hacts htaken
    apply (completes_slDrvClassifyRxMsg_frame cfg (cfg.respHeader bytes).opcode).bind
    rintro rxMsgClass classified ⟨hclass, -, hrx, -, hsame⟩
    have hclassified : relief classified = relief updated :=
      congrArg (List.countP relieves) hsame
    have hiff : Stranded cfg env s.cb.pCmdCtrl.opcode ↔
        StrandedPayload cfg env (cfg.respHeader bytes) rxMsgClass := by
      rw [hclass, hctrl, Stranded, hhdr]
      constructor
      · rintro ⟨other, hother, hstranded⟩
        cases hother
        exact hstranded
      · exact fun hstranded => ⟨bytes, rfl, hstranded⟩
    have hread := strands_readPayload cfg env bytes (cfg.respHeader bytes) rxMsgClass
      (hrx.trans hupdatedRx)
    rw [Strands, hclassified, hupdated] at hread
    rw [hiff]
    exact hread
  · rintro ret after ⟨hno, hrelief⟩
    exact ⟨fun hstranded => absurd hstranded.choose_spec.1 (hno _), fun _ _ => hrelief⟩

/-- A message is followed by the unmasking of the interrupt or by a fatal error, unless it
is an event without a buffer or a receive response without a receiver. -/
theorem relieves_slDrvMsgRead_iff (env : MsgEnv) (s : DrvState) :
    Relieves (slDrvMsgRead cfg env) s ↔ ¬Stranded cfg env s.cb.pCmdCtrl.opcode := by
  rw [← (strands_message cfg env).relieves_iff
    (fun out => do
      emit .unmaskIntHdlr
      return out) fun _ _ => relief_lt_after rfl]
  simp only [slDrvMsgRead, bind_assoc]

end Message

section Unclaimed

open CmdOpLocks (smallRxConfig shortResponse)

/-- A receive response for socket 3, with no object on the active list. -/
def unclaimedResponse : MsgEnv where
  __ := shortResponse
  hdr := .header [0x0A, 0x10, 16, 0, 10, 0, 0, 6, 0, 0, 0, 0]
  rx := [0, 0, 3, 0]

/-- It is read, and leaves the interrupt masked without a fatal error. -/
theorem masked_unclaimedResponse :
    ¬Relieves (slDrvMsgRead smallRxConfig unclaimedResponse) (.start [] 10 (messageCBInit 1)) := by
  intro hrelieves
  exact absurd (hrelieves (by decide)) (by decide)

end Unclaimed

end SimpleLinkHost.IrqUnmask
