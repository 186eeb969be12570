import SimpleLinkHost.Driver.MsgRead

/-!
# The parts of a message

The parts of `_SlDrvMsgRead` that read a payload are sequences of a few actions.  What
sequences keep and these actions have is shown of the parts here, for any such property.
-/

namespace SimpleLinkHost.MsgParts

open CallOutcome Calls GlobalLock MsgWrite RxMsg MsgRead

/-- The actions of the parts, apart from the reading macro. -/
def ofPart : DrvAct → Bool
  | .memWrite _ _ _ | .syncSignal _ | .fatalError _ => true
  | .lock obj | .unlock obj => obj = .protectionLockObj
  | _ => false

/-- A property of programs that the actions of the parts have and that sequences keep. -/
structure PartRule where
  holds : {α : Type} → DrvM α → Prop
  pure : ∀ {α : Type} (value : α), holds (pure value : DrvM α)
  get : holds (get : DrvM DrvState)
  modifyCB : ∀ change : DriverCB → DriverCB, holds (modifyCB change)
  emit : ∀ {act : DrvAct}, ofPart act = true → holds (emit act)
  noReturn : ∀ {α : Type}, holds (throw .noReturn : DrvM α)
  nwpIfReadCheck : ∀ count : ℕ, holds (nwpIfReadCheck count)
  bind : ∀ {α β : Type} {program : DrvM α} {next : α → DrvM β},
    holds program → (∀ value, holds (next value)) → holds (program >>= next)

namespace PartRule

variable (rule : PartRule)

theorem ite {α : Type} {cond : Prop} [Decidable cond] {program other : DrvM α}
    (hprogram : rule.holds program) (hother : rule.holds other) :
    rule.holds (if cond then program else other) := by
  split
  · exact hprogram
  · exact hother

theorem runIf {cond : Prop} [Decidable cond] {program : DrvM Unit}
    (hprogram : rule.holds program) : rule.holds (runIf cond program) :=
  rule.ite hprogram (rule.pure _)

theorem verifyProtocol (check : Bool) : rule.holds (verifyProtocol check) :=
  rule.ite (rule.pure _) (rule.emit rfl)

theorem protectionObjLockForever : rule.holds protectionObjLockForever := rule.emit rfl

theorem protectionObjUnlock : rule.holds protectionObjUnlock := rule.emit rfl

theorem readInto (buffer : Buffer) (offset count : ℕ) :
    rule.holds (readInto buffer offset count) :=
  rule.bind (rule.nwpIfReadCheck count) fun _ => rule.bind (rule.emit rfl) fun _ => rule.pure _

theorem readIntoIf (cond : Bool) (buffer : Buffer) (offset count : ℕ) :
    rule.holds (readIntoIf cond buffer offset count) :=
  rule.ite (rule.readInto buffer offset count) (rule.pure _)

theorem dumpWords (words : ℕ) : rule.holds (dumpWords words) := by
  induction words with
  | zero => exact rule.pure _
  | succ words ih => exact rule.bind (rule.nwpIfReadCheck 4) fun _ => ih

theorem readAligned (buffer : Buffer) (len : BitVec 16) :
    rule.holds (readAligned buffer len) := by
  apply rule.bind (rule.readIntoIf _ buffer 0 _)
  intro _
  apply rule.runIf
  exact rule.bind (rule.nwpIfReadCheck 4) fun _ => rule.emit rfl

variable (cfg : RxConfig)

theorem slDrvFindAndSetActiveObj (pool : Pool.PoolCB) (opcode : BitVec 16) (sd : ℕ) :
    rule.holds (slDrvFindAndSetActiveObj cfg pool opcode sd) := by
  rw [RxMsg.slDrvFindAndSetActiveObj]
  cases activeObjOf cfg pool opcode sd with
  | notSet => exact rule.pure _
  | recv | action => exact rule.bind (rule.modifyCB _) fun _ => rule.pure _
  | endless => exact rule.noReturn

theorem readAsyncPayload (len : BitVec 16) : rule.holds (readAsyncPayload cfg len) := by
  apply rule.bind (rule.readIntoIf _ _ _ _)
  intro payload
  exact rule.bind (rule.runIf (rule.dumpWords _)) fun _ => rule.pure _

/-- The return for an event that finds no memory is not one of the reading macro. -/
theorem readAsyncEvt (env : MsgEnv) (hdrBytes : List Byte) (header : RespHeader)
    (hmalloc : rule.holds (Calls.emit .malloc))
    (hreturns : rule.holds (returnIf (!env.asyncBufAllocated) .mallocError)) :
    rule.holds (readAsyncEvt cfg env hdrBytes header) := by
  apply rule.bind hmalloc
  intro _
  apply rule.bind hreturns
  intro _
  apply rule.bind (rule.emit rfl)
  intro _
  apply rule.bind (rule.emit rfl)
  intro _
  apply rule.bind (rule.readAsyncPayload cfg _)
  intro payload
  apply rule.bind rule.protectionObjLockForever
  intro _
  apply rule.bind (rule.slDrvFindAndSetActiveObj cfg _ _ _)
  intro _
  exact rule.bind rule.protectionObjUnlock fun _ => rule.pure _

theorem readCtrlSock (opcode : BitVec 16) (args : List Byte) :
    rule.holds (readCtrlSock cfg opcode args) := by
  apply rule.bind (rule.emit rfl)
  intro _
  apply rule.bind (rule.readIntoIf _ _ _ _)
  intro _
  exact rule.bind (rule.readIntoIf _ _ _ _) fun _ => rule.pure _

theorem readRecvObj (env : MsgEnv) (opcode : BitVec 16) (args : List Byte) :
    rule.holds (readRecvObj cfg env opcode args) := by
  apply rule.bind (rule.verifyProtocol _)
  intro _
  apply rule.bind rule.get
  intro s
  apply rule.bind (rule.emit rfl)
  intro _
  apply rule.bind (rule.readIntoIf _ _ _ _)
  intro _
  apply rule.bind
  · apply rule.runIf
    exact rule.bind (rule.verifyProtocol _) fun _ => rule.readAligned _ _
  · exact fun _ => rule.emit rfl

theorem readCmdPayload (actDataSize rxPayloadLen : BitVec 16) :
    rule.holds (readCmdPayload actDataSize rxPayloadLen) :=
  rule.bind (rule.readAligned _ _) fun _ => rule.runIf (rule.dumpWords _)

theorem readCmdExt (actDataSize : BitVec 16) (ext : CmdExt) :
    rule.holds (readCmdExt actDataSize ext) := by
  apply rule.bind (rule.modifyCB _)
  exact fun _ => rule.ite (rule.modifyCB _) (rule.readCmdPayload _ _)

theorem readCmdResp (header : RespHeader) : rule.holds (readCmdResp cfg header) := by
  apply rule.bind rule.get
  intro s
  apply rule.bind (rule.readInto _ _ _)
  intro _
  cases s.cb.pCmdExt with
  | none => exact rule.pure _
  | some ext => exact rule.runIf (rule.readCmdExt _ ext)

theorem signalSelectEntries (selectEntry : ℕ → Bool) (count : ℕ) :
    rule.holds (signalSelectEntries selectEntry count) := by
  induction count with
  | zero => exact rule.pure _
  | succ count ih => exact rule.bind ih fun _ => rule.runIf (rule.emit rfl)

theorem readMultiSelectResp : rule.holds (readMultiSelectResp cfg) := by
  apply rule.bind (rule.nwpIfReadCheck _)
  intro _
  apply rule.bind (rule.modifyCB _)
  intro _
  apply rule.runIf
  apply rule.bind rule.get
  exact fun s => rule.bind (rule.signalSelectEntries _ _) fun _ => rule.modifyCB _

end PartRule

section Header

variable (cfg : RxConfig) {s : DrvState}

/-- The actions of the status update. -/
def ofStatus : DrvAct → Bool
  | .setDeviceStatus _ | .syncSignal .txSyncObj => true
  | _ => false

/-- The status update leaves the message, the command and select alone. -/
theorem completes_updateNwpStatus_frame (header : RespHeader) (txSyncObjCount : ℕ) :
    Completes (updateNwpStatus cfg header txSyncObjCount) s fun _ after =>
      after.rx = s.rx ∧ after.cb.pCmdCtrl = s.cb.pCmdCtrl ∧
        after.cb.multiSelectCB = s.cb.multiSelectCB ∧
        ∃ taken, after.acts = s.acts ++ taken ∧ ∀ act ∈ taken, ofStatus act = true := by
  rw [Completes, updateNwpStatus, ends_bind, ends_modifyCB, ends_bind, ends_emit, ends_runIf]
  split
  · exact ⟨rfl, rfl, rfl, [_, _], List.append_assoc _ _ _, by simp [ofStatus]⟩
  · exact ⟨rfl, rfl, rfl, [_], rfl, by simp [ofStatus]⟩

theorem completes_slDrvClassifyRxMsg_frame (opcode : BitVec 16) :
    Completes (slDrvClassifyRxMsg cfg opcode) s fun rxMsgClass after =>
      rxMsgClass = rxMsgClassOf cfg opcode s.cb.pCmdCtrl.opcode ∧
        after.cb.asyncExt.rxMsgClass = rxMsgClass ∧ after.rx = s.rx ∧
        after.cb.multiSelectCB = s.cb.multiSelectCB ∧ after.acts = s.acts := by
  rw [Completes, slDrvClassifyRxMsg, ends_bind]
  exact ⟨rfl, rfl, rfl, rfl, rfl⟩

end Header

end SimpleLinkHost.MsgParts
