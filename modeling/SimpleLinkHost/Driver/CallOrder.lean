import SimpleLinkHost.Core.LockOrder
import SimpleLinkHost.Driver.CmdOpLocks
import SimpleLinkHost.Driver.DataOpLocks
import SimpleLinkHost.Driver.MsgParts

/-!
# The order in which calls take their locks

Every call of the driver takes its locks in one order: an object of the pool, the TX lock,
the global lock, the protection lock.  Threads that make calls one after another therefore
never wait in a circle, as long as their calls give back what they take.
-/

namespace SimpleLinkHost.CallOrder

open CallOutcome Calls GlobalLock MsgWrite DataOp RxMsg MsgRead CmdOp Monitor LockOrder
open CmdOpLocks (smallRxConfig shortResponse shortRound shortCmdEnv)
open DataOpLocks (smallDataConfig shortExt timedOutRound timedOutRead)
open Pool (PoolError)
open Transition (run)

section Order

/-- The place of a lock in the order. -/
def rank : LockObj → ℕ
  | .poolObj _ => 0
  | .txLockObj => 1
  | .globalLockObj => 2
  | .protectionLockObj => 3

/-- The locks that a call holds, and whether it took all its locks in order so far. -/
def seen (s : DrvState) : List LockObj × Bool :=
  s.acts.foldl (watchBad (heldAfter lockEvent) (outOfOrder lockEvent rank)) ([], true)

variable {s : DrvState} {act : DrvAct} {obj : LockObj} {before : List LockObj}

theorem seen_after :
    seen (s.after act) =
      watchBad (heldAfter lockEvent) (outOfOrder lockEvent rank) (seen s) act := by
  rw [seen, DrvState.after, List.foldl_append]
  rfl

theorem seen_neutral (hact : lockEvent act = none) : seen (s.after act) = seen s := by
  rw [seen_after, watchBad, heldAfter, outOfOrder, hact, Bool.not_false, Bool.and_true]

theorem seen_lock (hbefore : ∀ other ∈ before, rank other < rank obj)
    (hseen : seen s = (before, true)) : seen (s.after (.lock obj)) = (obj :: before, true) := by
  rw [seen_after, hseen]
  simpa [watchBad, heldAfter, outOfOrder, lockEvent] using hbefore

theorem seen_unlock (hseen : seen s = (before, true)) :
    seen (s.after (.unlock obj)) = (before.erase obj, true) := by
  rw [seen_after, hseen]
  simp [watchBad, heldAfter, outOfOrder, lockEvent]

/-- Started with these locks, the program takes its locks in order; what it holds where it
falls through depends on its value. -/
def Locks {α : Type} (program : DrvM α) (before : List LockObj) (after : α → List LockObj) :
    Prop :=
  ∀ s, seen s = (before, true) →
    Ends program s (fun value last => seen last = (after value, true))
      fun _ last => (seen last).2 = true

/-- The program neither takes a lock nor gives one back. -/
def Quiet {α : Type} (program : DrvM α) : Prop :=
  ∀ s, Ends program s (fun _ last => seen last = seen s) fun _ last => seen last = seen s

end Order

section Rules

variable {α β : Type} {program : DrvM α} {before middle : List LockObj}

theorem Quiet.locks (hquiet : Quiet program) : Locks program before fun _ => before := by
  intro s hseen
  apply (hquiet s).mono
  · exact fun _ _ hlast => hlast.trans hseen
  · intro _ last hlast
    rw [hlast, hseen]

theorem Locks.bind {next : α → DrvM β} {afterNext : β → List LockObj} {after : α → List LockObj}
    (hprogram : Locks program before after)
    (hnext : ∀ value, Locks (next value) (after value) afterNext) :
    Locks (program >>= next) before afterNext :=
  fun s hseen => Ends.bind (hprogram s hseen) fun value last hlast => hnext value last hlast

theorem locks_pure {value : α} {after : α → List LockObj} (hafter : after value = before) :
    Locks (pure value) before after :=
  fun _ hseen => hseen.trans (by rw [hafter])

theorem locks_throw {ret : RetCode} {after : α → List LockObj} :
    Locks (throw ret : DrvM α) before after := by
  intro s hseen
  rw [ends_throw, hseen]

theorem locks_ite {cond : Prop} [Decidable cond] {other : DrvM α} {after : α → List LockObj}
    (hprogram : cond → Locks program before after) (hother : ¬cond → Locks other before after) :
    Locks (if cond then program else other) before after := by
  split
  · exact hprogram ‹_›
  · exact hother ‹_›

theorem locks_runIf {cond : Prop} [Decidable cond] {program : DrvM Unit}
    (hprogram : cond → Locks program before fun _ => before) :
    Locks (runIf cond program) before fun _ => before :=
  locks_ite hprogram fun _ => locks_pure rfl

theorem locks_lock {obj : LockObj} (hbefore : ∀ other ∈ before, rank other < rank obj) :
    Locks (emit (.lock obj)) before fun _ => obj :: before :=
  fun _ hseen => seen_lock hbefore hseen

theorem locks_unlock {obj : LockObj} :
    Locks (emit (.unlock obj)) before fun _ => before.erase obj :=
  fun _ hseen => seen_unlock hseen

theorem quiet_pure {value : α} : Quiet (pure value : DrvM α) := fun _ => rfl

theorem quiet_throw {ret : RetCode} : Quiet (throw ret : DrvM α) := fun _ => rfl

theorem quiet_get : Quiet (get : DrvM DrvState) := fun _ => rfl

theorem quiet_modifyCB {change : DriverCB → DriverCB} : Quiet (modifyCB change) := fun _ => rfl

theorem quiet_emit {act : DrvAct} (hact : lockEvent act = none) : Quiet (emit act) :=
  fun _ => seen_neutral hact

theorem Quiet.bind {next : α → DrvM β} (hprogram : Quiet program)
    (hnext : ∀ value, Quiet (next value)) : Quiet (program >>= next) := by
  intro s
  rw [ends_bind]
  apply (hprogram s).mono
  · intro value last hlast
    rw [← hlast]
    exact hnext value last
  · exact fun _ _ hlast => hlast

theorem quiet_ite {cond : Prop} [Decidable cond] {other : DrvM α} (hprogram : Quiet program)
    (hother : Quiet other) : Quiet (if cond then program else other) := by
  split
  · exact hprogram
  · exact hother

theorem quiet_runIf {cond : Prop} [Decidable cond] {program : DrvM Unit}
    (hprogram : Quiet program) : Quiet (runIf cond program) :=
  quiet_ite hprogram quiet_pure

theorem Quiet.attempt {stops : RetCode → Bool} (hprogram : Quiet program) :
    Quiet (attempt stops program) := by
  intro s
  rw [ends_attempt]
  apply (hprogram s).mono
  · exact fun _ _ hlast => hlast
  · intro ret last hlast
    split <;> exact hlast

end Rules

section Parts

theorem quiet_verifyProtocol (check : Bool) : Quiet (verifyProtocol check) :=
  quiet_ite quiet_pure (quiet_emit rfl)

theorem quiet_nwpIfWriteCheck (bytes : List Byte) : Quiet (nwpIfWriteCheck bytes) := by
  intro s
  rw [nwpIfWriteCheck, ends_bind, ends_get]
  split
  · change seen (s.after (.fatalError .driverAbort)) = seen s
    exact seen_neutral rfl
  · rename_i left _
    change seen (DrvState.after { s with writesLeft := left } (.ifWrite bytes)) = seen s
    exact seen_neutral rfl

theorem quiet_writePayloads (ext : CmdExt) : Quiet (writePayloads ext) := by
  have htwo : Quiet (writeTwoPayloads ext) := by
    apply quiet_modifyCB.bind
    intro _
    apply (quiet_nwpIfWriteCheck _).bind
    intro _
    apply (quiet_runIf (quiet_nwpIfWriteCheck _)).bind
    exact fun _ => quiet_runIf (quiet_nwpIfWriteCheck _)
  apply quiet_ite htwo
  apply quiet_ite (quiet_nwpIfWriteCheck _)
  exact quiet_ite (quiet_nwpIfWriteCheck _) quiet_pure

theorem quiet_writeExt (cmdCtrl : CmdCtrl) (ext : Option CmdExt) :
    Quiet (writeExt cmdCtrl ext) := by
  cases ext with
  | none => exact quiet_pure
  | some ext =>
      apply (quiet_runIf (quiet_nwpIfWriteCheck _)).bind
      intro _
      apply (quiet_verifyProtocol _).bind
      exact fun _ => quiet_writePayloads _

theorem quiet_slDrvMsgWrite (cfg : ProtocolConfig) (cmdCtrl : CmdCtrl) (ext : Option CmdExt)
    (pTxRxDescBuff : Option (ℕ → Byte)) : Quiet (slDrvMsgWrite cfg cmdCtrl ext pTxRxDescBuff) := by
  apply quiet_modifyCB.bind
  intro _
  apply (quiet_nwpIfWriteCheck _).bind
  intro _
  apply (quiet_nwpIfWriteCheck _).bind
  intro _
  have hdescriptors : Quiet (writeDescriptors cmdCtrl pTxRxDescBuff) := by
    cases pTxRxDescBuff with
    | none => exact quiet_pure
    | some desc => exact quiet_runIf (quiet_nwpIfWriteCheck _)
  exact hdescriptors.bind fun _ => quiet_writeExt cmdCtrl ext

theorem quiet_nwpIfReadCheck (count : ℕ) : Quiet (nwpIfReadCheck count) := by
  intro s
  rw [nwpIfReadCheck, ends_bind, ends_get, ends_ite]
  split
  · change seen (DrvState.after { s with rx := s.rx.drop count } (.ifRead count)) = seen s
    exact seen_neutral rfl
  · change seen (DrvState.after { s with rx := [] } (.fatalError .driverAbort)) = seen s
    exact seen_neutral rfl

theorem quiet_readIntoIf (cond : Bool) (buffer : Buffer) (offset count : ℕ) :
    Quiet (readIntoIf cond buffer offset count) := by
  apply quiet_ite _ quiet_pure
  exact (quiet_nwpIfReadCheck count).bind fun _ => (quiet_emit rfl).bind fun _ => quiet_pure

theorem quiet_dumpWords (words : ℕ) : Quiet (dumpWords words) := by
  induction words with
  | zero => exact quiet_pure
  | succ words ih => exact (quiet_nwpIfReadCheck 4).bind fun _ => ih

theorem quiet_readAligned (buffer : Buffer) (len : BitVec 16) : Quiet (readAligned buffer len) := by
  apply (quiet_readIntoIf _ buffer 0 _).bind
  intro _
  apply quiet_runIf
  exact (quiet_nwpIfReadCheck 4).bind fun _ => quiet_emit rfl

variable (cfg : RxConfig)

theorem quiet_slDrvFindAndSetActiveObj (pool : Pool.PoolCB) (opcode : BitVec 16) (sd : ℕ) :
    Quiet (slDrvFindAndSetActiveObj cfg pool opcode sd) := by
  rw [slDrvFindAndSetActiveObj]
  cases activeObjOf cfg pool opcode sd with
  | notSet => exact quiet_pure
  | recv | action => exact quiet_modifyCB.bind fun _ => quiet_pure
  | endless => exact quiet_throw

theorem quiet_readAsyncPayload (len : BitVec 16) : Quiet (readAsyncPayload cfg len) := by
  apply (quiet_readIntoIf _ _ _ _).bind
  intro _
  exact (quiet_runIf (quiet_dumpWords _)).bind fun _ => quiet_pure

theorem quiet_readCtrlSock (opcode : BitVec 16) (args : List Byte) :
    Quiet (readCtrlSock cfg opcode args) := by
  apply (quiet_emit rfl).bind
  intro _
  apply (quiet_readIntoIf _ _ _ _).bind
  intro _
  exact (quiet_readIntoIf _ _ _ _).bind fun _ => quiet_pure

theorem quiet_readRecvObj (env : MsgEnv) (opcode : BitVec 16) (args : List Byte) :
    Quiet (readRecvObj cfg env opcode args) := by
  apply (quiet_verifyProtocol _).bind
  intro _
  apply quiet_get.bind
  intro s
  apply (quiet_emit rfl).bind
  intro _
  apply (quiet_readIntoIf _ _ _ _).bind
  intro _
  apply Quiet.bind (quiet_runIf _)
  · exact fun _ => quiet_emit rfl
  · exact (quiet_verifyProtocol _).bind fun _ => quiet_readAligned _ _

theorem quiet_readCmdResp (header : RespHeader) : Quiet (readCmdResp cfg header) := by
  apply quiet_get.bind
  intro s
  apply Quiet.bind
  · exact (quiet_nwpIfReadCheck _).bind fun _ => (quiet_emit rfl).bind fun _ => quiet_pure
  intro _
  split
  · exact quiet_pure
  · apply quiet_runIf
    apply quiet_modifyCB.bind
    intro _
    apply quiet_ite quiet_modifyCB
    exact (quiet_readAligned _ _).bind fun _ => quiet_runIf (quiet_dumpWords _)

theorem quiet_readMultiSelectResp : Quiet (readMultiSelectResp cfg) := by
  have hsignals : ∀ (selectEntry : ℕ → Bool) (count : ℕ),
      Quiet (signalSelectEntries selectEntry count) := by
    intro selectEntry count
    induction count with
    | zero => exact quiet_pure
    | succ count ih => exact ih.bind fun _ => quiet_runIf (quiet_emit rfl)
  apply (quiet_nwpIfReadCheck _).bind
  intro _
  apply quiet_modifyCB.bind
  intro _
  apply quiet_runIf
  exact quiet_get.bind fun s => (hsignals _ _).bind fun _ => quiet_modifyCB

end Parts

section GlobalLock

variable {before : List LockObj}

/-- The protection lock may be taken wherever it is not held. -/
theorem below_protection (hopen : .protectionLockObj ∉ before) :
    ∀ other ∈ before, rank other < rank .protectionLockObj := by
  intro other hother
  cases other with
  | protectionLockObj => exact absurd hother hopen
  | poolObj | txLockObj | globalLockObj => simp [rank]

theorem open_of_below (hbelow : ∀ other ∈ before, rank other < rank .globalLockObj) :
    .protectionLockObj ∉ before :=
  fun hmem => absurd (hbelow _ hmem) (by decide)

theorem locks_slDrvUpdateApiInProgress (value : ℤ) (hopen : .protectionLockObj ∉ before) :
    Locks (slDrvUpdateApiInProgress value) before fun _ => before := by
  apply (locks_lock (below_protection hopen)).bind
  intro _
  apply (quiet_emit rfl).locks.bind
  intro _
  have hunlock : Locks protectionObjUnlock (.protectionLockObj :: before)
      fun _ => (LockObj.protectionLockObj :: before).erase .protectionLockObj := locks_unlock
  simpa using hunlock

theorem locks_slDrvGlobalObjUnLock (decrement : Bool) (hopen : .protectionLockObj ∉ before) :
    Locks (slDrvGlobalObjUnLock decrement) before fun _ => before.erase .globalLockObj := by
  apply locks_unlock.bind
  intro _
  apply locks_ite
  · intro _
    exact locks_slDrvUpdateApiInProgress _ fun hmem => hopen (List.mem_of_mem_erase hmem)
  · exact fun _ => locks_pure rfl

/-- What is held once the wrapper has returned. -/
def lockedIf (ret : RetCode) (before : List LockObj) : List LockObj :=
  if ret = .ok then .globalLockObj :: before else before

theorem locks_countGlobalLockCall (flags : GlobalLockFlags) (status : DevFlags)
    (hopen : .protectionLockObj ∉ before) :
    Locks (countGlobalLockCall flags status) (.globalLockObj :: before)
      fun ret => lockedIf ret before := by
  have hopen' : .protectionLockObj ∉ .globalLockObj :: before := by simpa using hopen
  apply locks_ite
  · intro _
    apply locks_ite
    · intro _
      exact (locks_slDrvUpdateApiInProgress 1 hopen').bind fun _ => locks_pure rfl
    intro _
    apply locks_ite
    · intro _
      apply (locks_slDrvGlobalObjUnLock true hopen').bind
      exact fun _ => locks_pure (by simp [lockedIf])
    · exact fun _ => locks_pure rfl
  · exact fun _ => locks_pure rfl

theorem locks_slDrvObjGlobalLockWaitForever (flags : GlobalLockFlags) (env : GlobalLockEnv)
    (hbelow : ∀ other ∈ before, rank other < rank .globalLockObj) :
    Locks (slDrvObjGlobalLockWaitForever flags env) before fun ret => lockedIf ret before := by
  rw [slDrvObjGlobalLockWaitForever]
  apply locks_ite
  · exact fun _ => locks_pure rfl
  intro _
  apply locks_ite
  · exact fun _ => locks_pure (by simp [lockedIf])
  intro _
  apply (locks_lock hbelow).bind
  intro _
  apply locks_ite
  · exact fun _ => locks_pure rfl
  intro _
  have hcount := locks_countGlobalLockCall flags env.after (open_of_below hbelow)
  apply locks_ite
  · intro _
    apply locks_ite
    · intro hstatus
      apply locks_unlock.bind
      intro _
      exact locks_pure (by simp [lockedIf, hstatus])
    · exact fun _ => hcount
  · exact fun _ => hcount

theorem locks_lockGlobalLockForever (flags : GlobalLockFlags) (env : GlobalLockEnv)
    (hbelow : ∀ other ∈ before, rank other < rank .globalLockObj) :
    Locks (lockGlobalLockForever flags env) before fun _ => .globalLockObj :: before := by
  apply (locks_slDrvObjGlobalLockWaitForever flags env hbelow).bind
  intro ret
  apply locks_ite
  · exact fun _ => locks_throw
  · intro hret
    exact locks_pure (by rw [lockedIf, if_pos (not_not.mp hret)])

end GlobalLock

section Data

variable (cfg : DataConfig) {before : List LockObj}

theorem quiet_spawnWaitForSignal (rounds : ℕ) : Quiet (spawnWaitForSignal rounds) := by
  induction rounds with
  | zero => exact quiet_emit rfl
  | succ rounds ih => exact (quiet_emit rfl).bind fun _ => ih

theorem quiet_txFlowControlWait (wait : FlowWait) : Quiet (txFlowControlWait wait) := by
  apply quiet_ite (quiet_spawnWaitForSignal _)
  apply (quiet_runIf ((quiet_emit rfl).bind fun _ => quiet_throw)).bind
  exact fun _ => quiet_ite quiet_throw quiet_pure

theorem quiet_endAsyncWait (timeout : ℕ) (opcode : BitVec 16) (expired restartRequired : Bool) :
    Quiet (endAsyncWait timeout opcode expired restartRequired) := by
  apply quiet_ite
  · exact (quiet_emit rfl).bind fun _ => quiet_pure
  · exact quiet_ite quiet_pure quiet_pure

theorem quiet_waitForReceive (sd : Byte) (cmdCtrl : CmdCtrl) (env : ReadEnv) (sent : RetCode) :
    Quiet (waitForReceive cfg sd cmdCtrl env sent) := by
  have hwait : ∀ (timeout : ℕ) (opcode : BitVec 16),
      Quiet (slDrvWaitForInternalAsyncEvent timeout opcode env.asyncWait) := by
    intro timeout opcode
    apply quiet_ite
    · exact (quiet_spawnWaitForSignal _).bind fun _ => quiet_endAsyncWait _ _ _ _
    · exact quiet_endAsyncWait _ _ _ _
  exact quiet_ite quiet_pure (quiet_ite (hwait _ _) (hwait _ _))

/-- The TX lock is handed over to the global lock. -/
theorem locks_takeTxPackets (least amount : ℕ) (env : TakePackets)
    (hbelow : ∀ other ∈ before, rank other < rank .txLockObj) :
    Locks (takeTxPackets least amount env) (.txLockObj :: before)
      fun _ => .globalLockObj :: before := by
  have hglobal : ∀ other ∈ .txLockObj :: before, rank other < rank .globalLockObj := by
    intro other hother
    rcases List.mem_cons.mp hother with rfl | hmem
    · decide
    · exact (hbelow other hmem).trans (by decide)
  apply (locks_lockGlobalLockForever dataLockFlags env.globalLock hglobal).bind
  intro _
  apply Locks.bind
  · apply locks_runIf
    intro _
    apply (locks_slDrvGlobalObjUnLock true _).bind
    · exact fun _ => locks_throw
    · simpa using open_of_below hglobal
  intro _
  apply (quiet_verifyProtocol _).locks.bind
  intro _
  apply (quiet_emit rfl).locks.bind
  intro _
  have hunlock : Locks (emit (.unlock .txLockObj)) (.globalLockObj :: .txLockObj :: before)
      fun _ => (LockObj.globalLockObj :: .txLockObj :: before).erase .txLockObj := locks_unlock
  simpa using hunlock

theorem locks_sendData (cmdCtrl : CmdCtrl) (ext : CmdExt) (pTxRxDescBuff : Option (ℕ → Byte))
    (hbelow : ∀ other ∈ before, rank other < rank .globalLockObj) :
    Locks (sendData cfg cmdCtrl ext pTxRxDescBuff) (.globalLockObj :: before) fun _ => before := by
  apply (quiet_slDrvMsgWrite _ cmdCtrl _ pTxRxDescBuff).attempt.locks.bind
  intro sent
  apply (locks_slDrvGlobalObjUnLock true _).bind
  · exact fun _ => locks_pure (List.erase_cons_head _ _).symm
  · simpa using open_of_below hbelow

theorem locks_readWithPoolObj (sd : Byte) (cmdCtrl : CmdCtrl) (ext : CmdExt)
    (pTxRxDescBuff : Option (ℕ → Byte)) (env : ReadEnv) (objIdx : ℕ) :
    Locks (readWithPoolObj cfg sd cmdCtrl ext pTxRxDescBuff env objIdx) [.poolObj objIdx]
      fun _ => [] := by
  have hflow : Locks (readFlowControl cfg env) [.poolObj objIdx]
      fun _ => [.globalLockObj, .poolObj objIdx] := by
    apply (locks_lock (by simp [rank])).bind
    intro _
    apply (quiet_emit rfl).locks.bind
    intro _
    apply (quiet_runIf (quiet_txFlowControlWait _)).locks.bind
    exact fun _ => locks_takeTxPackets _ _ _ (by simp [rank])
  apply (locks_lock (by simp [rank])).bind
  intro _
  apply (quiet_emit rfl).locks.bind
  intro _
  have hunlock : Locks protectionObjUnlock [.protectionLockObj, .poolObj objIdx]
      fun _ => [.poolObj objIdx] := locks_unlock
  apply hunlock.bind
  intro _
  apply hflow.bind
  intro _
  apply (locks_sendData cfg cmdCtrl ext pTxRxDescBuff (by simp [rank])).bind
  intro sent
  apply (quiet_waitForReceive cfg sd cmdCtrl env sent).locks.bind
  intro received
  have hrelease : Locks (releasePoolObj objIdx) [.poolObj objIdx] fun _ => [] := by
    have hunlock : Locks (emit (.unlock (.poolObj objIdx))) [.poolObj objIdx]
        fun _ => [LockObj.poolObj objIdx].erase (.poolObj objIdx) := locks_unlock
    rwa [List.erase_cons_head] at hunlock
  exact hrelease.bind fun _ => locks_pure rfl

theorem locks_slDrvDataReadOp (sd : Byte) (cmdCtrl : CmdCtrl) (ext : CmdExt)
    (pTxRxDescBuff : Option (ℕ → Byte)) (env : ReadEnv) :
    Locks (slDrvDataReadOp cfg sd cmdCtrl ext pTxRxDescBuff env) [] fun _ => [] := by
  apply Locks.bind
  · apply Quiet.locks
    exact quiet_ite quiet_pure ((quiet_emit rfl).bind fun _ => quiet_throw)
  intro _
  apply (quiet_verifyProtocol _).locks.bind
  intro _
  apply (quiet_ite quiet_throw quiet_pure).locks.bind
  intro _
  cases hobj : env.poolObj with
  | ok objIdx =>
      have hwait : Locks (waitForPoolObj (.ok objIdx)) [] fun found => [.poolObj found] :=
        (locks_lock (by simp)).bind fun _ => locks_pure rfl
      exact hwait.bind fun found => locks_readWithPoolObj cfg sd cmdCtrl ext pTxRxDescBuff env found
  | error refused =>
      have hwait : Locks (waitForPoolObj (.error refused)) [] fun found => [.poolObj found] := by
        cases refused <;> exact locks_throw
      exact hwait.bind fun found => locks_readWithPoolObj cfg sd cmdCtrl ext pTxRxDescBuff env found

theorem locks_writeFlowControl (sd : Byte) (ext : CmdExt) (rounds : List WriteRound) :
    Locks (writeFlowControl cfg sd ext rounds) [] fun _ => [.txLockObj] := by
  induction rounds with
  | nil => exact locks_throw
  | cons round rounds ih =>
      have hunlock : Locks (emit (.unlock .txLockObj)) [.txLockObj] fun _ => [] := locks_unlock
      have hgiveUp : ∀ ret : RetCode, Locks (do emit (.unlock .txLockObj); throw ret) [.txLockObj]
          fun _ : Unit => [.txLockObj] := fun _ => hunlock.bind fun _ => locks_throw
      have hwait : Locks (writeFlowControlWait cfg sd round) [.txLockObj]
          fun _ => [.txLockObj] := by
        apply Locks.bind
        · apply locks_runIf
          intro _
          exact (quiet_runIf (quiet_emit rfl)).locks.bind fun _ => hgiveUp .eagain
        · exact fun _ => (quiet_txFlowControlWait _).locks
      apply (locks_lock (by simp)).bind
      intro _
      apply (quiet_emit rfl).locks.bind
      intro _
      apply (locks_runIf fun _ => hgiveUp .socError).bind
      intro _
      apply (locks_runIf fun _ => hwait).bind
      intro _
      apply locks_ite
      · exact fun _ => locks_pure rfl
      · exact fun _ => hunlock.bind fun _ => ih

theorem locks_slDrvDataWriteOp (sd : Byte) (cmdCtrl : CmdCtrl) (ext : CmdExt)
    (pTxRxDescBuff : Option (ℕ → Byte)) (rounds : List WriteRound) (env : TakePackets) :
    Locks (slDrvDataWriteOp cfg sd cmdCtrl ext pTxRxDescBuff rounds env) [] fun _ => [] := by
  apply (locks_writeFlowControl cfg sd ext rounds).bind
  intro alloc
  apply (locks_takeTxPackets _ alloc env (by simp)).bind
  exact fun _ => locks_sendData cfg cmdCtrl ext pTxRxDescBuff (by simp)

end Data

section Messages

variable (cfg : RxConfig) {before : List LockObj} {s : DrvState}

/-- The returns by which a caller of `_SlDrvMsgRead` does not know what it holds. -/
def leavesUnclear (ret : RetCode) : Prop := ret = .apiAborted ∨ ret = .noReturn

/-- The program returns in no other way. -/
def OnlyUnclear {α : Type} (program : DrvM α) : Prop :=
  ∀ s, Ends program s (fun _ _ => True) fun ret _ => leavesUnclear ret

theorem OnlyUnclear.bind {α β : Type} {program : DrvM α} {next : α → DrvM β}
    (hprogram : OnlyUnclear program) (hnext : ∀ value, OnlyUnclear (next value)) :
    OnlyUnclear (program >>= next) :=
  fun s => Ends.bind (hprogram s) fun value last _ => hnext value last

/-- The parts of a message return so. -/
def unclearRule : MsgParts.PartRule where
  holds := OnlyUnclear
  pure _ _ := trivial
  get _ := trivial
  modifyCB _ _ := trivial
  emit _ _ := trivial
  noReturn _ := .inr rfl
  nwpIfReadCheck count s := by
    rw [nwpIfReadCheck, ends_bind, ends_get, ends_ite]
    split
    · trivial
    · exact .inl rfl
  bind := OnlyUnclear.bind

/-- Started with these locks, the program holds them again wherever it falls through or
returns in a clear way. -/
def Restores {α : Type} (program : DrvM α) (before : List LockObj) : Prop :=
  ∀ s, seen s = (before, true) →
    Ends program s (fun _ last => seen last = (before, true)) fun ret last =>
      (seen last).2 = true ∧ (¬leavesUnclear ret → seen last = (before, true))

theorem Quiet.restores {α : Type} {program : DrvM α} (hquiet : Quiet program) :
    Restores program before := by
  intro s hseen
  apply (hquiet s).mono
  · exact fun _ _ hlast => hlast.trans hseen
  · intro ret last hlast
    rw [hlast, hseen]
    exact ⟨rfl, fun _ => rfl⟩

theorem Locks.restores {α : Type} {program : DrvM α}
    (hlocks : Locks program before fun _ => before) (hunclear : OnlyUnclear program) :
    Restores program before := by
  intro s hseen
  apply ((hlocks s hseen).and (hunclear s)).mono
  · exact fun _ _ hlast => hlast.1
  · exact fun _ _ hlast => ⟨hlast.1, fun hclear => absurd hlast.2 hclear⟩

theorem Restores.bind {α β : Type} {program : DrvM α} {next : α → DrvM β}
    (hprogram : Restores program before) (hnext : ∀ value, Restores (next value) before) :
    Restores (program >>= next) before :=
  fun s hseen => Ends.bind (hprogram s hseen) fun value last hlast => hnext value last hlast

theorem restores_readAsyncEvt (env : MsgEnv) (hdrBytes : List Byte) (header : RespHeader)
    (hopen : .protectionLockObj ∉ before) :
    Restores (readAsyncEvt cfg env hdrBytes header) before := by
  apply (quiet_emit rfl).restores.bind
  intro _
  apply (quiet_ite quiet_throw quiet_pure).restores.bind
  intro _
  apply (quiet_emit rfl).restores.bind
  intro _
  apply (quiet_emit rfl).restores.bind
  intro _
  apply (quiet_readAsyncPayload cfg _).restores.bind
  intro payload
  apply Locks.restores
  · apply (locks_lock (below_protection hopen)).bind
    intro _
    apply (quiet_slDrvFindAndSetActiveObj cfg _ _ _).locks.bind
    intro _
    apply locks_unlock.bind
    exact fun _ => locks_pure (List.erase_cons_head _ _).symm
  · apply unclearRule.bind unclearRule.protectionObjLockForever
    intro _
    apply unclearRule.bind (unclearRule.slDrvFindAndSetActiveObj cfg _ _ _)
    intro _
    exact unclearRule.bind unclearRule.protectionObjUnlock fun _ => unclearRule.pure _

theorem locks_readRecvResp (env : MsgEnv) (opcode : BitVec 16)
    (hopen : .protectionLockObj ∉ before) :
    Locks (readRecvResp cfg env opcode) before fun _ => before := by
  have hunlock : Locks protectionObjUnlock (.protectionLockObj :: before)
      fun _ => (LockObj.protectionLockObj :: before).erase .protectionLockObj := locks_unlock
  rw [List.erase_cons_head] at hunlock
  apply (quiet_nwpIfReadCheck _).locks.bind
  intro args
  apply (quiet_verifyProtocol _).locks.bind
  intro _
  apply (locks_lock (below_protection hopen)).bind
  intro _
  apply (quiet_slDrvFindAndSetActiveObj cfg _ _ _).locks.bind
  intro found
  apply locks_ite
  · exact fun _ => (quiet_readCtrlSock cfg _ _).locks.bind fun _ => hunlock
  intro _
  apply locks_ite
  · exact fun _ => (quiet_readRecvObj cfg _ _ _).locks.bind fun _ => hunlock
  intro _
  apply hunlock.bind
  intro _
  exact (locks_slDrvGlobalObjUnLock true hopen).bind fun _ => locks_throw

theorem onlyUnclear_aborted {α : Type} {program : DrvM Unit} (hprogram : OnlyUnclear program) :
    OnlyUnclear (do program; throw .apiAborted : DrvM α) :=
  hprogram.bind fun _ _ => .inl rfl

theorem onlyUnclear_slDrvGlobalObjUnLock (decrement : Bool) :
    OnlyUnclear (slDrvGlobalObjUnLock decrement) :=
  fun s => ((completes_slDrvGlobalObjUnLock decrement s).mono fun _ _ _ => trivial).ends

theorem onlyUnclear_readRecvResp (env : MsgEnv) (opcode : BitVec 16) :
    OnlyUnclear (readRecvResp cfg env opcode) := by
  apply unclearRule.bind (unclearRule.nwpIfReadCheck _)
  intro args
  apply unclearRule.bind (unclearRule.verifyProtocol _)
  intro _
  apply unclearRule.bind unclearRule.protectionObjLockForever
  intro _
  apply unclearRule.bind (unclearRule.slDrvFindAndSetActiveObj cfg _ _ _)
  intro found
  apply unclearRule.ite
  · apply unclearRule.bind (unclearRule.readCtrlSock cfg _ _)
    exact fun _ => unclearRule.protectionObjUnlock
  apply unclearRule.ite
  · apply unclearRule.bind (unclearRule.readRecvObj cfg _ _ _)
    exact fun _ => unclearRule.protectionObjUnlock
  apply unclearRule.bind unclearRule.protectionObjUnlock
  exact fun _ => onlyUnclear_aborted (onlyUnclear_slDrvGlobalObjUnLock true)

theorem restores_readHeader (hdr : RxHdr) (hopen : .protectionLockObj ∉ before) :
    Restores (readHeader hdr) before := by
  have hread : Quiet (slDrvRxHdrRead hdr) := by
    cases hdr with
    | header bytes => exact quiet_pure
    | shortTransfer => exact (quiet_emit rfl).bind fun _ => quiet_throw
    | timeout => exact quiet_throw
  apply hread.attempt.restores.bind
  intro read
  cases read with
  | ok bytes => exact quiet_pure.restores
  | error ret =>
      apply Locks.restores
      · intro s hseen
        apply ((locks_slDrvGlobalObjUnLock true hopen).bind fun _ =>
          (quiet_emit rfl).locks.bind fun _ => locks_throw) s hseen
      · apply (onlyUnclear_slDrvGlobalObjUnLock true).bind
        exact fun _ => onlyUnclear_aborted (unclearRule.emit rfl)

/-- A message leaves its reader with the locks that it held, unless it returns
`SL_API_ABORTED`; either way it takes the protection lock in order. -/
theorem restores_slDrvMsgRead (env : MsgEnv) (hopen : .protectionLockObj ∉ before) :
    Restores (slDrvMsgRead cfg env) before := by
  have hmeets : Quiet (modify fun s =>
      { s with rx := env.rx, cb := { s.cb with multiSelectCB := env.multiSelectCB } } :
        DrvM Unit) := fun _ => rfl
  apply hmeets.restores.bind
  intro _
  apply (restores_readHeader env.hdr hopen).bind
  intro hdrBytes
  apply Restores.bind
  · apply Quiet.restores
    apply quiet_modifyCB.bind
    intro _
    exact (quiet_emit rfl).bind fun _ => quiet_runIf (quiet_emit rfl)
  intro _
  apply Restores.bind
  · apply Quiet.restores
    exact quiet_get.bind fun _ => quiet_modifyCB.bind fun _ => quiet_pure
  intro rxMsgClass
  apply Restores.bind
  · cases rxMsgClass with
    | asyncEvt => exact restores_readAsyncEvt cfg env hdrBytes _ hopen
    | recvResp =>
        apply Restores.bind
        · exact (locks_readRecvResp cfg env _ hopen).restores (onlyUnclear_readRecvResp cfg env _)
        · exact fun _ => quiet_pure.restores
    | cmdResp => exact ((quiet_readCmdResp cfg _).bind fun _ => quiet_pure).restores
    | multiSelectResp => exact ((quiet_readMultiSelectResp cfg).bind fun _ => quiet_pure).restores
    | dummyMsg => exact quiet_pure.restores
  · exact fun _ => ((quiet_emit rfl).bind fun _ => quiet_pure).restores

end Messages

section Commands

variable (cfg : RxConfig)

/-- What a command holds while it waits for its response. -/
def commandHolds (lockRequired : Bool) : List LockObj :=
  if lockRequired then [.globalLockObj] else []

theorem open_commandHolds (lockRequired : Bool) :
    .protectionLockObj ∉ commandHolds lockRequired := by
  cases lockRequired <;> decide

theorem locks_unlockIfRequired (lockRequired : Bool) :
    Locks (unlockIfRequired lockRequired) (commandHolds lockRequired) fun _ => [] := by
  cases lockRequired with
  | false => exact locks_pure rfl
  | true => exact locks_slDrvGlobalObjUnLock true (by decide)

theorem locks_slSpawnMsgListInsert {before : List LockObj} (env : SpawnInsert)
    (asyncBuf : List Byte) (hopen : .protectionLockObj ∉ before) :
    Locks (slSpawnMsgListInsert env asyncBuf) before fun _ => before := by
  have hunlock : Locks protectionObjUnlock (.protectionLockObj :: before)
      fun _ => (LockObj.protectionLockObj :: before).erase .protectionLockObj := locks_unlock
  rw [List.erase_cons_head] at hunlock
  have hends : ∀ ret : RetCode, Locks (do protectionObjUnlock; return ret)
      (.protectionLockObj :: before) fun _ => before :=
    fun ret => hunlock.bind fun _ => locks_pure rfl
  apply (locks_lock (below_protection hopen)).bind
  intro _
  apply (quiet_emit rfl).locks.bind
  intro _
  apply locks_ite
  · exact fun _ => hends _
  intro _
  apply (quiet_emit rfl).locks.bind
  intro _
  apply locks_ite
  · exact fun _ => (quiet_emit rfl).locks.bind fun _ => hends _
  · exact fun _ => quiet_modifyCB.locks.bind fun _ => hends _

theorem locks_handleCmdMsg {before : List LockObj} (env : SpawnInsert) (out : MsgReadOut)
    (rxMsgClass : RxMsgClass) (hopen : .protectionLockObj ∉ before) :
    Locks (handleCmdMsg env out rxMsgClass) before fun _ => before := by
  cases rxMsgClass with
  | cmdResp => exact (quiet_modifyCB.bind fun _ => quiet_emit rfl).locks
  | asyncEvt =>
      apply (locks_slSpawnMsgListInsert env _ hopen).bind
      intro inserted
      apply Quiet.locks
      apply Quiet.bind (quiet_runIf _) fun _ => quiet_emit rfl
      apply quiet_get.bind
      exact fun _ => quiet_runIf ((quiet_emit rfl).bind fun _ => quiet_emit rfl)
  | multiSelectResp => exact (quiet_emit rfl).locks
  | recvResp | dummyMsg => exact quiet_pure.locks

/-- A call that stops at a message gives the lock back where it knows that it holds it. -/
theorem ends_abandonCmd {ret : RetCode} {lost : DrvState} (lockRequired : Bool)
    (hstops : stopsCaller ret = false)
    (hlost : (seen lost).2 = true ∧
      (¬leavesUnclear ret → seen lost = (commandHolds lockRequired, true))) :
    Ends (abandonCmd lockRequired ret) lost
      (fun _ last => seen last = (commandHolds lockRequired, true))
      fun _ last => (seen last).2 = true := by
  by_cases haborted : ret = .apiAborted
  · rw [abandonCmd, ends_bind, ends_modifyCB, ends_bind, unlockIfRequired, ends_runIf,
      if_neg (by simp [haborted])]
    exact hlost.1
  · have hclear : ¬leavesUnclear ret := by
      simpa [leavesUnclear, haborted, stopsCaller] using hstops
    have hunlock : Locks (unlockIfRequired (lockRequired && ret ≠ .apiAborted))
        (commandHolds lockRequired) fun _ => [] := by
      simpa [haborted] using locks_unlockIfRequired lockRequired
    exact (quiet_modifyCB.locks.bind fun _ => hunlock.bind fun _ => locks_throw) lost
      (hlost.2 hclear)

theorem locks_readCmdMsg (lockRequired : Bool) (round : CmdRound) :
    Locks (readCmdMsg cfg lockRequired round) (commandHolds lockRequired)
      fun _ => commandHolds lockRequired := by
  intro s hseen
  rw [readCmdMsg, ends_bind, ends_attempt]
  apply (restores_slDrvMsgRead cfg round.message (open_commandHolds lockRequired) s hseen).mono
  · intro out read hread
    apply (quiet_modifyCB.locks.bind fun _ => quiet_get.locks.bind fun s =>
      locks_handleCmdMsg round.spawnInsert out _ (open_commandHolds lockRequired)) read hread
  · intro ret lost hlost
    split
    · exact hlost.1
    · rename_i hstops
      exact ends_abandonCmd lockRequired (by simpa using hstops) hlost

theorem locks_readUntilCmdResp (cmdOpcode : BitVec 16) (lockRequired : Bool)
    (rounds : List CmdRound) :
    Locks (readUntilCmdResp cfg cmdOpcode lockRequired rounds) (commandHolds lockRequired)
      fun _ => commandHolds lockRequired := by
  induction rounds with
  | nil => exact (quiet_get.bind fun _ => quiet_ite quiet_throw quiet_pure).locks
  | cons round rounds ih =>
      have hwait : Locks (waitForCmdMsg cfg cmdOpcode lockRequired round)
          (commandHolds lockRequired) fun _ => commandHolds lockRequired := by
        apply locks_runIf
        intro _
        apply quiet_modifyCB.locks.bind
        intro _
        apply (locks_unlockIfRequired lockRequired).bind
        intro _
        exact (quiet_runIf (quiet_emit rfl)).locks.bind fun _ => locks_throw
      apply quiet_get.locks.bind
      intro s
      apply locks_ite
      · intro _
        apply locks_ite
        · exact fun _ => (locks_readCmdMsg cfg lockRequired round).bind fun _ => ih
        · exact fun _ => hwait.bind fun _ => ih
      · exact fun _ => locks_pure rfl

theorem locks_slDrvMsgReadCmdCtx (cmdOpcode : BitVec 16) (lockRequired : Bool) (env : CmdEnv) :
    Locks (slDrvMsgReadCmdCtx cfg cmdOpcode lockRequired env) (commandHolds lockRequired)
      fun _ => [] := by
  have hcount : Locks slSpawnMsgListGetCount (commandHolds lockRequired)
      fun _ => commandHolds lockRequired := by
    apply quiet_get.locks.bind
    intro s
    apply (locks_lock (below_protection (open_commandHolds lockRequired))).bind
    intro _
    apply locks_unlock.bind
    exact fun _ => locks_pure (List.erase_cons_head _ _).symm
  apply (locks_readUntilCmdResp cfg cmdOpcode lockRequired env.rounds).bind
  intro _
  apply hcount.bind
  intro count
  apply (quiet_runIf (quiet_emit rfl)).locks.bind
  intro _
  apply (locks_unlockIfRequired lockRequired).bind
  intro _
  exact (quiet_get.bind fun _ => quiet_runIf (quiet_emit rfl)).locks

theorem locks_slDrvCmdOp (cmdCtrl : CmdCtrl) (pTxRxDescBuff : Option (ℕ → Byte))
    (ext : Option CmdExt) (env : CmdEnv) :
    Locks (slDrvCmdOp cfg cmdCtrl pTxRxDescBuff ext env) [] fun _ => [] := by
  have hlock : ∀ lockRequired : Bool, Locks
      (runIf lockRequired (lockGlobalLockForever (cmdLockFlags cfg cmdCtrl pTxRxDescBuff)
        env.globalLock)) [] fun _ => commandHolds lockRequired := by
    intro lockRequired
    cases lockRequired with
    | false => exact locks_pure rfl
    | true => exact locks_lockGlobalLockForever _ _ (by simp)
  apply (hlock _).bind
  intro _
  apply Locks.bind
  · apply locks_runIf
    exact fun _ => (locks_unlockIfRequired _).bind fun _ => locks_throw
  intro _
  apply quiet_modifyCB.locks.bind
  intro _
  apply (quiet_slDrvMsgWrite _ cmdCtrl ext pTxRxDescBuff).attempt.locks.bind
  intro sent
  cases sent with
  | ok _ => exact locks_slDrvMsgReadCmdCtx cfg cmdCtrl.opcode _ env
  | error ret => exact (locks_unlockIfRequired _).bind fun _ => locks_throw

theorem quiet_handleSpawnMsg (flags : DevFlags) (out : MsgReadOut) (rxMsgClass : RxMsgClass) :
    Quiet (handleSpawnMsg cfg flags out rxMsgClass) := by
  cases rxMsgClass with
  | asyncEvt =>
      have hhandler : Quiet (slDrvAsyncEventGenericHandler cfg flags out.asyncBuf) := by
        apply quiet_get.bind
        intro s
        split
        · exact quiet_pure
        · exact quiet_runIf (quiet_emit rfl)
      exact hhandler.bind fun _ => quiet_emit rfl
  | multiSelectResp =>
      apply quiet_ite (quiet_emit rfl)
      exact quiet_ite quiet_pure ((quiet_emit rfl).bind fun _ => quiet_throw)
  | dummyMsg | recvResp | cmdResp => exact quiet_pure

theorem locks_readSpawnMsg (env : SpawnEnv) :
    Locks (readSpawnMsg cfg env) [.globalLockObj] fun _ => [] := by
  intro s hseen
  rw [readSpawnMsg, ends_bind, ends_attempt]
  apply (restores_slDrvMsgRead cfg env.message (by decide) s hseen).mono
  · intro out read hread
    apply (quiet_modifyCB.locks.bind fun _ => quiet_get.locks.bind fun s =>
      (quiet_handleSpawnMsg cfg env.handlerFlags out _).locks.bind fun _ =>
        locks_slDrvGlobalObjUnLock false (by decide)) read hread
  · intro ret lost hlost
    split
    · exact hlost.1
    rename_i hstops
    by_cases haborted : ret = .apiAborted
    · change Ends (abandonSpawnMsg ret) lost _ _
      rw [abandonSpawnMsg, ends_bind, ends_runIf, if_neg (by simp [haborted])]
      exact hlost.1
    · have hclear : ¬leavesUnclear ret := by
        simpa [leavesUnclear, haborted, stopsCaller] using hstops
      have hunlock : Locks (runIf (ret ≠ .apiAborted) (slDrvGlobalObjUnLock false))
          [.globalLockObj] fun _ => [] := by
        rw [runIf, if_pos haborted]
        exact locks_slDrvGlobalObjUnLock false (by decide)
      exact (hunlock.bind fun _ => locks_throw) lost (hlost.2 hclear)

theorem locks_slDrvMsgReadSpawnCtx (env : SpawnEnv) :
    Locks (slDrvMsgReadSpawnCtx cfg env) [] fun _ => [] := by
  apply (locks_lockGlobalLockForever _ _ (by simp)).bind
  intro _
  apply quiet_get.locks.bind
  intro s
  apply locks_ite
  · exact fun _ => locks_slDrvGlobalObjUnLock false (by decide)
  intro _
  apply locks_ite
  · exact fun _ => locks_readSpawnMsg cfg env
  · exact fun _ => locks_throw

end Commands

section Threads

/-- A call of the driver, with all that it meets. -/
inductive DriverCall
  | cmdOp (cmdCtrl : CmdCtrl) (pTxRxDescBuff : Option (ℕ → Byte)) (ext : Option CmdExt)
      (env : CmdEnv)
  | dataReadOp (sd : Byte) (cmdCtrl : CmdCtrl) (ext : CmdExt) (pTxRxDescBuff : Option (ℕ → Byte))
      (env : ReadEnv)
  | dataWriteOp (sd : Byte) (cmdCtrl : CmdCtrl) (ext : CmdExt)
      (pTxRxDescBuff : Option (ℕ → Byte)) (rounds : List WriteRound) (env : TakePackets)
  | msgReadSpawnCtx (env : SpawnEnv)

variable (cfg : RxConfig) (dataCfg : DataConfig)

/-- The state in which a program ends, either way. -/
def lastState {α : Type} (program : DrvM α) (s : DrvState) : DrvState :=
  match program.run s with
  | .ok _ after => after
  | .error _ after => after

def DriverCall.lastState (s : DrvState) : DriverCall → DrvState
  | .cmdOp cmdCtrl pTxRxDescBuff ext env =>
      CallOrder.lastState (slDrvCmdOp cfg cmdCtrl pTxRxDescBuff ext env) s
  | .dataReadOp sd cmdCtrl ext pTxRxDescBuff env =>
      CallOrder.lastState (slDrvDataReadOp dataCfg sd cmdCtrl ext pTxRxDescBuff env) s
  | .dataWriteOp sd cmdCtrl ext pTxRxDescBuff rounds env =>
      CallOrder.lastState (slDrvDataWriteOp dataCfg sd cmdCtrl ext pTxRxDescBuff rounds env) s
  | .msgReadSpawnCtx env => CallOrder.lastState (slDrvMsgReadSpawnCtx cfg env) s

/-- A call with what the interface and the control block hold for it. -/
structure Entry where
  call : DriverCall
  rx : List Byte
  writesLeft : ℕ
  cb : DriverCB

/-- The state in which the call ends. -/
def Entry.last (entry : Entry) : DrvState :=
  entry.call.lastState cfg dataCfg (.start entry.rx entry.writesLeft entry.cb)

/-- The call gives back every lock that it takes. -/
def Entry.GivesBack (entry : Entry) : Prop := ∀ lock, (entry.last cfg dataCfg).held lock = some 0

theorem seen_lastState {α : Type} {program : DrvM α} {s : DrvState} {after : α → List LockObj}
    (hlocks : Locks program [] after) (hseen : seen s = ([], true)) :
    (seen (lastState program s)).2 = true := by
  have hends := hlocks s hseen
  rw [Ends] at hends
  rw [lastState]
  cases hrun : program.run s with
  | ok value after =>
      rw [hrun] at hends
      exact congrArg (·.2) hends
  | error ret after =>
      rw [hrun] at hends
      exact hends

/-- Every call takes its locks in order. -/
theorem neverBad_acts (entry : Entry) :
    NeverBad (heldAfter lockEvent) (outOfOrder lockEvent rank) []
      (entry.last cfg dataCfg).acts := by
  apply (foldl_watchBad _ _ _ _).2.mp
  change (seen (entry.last cfg dataCfg)).2 = true
  rw [Entry.last]
  cases entry.call with
  | cmdOp => exact seen_lastState (locks_slDrvCmdOp cfg _ _ _ _) rfl
  | dataReadOp => exact seen_lastState (locks_slDrvDataReadOp dataCfg _ _ _ _ _) rfl
  | dataWriteOp => exact seen_lastState (locks_slDrvDataWriteOp dataCfg _ _ _ _ _ _) rfl
  | msgReadSpawnCtx => exact seen_lastState (locks_slDrvMsgReadSpawnCtx cfg _) rfl

/-- The actions of a thread that makes these calls one after another. -/
def actsOf (calls : List Entry) : List DrvAct :=
  (calls.map fun entry => (entry.last cfg dataCfg).acts).flatten

theorem orderly_actsOf {calls : List Entry}
    (hback : ∀ entry ∈ calls, entry.GivesBack cfg dataCfg) :
    Orderly lockEvent rank [] (actsOf cfg dataCfg calls) := by
  apply orderly_flatten
  intro acts hacts
  obtain ⟨entry, hentry, rfl⟩ := List.mem_map.mp hacts
  exact orderly_of_neverBad (neverBad_acts cfg dataCfg entry) (hback entry hentry)

/-- Threads whose calls all give back their locks never wait in a circle: whatever turns they
take, if none of them can go on, then all calls are done and every lock is free. -/
theorem calls_never_deadlock {Thread : Type} [DecidableEq Thread] [Finite Thread]
    {work : Thread → List Entry} {turns : List Thread} {reached : Threads LockObj Thread DrvAct}
    (hback : ∀ thread, ∀ entry ∈ work thread, entry.GivesBack cfg dataCfg)
    (hrun : run (LockOrder.step lockEvent)
      (beginning fun thread => actsOf cfg dataCfg (work thread)) turns = some reached)
    (hstuck : ∀ thread, LockOrder.step lockEvent reached thread = none) :
    (∀ thread, reached.left thread = []) ∧ ∀ lock, reached.owner lock = none :=
  finished_of_run (fun thread => orderly_actsOf cfg dataCfg (hback thread)) hrun hstuck

/-- A command whose response arrives whole. -/
def wholeCmd : Entry where
  call :=
    .cmdOp { opcode := 0x8400, txDescLen := 0, rxDescLen := 4 } none none
      { shortCmdEnv with
        rounds := [{ shortRound with message := { shortResponse with rx := [0, 0, 0, 0] } }] }
  rx := []
  writesLeft := 10
  cb := messageCBInit 1

/-- A write that finds packets enough. -/
def wholeWrite : Entry where
  call :=
    .dataWriteOp 0 { opcode := 0x9401, txDescLen := 4, rxDescLen := 0 } shortExt none
      [{ timedOutRound with txPoolCnt := 10, txPoolCntAfter := 10 }]
      { timedOutRead.takePackets with txPoolCnt := 10 }
  rx := []
  writesLeft := 10
  cb := messageCBInit 1

def writeOrCmd (writes : Bool) : List Entry := if writes then [wholeWrite] else [wholeCmd]

theorem givesBack_writeOrCmd (writes : Bool) :
    ∀ entry ∈ writeOrCmd writes, entry.GivesBack smallRxConfig smallDataConfig := by
  intro entry hentry lock
  cases writes with
  | true =>
      rw [List.mem_singleton.mp hentry]
      cases lock <;> rfl
  | false =>
      rw [List.mem_singleton.mp hentry]
      cases lock <;> rfl

/-- A write has the TX lock while a command runs, and then goes on. -/
theorem calls_never_deadlock_writeOrCmd :
    ∃ reached, run (LockOrder.step lockEvent)
      (beginning fun writes => actsOf smallRxConfig smallDataConfig (writeOrCmd writes))
        (List.replicate 2 true ++ List.replicate 18 false ++ List.replicate 13 true) =
          some reached ∧
      (∀ writes, reached.left writes = []) ∧ ∀ lock, reached.owner lock = none := by
  have hany : (run (LockOrder.step lockEvent)
      (beginning fun writes => actsOf smallRxConfig smallDataConfig (writeOrCmd writes))
        (List.replicate 2 true ++ List.replicate 18 false ++ List.replicate 13 true)).any
      (fun reached => ∀ writes, (LockOrder.step lockEvent reached writes).isNone) = true := by
    decide +kernel
  rw [Option.any_eq_true] at hany
  obtain ⟨reached, hrun, hstuck⟩ := hany
  have hnone := of_decide_eq_true hstuck
  exact ⟨reached, hrun, calls_never_deadlock smallRxConfig smallDataConfig givesBack_writeOrCmd hrun
    fun writes => Option.isNone_iff_eq_none.mp (hnone writes)⟩

end Threads

end SimpleLinkHost.CallOrder
