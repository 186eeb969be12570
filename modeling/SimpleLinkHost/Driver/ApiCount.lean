import SimpleLinkHost.Driver.CmdOpLocks
import SimpleLinkHost.Driver.DataOpLocks
import SimpleLinkHost.Driver.MsgParts

/-!
# What a call adds to `ApiInProgressCnt`

The count goes up in the global-lock wrapper and down wherever the lock is given
back with `TRUE`.  Between the two a call touches neither the count nor the global
lock, with the exception of the two error returns of `_SlDrvMsgRead`.  So the
changes of a whole call follow from what the wrapper saw and from the fate of the
message at which the call stopped.
-/

namespace SimpleLinkHost.ApiCount

open CallOutcome Calls GlobalLock MsgWrite RxMsg MsgRead MsgParts MsgFate CmdOp CmdOpLocks

/-- What an action adds to `ApiInProgressCnt`. -/
def apiChange : DrvAct → Option ℤ
  | .apiInProgress value => some value
  | _ => none

/-- The changes of `ApiInProgressCnt` in a trace. -/
def apiChanges (acts : List DrvAct) : List ℤ := acts.filterMap apiChange

/-- The changes so far, and how often the call holds the global lock. -/
def apiView (s : DrvState) : List ℤ × Option ℕ :=
  (apiChanges s.acts, s.held .globalLockObj)

/-- The view after the global lock was given back and the count lowered. -/
def givenBack (view : List ℤ × Option ℕ) : List ℤ × Option ℕ :=
  (view.1 ++ [-1], view.2.bind Nat.ppred)

/-- The actions that are neither on the count nor on the global lock. -/
abbrev isQuiet : DrvAct → Bool
  | .lock obj | .unlock obj => obj ≠ .globalLockObj
  | .apiInProgress _ => false
  | _ => true

/-- A program that leaves the view as it is, however it ends. -/
def Silent {α : Type} (program : DrvM α) : Prop :=
  ∀ s, Ends program s (fun _ after => apiView after = apiView s)
    fun _ after => apiView after = apiView s

section Silent

variable {α β : Type} {s : DrvState} {program : DrvM α} {act : DrvAct}

theorem apiChanges_after :
    apiChanges (s.after act).acts = apiChanges s.acts ++ (apiChange act).toList := by
  rw [DrvState.after, apiChanges, apiChanges, List.filterMap_append]
  cases hact : apiChange act <;> simp [hact]

theorem apiView_after (hact : isQuiet act = true) : apiView (s.after act) = apiView s := by
  have hchange : apiChange act = none := by
    cases act <;> first | rfl | simp at hact
  have hheld : (s.after act).held .globalLockObj = s.held .globalLockObj := by
    cases act with
    | lock obj =>
        have hobj : LockObj.globalLockObj ≠ obj := Ne.symm (by simpa using hact)
        rw [held_lock, holding, Function.update_of_ne hobj]
    | unlock obj =>
        have hobj : LockObj.globalLockObj ≠ obj := Ne.symm (by simpa using hact)
        rw [held_unlock, without, Function.update_of_ne hobj]
    | _ => exact congrFun (held_neutral rfl) _
  rw [apiView, apiChanges_after, hchange, hheld, Option.toList_none, List.append_nil, apiView]

@[grind ←]
theorem silent_pure (value : α) : Silent (pure value : DrvM α) := fun _ => rfl

@[grind ←]
theorem silent_throw (ret : RetCode) : Silent (throw ret : DrvM α) := fun _ => rfl

@[grind ←]
theorem silent_get : Silent (get : DrvM DrvState) := fun _ => rfl

@[grind ←]
theorem silent_emit (hact : isQuiet act = true) : Silent (emit act) :=
  fun _ => apiView_after hact

@[grind ←]
theorem silent_modifyCB (change : DriverCB → DriverCB) : Silent (modifyCB change) :=
  fun _ => rfl

@[grind ←]
theorem silent_bind {next : α → DrvM β} (hprogram : Silent program)
    (hnext : ∀ value, Silent (next value)) : Silent (program >>= next) := by
  intro s
  rw [ends_bind]
  apply (hprogram s).mono
  · intro value middle hmiddle
    have hrest := hnext value middle
    rwa [hmiddle] at hrest
  · exact fun _ _ hafter => hafter

theorem silent_ite {cond : Prop} [Decidable cond] {other : DrvM α} (hprogram : Silent program)
    (hother : Silent other) : Silent (if cond then program else other) := by
  split
  · exact hprogram
  · exact hother

@[grind ←]
theorem silent_runIf {cond : Prop} [Decidable cond] {program : DrvM Unit}
    (hprogram : Silent program) : Silent (runIf cond program) :=
  silent_ite hprogram (silent_pure _)

@[grind ←]
theorem silent_returnIf (cond : Bool) (ret : RetCode) : Silent (returnIf cond ret) :=
  silent_ite (silent_throw _) (silent_pure _)

@[grind ←]
theorem silent_attempt {stops : RetCode → Bool} (hprogram : Silent program) :
    Silent (attempt stops program) := by
  intro s
  rw [ends_attempt]
  apply (hprogram s).mono
  · exact fun _ _ hafter => hafter
  · intro ret after hafter
    split <;> exact hafter

end Silent

section Messages

variable (cfg : RxConfig)

@[grind ←]
theorem silent_verifyProtocol (check : Bool) : Silent (verifyProtocol check) := by
  grind [verifyProtocol]

@[grind ←]
theorem silent_slAssertError (check : Bool) (error : RetCode) :
    Silent (slAssertError check error) := by
  grind [slAssertError]

@[grind ←]
theorem silent_nwpIfWriteCheck (bytes : List Byte) : Silent (nwpIfWriteCheck bytes) := by
  intro s
  rw [nwpIfWriteCheck, ends_bind, ends_get]
  cases s.writesLeft with
  | zero => exact apiView_after rfl
  | succ left => exact apiView_after (s := { s with writesLeft := left }) rfl

@[grind ←]
theorem silent_writePayloads (ext : CmdExt) : Silent (writePayloads ext) := by
  grind [writePayloads, writeTwoPayloads]

@[grind ←]
theorem silent_writeDescriptors (cmdCtrl : CmdCtrl) (pTxRxDescBuff : Option (ℕ → Byte)) :
    Silent (writeDescriptors cmdCtrl pTxRxDescBuff) := by
  cases pTxRxDescBuff <;> grind [writeDescriptors]

@[grind ←]
theorem silent_writeExt (cmdCtrl : CmdCtrl) (ext : Option CmdExt) :
    Silent (writeExt cmdCtrl ext) := by
  cases ext <;> grind [writeExt, writeRxPayload]

@[grind ←]
theorem silent_slDrvMsgWrite (proto : ProtocolConfig) (cmdCtrl : CmdCtrl) (ext : Option CmdExt)
    (pTxRxDescBuff : Option (ℕ → Byte)) :
    Silent (slDrvMsgWrite proto cmdCtrl ext pTxRxDescBuff) := by
  grind [slDrvMsgWrite]

@[grind ←]
theorem silent_nwpIfReadCheck (count : ℕ) : Silent (nwpIfReadCheck count) := by
  intro s
  rw [nwpIfReadCheck, ends_bind, ends_get]
  split
  · exact apiView_after (s := { s with rx := s.rx.drop count }) rfl
  · exact apiView_after (s := { s with rx := [] }) rfl

theorem isQuiet_of_ofPart (hact : ofPart act = true) : isQuiet act = true := by
  cases act with
  | memWrite | syncSignal | fatalError => rfl
  | lock obj | unlock obj =>
      obtain rfl : obj = .protectionLockObj := by simpa [ofPart] using hact
      rfl
  | _ => cases hact

def silentRule : PartRule where
  holds := Silent
  pure := silent_pure
  get := silent_get
  modifyCB := silent_modifyCB
  emit hact := silent_emit (isQuiet_of_ofPart hact)
  noReturn := silent_throw _
  nwpIfReadCheck := silent_nwpIfReadCheck
  bind := silent_bind

@[grind ←]
theorem silent_protectionObjLockForever : Silent protectionObjLockForever :=
  silentRule.protectionObjLockForever

@[grind ←]
theorem silent_protectionObjUnlock : Silent protectionObjUnlock := silentRule.protectionObjUnlock

theorem silent_slDrvFindAndSetActiveObj (pool : Pool.PoolCB) (opcode : BitVec 16) (sd : ℕ) :
    Silent (slDrvFindAndSetActiveObj cfg pool opcode sd) :=
  silentRule.slDrvFindAndSetActiveObj cfg pool opcode sd

theorem silent_readCmdResp (header : RespHeader) : Silent (readCmdResp cfg header) :=
  silentRule.readCmdResp cfg header

theorem silent_readMultiSelectResp : Silent (readMultiSelectResp cfg) :=
  silentRule.readMultiSelectResp cfg

theorem silent_readAsyncEvt (env : MsgEnv) (hdrBytes : List Byte) (header : RespHeader) :
    Silent (readAsyncEvt cfg env hdrBytes header) :=
  silentRule.readAsyncEvt cfg env hdrBytes header (silent_emit rfl) (silent_returnIf _ _)

end Messages

section GivesBack

variable {α β : Type} {s : DrvState} {program : DrvM α} {ret : RetCode}

theorem completes_slDrvUpdateApiInProgress_view (value : ℤ) (s : DrvState) :
    Completes (slDrvUpdateApiInProgress value) s fun _ after =>
      apiView after = ((apiView s).1 ++ [value], (apiView s).2) := by
  have hlocked : apiView (s.after (.lock .protectionLockObj)) = apiView s := apiView_after rfl
  have hheld := held_neutral (s := s.after (.lock .protectionLockObj))
    (rfl : lockEvent (.apiInProgress value) = none)
  have hchanged : apiView ((s.after (.lock .protectionLockObj)).after (.apiInProgress value)) =
      ((apiView s).1 ++ [value], (apiView s).2) := by
    rw [apiView, apiChanges_after, hheld, ← hlocked]
    rfl
  exact (apiView_after rfl).trans hchanged

theorem apiView_unlock :
    apiView (s.after (.unlock .globalLockObj)) = ((apiView s).1, (apiView s).2.bind Nat.ppred) := by
  have hheld : (s.after (.unlock .globalLockObj)).held .globalLockObj =
      (s.held .globalLockObj).bind Nat.ppred := by
    rw [held_unlock, without, Function.update_self]
  rw [apiView, apiChanges_after, hheld, apiView]
  simp [apiChange]

theorem completes_slDrvGlobalObjUnLock_true (s : DrvState) :
    Completes (slDrvGlobalObjUnLock true) s fun _ after =>
      apiView after = givenBack (apiView s) := by
  rw [Completes, slDrvGlobalObjUnLock, ends_bind, ends_emit]
  apply (completes_slDrvUpdateApiInProgress_view (-1) _).mono
  intro _ after hafter
  rw [hafter, apiView_unlock, givenBack]

theorem completes_slDrvGlobalObjUnLock_false (s : DrvState) :
    Completes (slDrvGlobalObjUnLock false) s fun _ after =>
      apiChanges after.acts = apiChanges s.acts := by
  rw [Completes, slDrvGlobalObjUnLock, ends_bind, ends_emit]
  exact congrArg (·.1) apiView_unlock

/-- A program that may give the global lock back where it returns early, and only
there. -/
def MayGiveBack (program : DrvM α) : Prop :=
  ∀ s, Ends program s (fun _ after => apiView after = apiView s)
    fun _ after => apiView after = apiView s ∨ apiView after = givenBack (apiView s)

theorem Silent.mayGiveBack (hprogram : Silent program) : MayGiveBack program := by
  intro s
  apply (hprogram s).mono
  · exact fun _ _ hafter => hafter
  · exact fun _ _ hafter => Or.inl hafter

theorem MayGiveBack.bind {next : α → DrvM β} (hprogram : MayGiveBack program)
    (hnext : ∀ value, MayGiveBack (next value)) : MayGiveBack (program >>= next) := by
  intro s
  rw [ends_bind]
  apply (hprogram s).mono
  · intro value middle hmiddle
    have hrest := hnext value middle
    rwa [hmiddle] at hrest
  · exact fun _ _ hafter => hafter

theorem mayGiveBack_unlock {next : Unit → DrvM α}
    (hnext : ∀ s, Ends (next ()) s (fun _ _ => False) fun _ after => apiView after = apiView s) :
    MayGiveBack (slDrvGlobalObjUnLock true >>= next) := by
  intro s
  apply (completes_slDrvGlobalObjUnLock_true s).bind
  intro _ unlocked hunlocked
  apply (hnext unlocked).mono
  · exact fun _ _ hfalse => hfalse.elim
  · exact fun _ _ hafter => Or.inr (hafter.trans hunlocked)

variable (cfg : RxConfig)

theorem mayGiveBack_readHeader (hdr : RxHdr) : MayGiveBack (readHeader hdr) := by
  have hread : Silent (attempt stopsCaller (slDrvRxHdrRead hdr)) := by
    cases hdr <;> grind [slDrvRxHdrRead]
  rw [readHeader]
  apply hread.mayGiveBack.bind
  intro read
  cases read with
  | ok bytes => exact (silent_pure bytes).mayGiveBack
  | error ret =>
      apply mayGiveBack_unlock
      intro unlocked
      exact apiView_after rfl

theorem mayGiveBack_readRecvResp (env : MsgEnv) (opcode : BitVec 16) :
    MayGiveBack (readRecvResp cfg env opcode) := by
  rw [readRecvResp]
  apply (silent_nwpIfReadCheck _).mayGiveBack.bind
  intro args
  apply (silent_verifyProtocol _).mayGiveBack.bind
  intro _
  apply silent_protectionObjLockForever.mayGiveBack.bind
  intro _
  apply (silent_slDrvFindAndSetActiveObj _ _ _ _).mayGiveBack.bind
  intro found
  split
  · apply Silent.mayGiveBack
    exact silent_bind (silentRule.readCtrlSock cfg _ _) fun _ => silent_protectionObjUnlock
  · split
    · apply Silent.mayGiveBack
      exact silent_bind (silentRule.readRecvObj cfg _ _ _) fun _ => silent_protectionObjUnlock
    · apply silent_protectionObjUnlock.mayGiveBack.bind
      intro _
      apply mayGiveBack_unlock
      exact fun _ => rfl

theorem mayGiveBack_readPayload (env : MsgEnv) (hdrBytes : List Byte) (header : RespHeader)
    (rxMsgClass : RxMsgClass) : MayGiveBack (readPayload cfg env hdrBytes header rxMsgClass) := by
  cases rxMsgClass with
  | asyncEvt => exact (silent_readAsyncEvt _ _ _ _).mayGiveBack
  | recvResp =>
      apply (mayGiveBack_readRecvResp cfg env header.opcode).bind
      exact fun _ => (silent_pure _).mayGiveBack
  | cmdResp =>
      apply (silent_readCmdResp cfg header).mayGiveBack.bind
      exact fun _ => (silent_pure _).mayGiveBack
  | multiSelectResp =>
      apply (silent_readMultiSelectResp cfg).mayGiveBack.bind
      exact fun _ => (silent_pure _).mayGiveBack
  | dummyMsg => exact (silent_pure _).mayGiveBack

theorem mayGiveBack_slDrvMsgRead (env : MsgEnv) : MayGiveBack (slDrvMsgRead cfg env) := by
  have hbegin : Silent (modify fun s : DrvState =>
      { s with rx := env.rx, cb := { s.cb with multiSelectCB := env.multiSelectCB } }) :=
    fun _ => rfl
  have hupdate : ∀ header, Silent (updateNwpStatus cfg header env.txSyncObjCount) := by
    grind [updateNwpStatus]
  have hclassify : ∀ opcode, Silent (slDrvClassifyRxMsg cfg opcode) := by
    grind [slDrvClassifyRxMsg]
  rw [slDrvMsgRead]
  apply hbegin.mayGiveBack.bind
  intro _
  apply (mayGiveBack_readHeader env.hdr).bind
  intro hdrBytes
  apply (hupdate (cfg.respHeader hdrBytes)).mayGiveBack.bind
  intro _
  apply (hclassify (cfg.respHeader hdrBytes).opcode).mayGiveBack.bind
  intro rxMsgClass
  apply (mayGiveBack_readPayload cfg env hdrBytes (cfg.respHeader hdrBytes) rxMsgClass).bind
  intro out
  apply Silent.mayGiveBack
  grind

end GivesBack

/-- The view after a piece of a call that may give the lock back. -/
def settled (gives : Bool) (view : List ℤ × Option ℕ) : List ℤ × Option ℕ :=
  if gives then givenBack view else view

/-- The program gives the lock back as `gives` says by the time it ends; if it does not
return, it does so with the lock kept. -/
def Settles {α : Type} (program : DrvM α) (s : DrvState) (gives : Bool) : Prop :=
  Ends program s (fun _ after => apiView after = settled gives (apiView s))
    fun ret after => apiView after = if ret = .noReturn then apiView s
      else settled gives (apiView s)

/-- Whether a message with this fate, or its abandonment, gives the lock back. -/
def fateGivesBack (lockRequired : Bool) : Fate → Bool
  | .done | .short | .shortProtected | .endless => false
  | .syncLoss | .unmatched => true
  | .noMemory => lockRequired

/-- The same for a command, from the fate of the message that stopped its loop. -/
def stopGivesBack (lockRequired : Bool) : Option Fate → Bool
  | none => lockRequired
  | some fate => fateGivesBack lockRequired fate

section Commands

variable (cfg : RxConfig) {s : DrvState} {lockRequired : Bool}

theorem view_of_kept {after : DrvState} {held : ℕ} (hs : s.held .globalLockObj = some held)
    (hmay : apiView after = apiView s ∨ apiView after = givenBack (apiView s))
    (hkept : after.held .globalLockObj = s.held .globalLockObj) : apiView after = apiView s := by
  apply hmay.resolve_right
  intro hgiven
  have hheld : after.held .globalLockObj = (s.held .globalLockObj).bind Nat.ppred :=
    congrArg (·.2) hgiven
  rw [hkept, hs] at hheld
  cases held with
  | zero => simp at hheld
  | succ held => simp [Nat.ppred] at hheld

theorem view_of_given {after : DrvState} {held : ℕ} (hs : s.held .globalLockObj = some held)
    (hmay : apiView after = apiView s ∨ apiView after = givenBack (apiView s))
    (hgiven : after.held = without s.held .globalLockObj) :
    apiView after = givenBack (apiView s) := by
  apply hmay.resolve_left
  intro hkept
  have hheld : after.held .globalLockObj = s.held .globalLockObj := congrArg (·.2) hkept
  rw [hgiven, without, Function.update_self, hs] at hheld
  cases held with
  | zero => simp at hheld
  | succ held => simp [Nat.ppred] at hheld

theorem held_of_heldIf (hheld : s.held = heldIf lockRequired free) :
    ∃ held, s.held .globalLockObj = some held := by
  rw [hheld]
  cases lockRequired with
  | false => exact ⟨0, rfl⟩
  | true => exact ⟨1, rfl⟩

/-- A message that was not read gives the lock back exactly after a loss of
synchronization and for an unmatched receive response. -/
theorem ends_slDrvMsgRead_view (env : MsgEnv) (hheld : s.held = heldIf lockRequired free) :
    Ends (slDrvMsgRead cfg env) s (fun _ after => apiView after = apiView s)
      fun ret after => FateReturns s.held ret after
          (msgFate cfg env s.cb.pCmdCtrl s.cb.pCmdExt) ∧
        apiView after = settled
          (fateGivesBack false (msgFate cfg env s.cb.pCmdCtrl s.cb.pCmdExt)) (apiView s) := by
  obtain ⟨held, hs⟩ := held_of_heldIf hheld
  apply ((mayGiveBack_slDrvMsgRead cfg env s).and (ends_slDrvMsgRead cfg env)).mono
  · exact fun _ _ hafter => hafter.1
  · intro ret after hafter
    obtain ⟨hmay, hreturns⟩ := hafter
    refine ⟨hreturns, ?_⟩
    cases hfate : msgFate cfg env s.cb.pCmdCtrl s.cb.pCmdExt <;> rw [hfate] at hreturns
    case done => exact hreturns.elim
    case syncLoss => exact view_of_given hs hmay hreturns.2
    case unmatched => exact view_of_given hs hmay hreturns.2
    case noMemory => exact view_of_kept hs hmay (congrFun hreturns.2 _)
    case short => exact view_of_kept hs hmay (congrFun hreturns.2 _)
    case shortProtected => exact view_of_kept hs hmay (congrFun hreturns.2 _)
    case endless => exact view_of_kept hs hmay (congrFun hreturns.2 _)

theorem completes_unlockIfRequired_view :
    Completes (unlockIfRequired lockRequired) s fun _ after =>
      apiView after = settled lockRequired (apiView s) := by
  rw [unlockIfRequired, Completes, ends_runIf]
  cases lockRequired with
  | false => rfl
  | true => exact completes_slDrvGlobalObjUnLock_true s

theorem ends_abandonCmd_view (ret : RetCode) :
    Ends (abandonCmd lockRequired ret) s (fun _ _ => False) fun last after =>
      last = .apiAborted ∧
        apiView after = settled (lockRequired && ret ≠ .apiAborted) (apiView s) := by
  rw [abandonCmd, ends_bind, ends_modifyCB]
  apply completes_unlockIfRequired_view.bind
  exact fun _ _ hafter => ⟨rfl, hafter⟩

theorem silent_handleCmdMsg (env : SpawnInsert) (out : MsgReadOut) (rxMsgClass : RxMsgClass) :
    Silent (handleCmdMsg env out rxMsgClass) := by
  have hinsert : ∀ asyncBuf, Silent (slSpawnMsgListInsert env asyncBuf) := by
    grind [slSpawnMsgListInsert]
  have hrelease : Silent (slFindAndReleasePendingCmd env.pendingRespArgs) := by
    grind [slFindAndReleasePendingCmd]
  have hstore : Silent (storeAsyncEvt env out) := by
    grind [storeAsyncEvt]
  cases rxMsgClass <;> grind [handleCmdMsg]

theorem Silent.completes {α : Type} {program : DrvM α} {falls : α → DrvState → Prop}
    (hsilent : Silent program) (hcompletes : Completes program s falls) :
    Completes program s fun _ after => apiView after = apiView s := by
  apply ((hsilent s).and hcompletes).mono
  · exact fun _ _ hafter => hafter.1
  · exact fun _ _ hafter => hafter.2

/-- The caller of `_SlDrvMsgRead` gives the lock back only after an error other than
`SL_API_ABORTED`. -/
theorem settled_abandon {held : LockObj → Option ℕ} {ret : RetCode} {after : DrvState}
    {fate : Fate} (hret : ret ≠ .noReturn) (hreturns : FateReturns held ret after fate)
    (view : List ℤ × Option ℕ) :
    settled (lockRequired && ret ≠ .apiAborted) (settled (fateGivesBack false fate) view) =
      settled (fateGivesBack lockRequired fate) view := by
  cases fate with
  | done => exact hreturns.elim
  | noMemory => cases lockRequired <;> simp [hreturns.1, fateGivesBack, settled]
  | endless => exact absurd hreturns.1 hret
  | syncLoss | unmatched | short | shortProtected =>
      simp [hreturns.1, fateGivesBack, settled]

theorem fate_of_noReturn {held : LockObj → Option ℕ} {after : DrvState} {fate : Fate}
    (hreturns : FateReturns held .noReturn after fate) : fate = .endless := by
  cases fate with
  | endless => rfl
  | done => exact hreturns.elim
  | syncLoss | unmatched | noMemory | short | shortProtected => cases hreturns.1

/-- One message in command context. -/
theorem ends_readCmdMsg_view (round : CmdRound) (hheld : s.held = heldIf lockRequired free) :
    Ends (readCmdMsg cfg lockRequired round) s (fun _ after => apiView after = apiView s)
      fun ret after => apiView after = if ret = .noReturn then apiView s
        else settled (fateGivesBack lockRequired
          (msgFate cfg round.message s.cb.pCmdCtrl s.cb.pCmdExt)) (apiView s) := by
  rw [readCmdMsg, ends_bind, ends_attempt]
  apply (ends_slDrvMsgRead_view cfg round.message hheld).mono
  · intro out read hread
    rw [ends_bind, ends_modifyCB, ends_bind, ends_get]
    apply Completes.ends
    apply ((silent_handleCmdMsg round.spawnInsert out _).completes
      (completes_handleCmdMsg round.spawnInsert out _)).mono
    exact fun _ _ hafter => hafter.trans hread
  · intro ret lost hlost
    obtain ⟨hreturns, hview⟩ := hlost
    by_cases hret : ret = .noReturn
    · subst hret
      rw [if_pos rfl, if_pos (by decide : stopsCaller .noReturn = true), hview,
        fate_of_noReturn hreturns]
      rfl
    · rw [if_neg (by simpa [stopsCaller] using hret)]
      apply (ends_abandonCmd_view ret).mono
      · exact fun _ _ hfalse => hfalse.elim
      · intro last after hafter
        rw [hafter.1, if_neg (by simp), hafter.2, hview, settled_abandon hret hreturns]

theorem ends_waitForCmdMsg_view (cmdOpcode : BitVec 16) (round : CmdRound) :
    Ends (waitForCmdMsg cfg cmdOpcode lockRequired round) s
      (fun _ after => apiView after = apiView s)
      fun ret after => ret ≠ .noReturn ∧ apiView after = settled lockRequired (apiView s) := by
  rw [waitForCmdMsg, ends_runIf]
  split
  · rw [ends_bind, ends_modifyCB]
    apply completes_unlockIfRequired_view.bind
    intro _ unlocked hunlocked
    rw [ends_bind, ends_runIf]
    split
    · exact ⟨by simp, (apiView_after rfl).trans hunlocked⟩
    · exact ⟨by simp, hunlocked⟩
  · rfl

/-- The loop keeps the lock until the response has come; where it returns, the fate of
the message that stopped it decides. -/
theorem ends_readUntilCmdResp_view (cmdOpcode : BitVec 16) (rounds : List CmdRound)
    (hheld : s.held = heldIf lockRequired free) (hwait : s.cb.waitForCmdResp = true) :
    Ends (readUntilCmdResp cfg cmdOpcode lockRequired rounds) s
      (fun _ after => stoppingFate cfg s.cb.pCmdCtrl s.cb.pCmdExt s.cb.rxDoneCnt rounds = none ∧
        apiView after = apiView s)
      fun ret after => apiView after = if ret = .noReturn then apiView s
        else settled (stopGivesBack lockRequired
          (stoppingFate cfg s.cb.pCmdCtrl s.cb.pCmdExt s.cb.rxDoneCnt rounds)) (apiView s) := by
  induction rounds generalizing s with
  | nil =>
      rw [readUntilCmdResp, ends_bind, ends_get, ends_returnIf, if_pos hwait]
      rfl
  | cons round rounds ih =>
      rw [readUntilCmdResp, ends_bind, ends_get, if_pos hwait, ends_ite, stoppingFate]
      split
      · rw [ends_bind]
        apply ((ends_readCmdMsg cfg round hheld).and (ends_readCmdMsg_view cfg round hheld)).mono
        · intro _ middle hmiddle
          obtain ⟨⟨hfate, hmiddleHeld, hclass⟩, hview⟩ := hmiddle
          rw [if_neg (not_not.mpr hfate)]
          split at hclass
          · rename_i hresp
            rw [if_pos hresp]
            apply (ends_readUntilCmdResp_responded cfg cmdOpcode rounds hclass).mono
            · intro _ after hafter
              exact ⟨rfl, hafter ▸ hview⟩
            · exact fun _ _ hfalse => hfalse.elim
          · rename_i hother
            obtain ⟨hcmdCtrl, hcmdExt, hmiddleWait, hcnt⟩ := hclass
            have hrest := ih (hmiddleHeld.trans hheld) (hmiddleWait.trans hwait)
            rw [hcmdCtrl, hcmdExt, hcnt, hview] at hrest
            rwa [if_neg hother]
        · intro ret after hafter
          rw [if_pos hafter.1.1]
          exact hafter.2
      · rw [ends_bind]
        apply ((ends_waitForCmdMsg cfg cmdOpcode round hheld).and
          (ends_waitForCmdMsg_view cfg cmdOpcode round)).mono
        · intro _ middle hmiddle
          obtain ⟨⟨hstatus, hmiddle⟩, _⟩ := hmiddle
          subst hmiddle
          rw [if_neg (not_not.mpr hstatus)]
          exact ih hheld hwait
        · intro ret after hafter
          rw [if_pos hafter.1.1, if_neg hafter.2.1]
          exact hafter.2.2

/-- A command that was sent. -/
theorem settles_slDrvMsgReadCmdCtx (cmdOpcode : BitVec 16) (env : CmdEnv)
    (hheld : s.held = heldIf lockRequired free) (hwait : s.cb.waitForCmdResp = true) :
    Settles (slDrvMsgReadCmdCtx cfg cmdOpcode lockRequired env) s
      (stopGivesBack lockRequired
        (stoppingFate cfg s.cb.pCmdCtrl s.cb.pCmdExt s.cb.rxDoneCnt env.rounds)) := by
  have hcount : Silent slSpawnMsgListGetCount := by grind [slSpawnMsgListGetCount]
  have hspawn : ∀ (cond : Prop) [Decidable cond] fromCmd,
      Silent (runIf cond (emit (.spawnFromCmd fromCmd))) := by grind
  apply (ends_readUntilCmdResp_view cfg cmdOpcode env.rounds hheld hwait).bind
  intro _ responded hresponded
  obtain ⟨hfate, hview⟩ := hresponded
  apply (hcount.completes completes_slSpawnMsgListGetCount).bind
  intro count counted hcounted
  apply ((hspawn _ true).completes (completes_runIf_emit rfl)).bind
  intro _ spawned hspawned
  apply completes_unlockIfRequired_view.bind
  intro _ unlocked hunlocked
  rw [ends_bind, ends_get]
  apply Completes.ends
  apply ((hspawn _ false).completes (completes_runIf_emit rfl)).mono
  intro _ after hafter
  rw [hafter, hunlocked, hspawned, hcounted, hview, hfate, stopGivesBack]

/-- Whether a command gives the lock back, from where its lock was taken. -/
def sentGivesBack (cmdCtrl : CmdCtrl) (pTxRxDescBuff : Option (ℕ → Byte)) (ext : Option CmdExt)
    (lockRequired : Bool) (env : CmdEnv) (writesLeft : ℕ) (rxDoneCnt : Byte) : Bool :=
  if writesLeft < transfers cmdCtrl ext pTxRxDescBuff then lockRequired
  else stopGivesBack lockRequired
    (stoppingFate cfg cmdCtrl (ext.map signChanged) rxDoneCnt env.rounds)

theorem stoppingFate_congr {pCmdExt pCmdExt' : Option CmdExt} (cmdCtrl : CmdCtrl)
    (rxDoneCnt : Byte) (rounds : List CmdRound)
    (hlen : pCmdExt.map (·.rxPayloadLen) = pCmdExt'.map (·.rxPayloadLen)) :
    stoppingFate cfg cmdCtrl pCmdExt rxDoneCnt rounds =
      stoppingFate cfg cmdCtrl pCmdExt' rxDoneCnt rounds := by
  induction rounds generalizing rxDoneCnt with
  | nil => rfl
  | cons round rounds ih =>
      simp only [stoppingFate, msgFate_congr cfg round.message cmdCtrl hlen, ih]

theorem settles_sendCmd (cmdCtrl : CmdCtrl) (pTxRxDescBuff : Option (ℕ → Byte))
    (ext : Option CmdExt) (env : CmdEnv) (hheld : s.held = heldIf lockRequired free) :
    Settles (sendCmd cfg cmdCtrl pTxRxDescBuff ext lockRequired env) s
      (sentGivesBack cfg cmdCtrl pTxRxDescBuff ext lockRequired env s.writesLeft
        s.cb.rxDoneCnt) := by
  rw [Settles, sendCmd, ends_bind, ends_modifyCB, ends_bind, ends_attempt]
  apply ((silent_slDrvMsgWrite cfg.toProtocolConfig cmdCtrl ext pTxRxDescBuff _).and
    (ends_slDrvMsgWrite cfg.toProtocolConfig cmdCtrl ext pTxRxDescBuff)).mono
  · intro _ sent hsent
    obtain ⟨hapiView, hwrites, hview⟩ := hsent
    rw [DrvState.changeCB_writesLeft] at hwrites
    have hsentHeld : sent.held = heldIf lockRequired free := (congrArg (·.1) hview).trans hheld
    have hwait : sent.cb.waitForCmdResp = true := congrArg (·.2.2.1.waitForCmdResp) hview
    have hcmdCtrl : sent.cb.pCmdCtrl = cmdCtrl := congrArg (·.2.2.1.pCmdCtrl) hview
    have hcnt : sent.cb.rxDoneCnt = s.cb.rxDoneCnt := congrArg (·.2.2.1.rxDoneCnt) hview
    have hread := settles_slDrvMsgReadCmdCtx cfg cmdCtrl.opcode env hsentHeld hwait
    rw [Settles, hapiView, hcmdCtrl, hcnt,
      stoppingFate_congr cfg _ _ _ (congrArg (·.2.2.2) hview)] at hread
    rw [sentGivesBack, if_neg (by omega)]
    exact hread
  · intro ret lost hlost
    obtain ⟨hapiView, hret, hwrites, hlostHeld⟩ := hlost
    subst hret
    rw [DrvState.changeCB_writesLeft] at hwrites
    rw [if_neg (by decide), sentGivesBack, if_pos hwrites]
    apply completes_unlockIfRequired_view.bind
    intro _ after hafter
    rw [hapiView] at hafter
    exact hafter

end Commands

section Wrapper

/-- A start, a stop or a provisioning is in progress, and the wrapper looks no further. -/
def startsOrStops (status : DevFlags) : Bool :=
  status.deviceStartInProgress || status.deviceStopInProgress || status.provisioningInProgress

/-- The wrapper takes the lock and counts the call. -/
def countsCall (flags : GlobalLockFlags) (env : GlobalLockEnv) : Bool :=
  env.granted flags && !startsOrStops env.after && flags.updateApiInProgress
    && (!env.after.provisioningActive || env.after.provisioningApiAllowed)

/-- The wrapper gives the lock back because of a provisioning, and lowers the count that it
never raised. -/
def refusesCounted (flags : GlobalLockFlags) (env : GlobalLockEnv) : Bool :=
  !env.before.restartRequired && env.lockStatus == 0 && !startsOrStops env.after
    && (flags.opcodeIsDeviceStop || slDrvDriverIsApiAllowed env.after flags.siloIsFS = .ok)
    && !env.after.countable flags

variable {s : DrvState}

theorem changes_of_view {after : DrvState} {view : List ℤ × Option ℕ}
    (hview : apiView after = view) : apiChanges after.acts = view.1 :=
  congrArg (·.1) hview

theorem completes_countGlobalLockCall_changes (flags : GlobalLockFlags) (status : DevFlags)
    (s : DrvState) :
    Completes (countGlobalLockCall flags status) s fun _ after =>
      apiChanges after.acts = apiChanges s.acts ++
        if !status.countable flags then [-1]
        else if flags.updateApiInProgress
            && (!status.provisioningActive || status.provisioningApiAllowed) then [1]
        else [] := by
  rw [Completes, countGlobalLockCall]
  cases hupdate : flags.updateApiInProgress with
  | false => simp [DevFlags.countable, hupdate]
  | true =>
      cases hcount : !status.provisioningActive || status.provisioningApiAllowed with
      | true =>
          have hcountable : status.countable flags = true := by
            rw [DevFlags.countable, Bool.or_assoc (!flags.updateApiInProgress), hcount]
            simp
          rw [if_pos rfl, if_pos rfl, hcountable]
          apply (completes_slDrvUpdateApiInProgress_view 1 s).bind
          exact fun _ _ hafter => changes_of_view hafter
      | false =>
          have hcountable : status.countable flags = flags.provisioningStopApi := by
            rw [DevFlags.countable, Bool.or_assoc (!flags.updateApiInProgress), hcount, hupdate]
            simp
          rw [if_pos rfl, if_neg Bool.false_ne_true, hcountable]
          cases hstop : flags.provisioningStopApi with
          | true => simp
          | false =>
              apply (completes_slDrvGlobalObjUnLock_true s).bind
              exact fun _ _ hafter => changes_of_view hafter

/-- What the wrapper adds to the count, with the lock taken or not. -/
theorem completes_slDrvObjGlobalLockWaitForever_changes (flags : GlobalLockFlags)
    (env : GlobalLockEnv) (s : DrvState) :
    Completes (slDrvObjGlobalLockWaitForever flags env) s fun _ after =>
      apiChanges after.acts = apiChanges s.acts ++
        if refusesCounted flags env then [-1] else if countsCall flags env then [1] else [] := by
  have hlocked : apiChanges (s.after (.lock .globalLockObj)).acts = apiChanges s.acts := by
    rw [apiChanges_after]
    simp [apiChange]
  have hunlocked : apiChanges ((s.after (.lock .globalLockObj)).after
      (.unlock .globalLockObj)).acts = apiChanges s.acts := by
    rw [apiChanges_after, hlocked]
    simp [apiChange]
  rw [Completes, slDrvObjGlobalLockWaitForever]
  by_cases hrestart : env.before.restartRequired
  · simp [hrestart, refusesCounted, countsCall, GlobalLockEnv.granted]
  by_cases hlock : env.lockStatus = 0
  · by_cases hprogress : startsOrStops env.after
    · have hreturn := hprogress
      rw [startsOrStops] at hreturn
      simpa [hrestart, hlock, hprogress, hreturn, refusesCounted, countsCall] using hlocked
    · have hgoes := hprogress
      rw [startsOrStops] at hgoes
      by_cases hallowed : flags.opcodeIsDeviceStop
          ∨ slDrvDriverIsApiAllowed env.after flags.siloIsFS = .ok
      · have hcount := completes_countGlobalLockCall_changes flags env.after
          (s.after (.lock .globalLockObj))
        have hrefuses : refusesCounted flags env = !env.after.countable flags := by
          simp [refusesCounted, hrestart, hlock, hprogress, hallowed]
        have hcounts : env.after.countable flags = true → countsCall flags env =
            (flags.updateApiInProgress
              && (!env.after.provisioningActive || env.after.provisioningApiAllowed)) := by
          intro hcountable
          have hadmits : env.after.admits flags = true := by
            simp [DevFlags.admits, hallowed, hcountable]
          simp [countsCall, GlobalLockEnv.granted, hadmits, hrestart, hlock, hprogress]
        have hrun : Completes (countGlobalLockCall flags env.after)
            (s.after (.lock .globalLockObj)) fun _ after =>
              apiChanges after.acts = apiChanges s.acts ++
                if refusesCounted flags env then [-1]
                else if countsCall flags env then [1] else [] := by
          apply hcount.mono
          intro _ after hafter
          rw [hafter, hlocked, hrefuses]
          cases hcountable : env.after.countable flags with
          | false => rfl
          | true => rw [hcounts hcountable]
        rw [Completes] at hrun
        rcases hallowed with hstop | hstatus
        · simpa [hrestart, hlock, hgoes, hstop] using hrun
        · simpa [hrestart, hlock, hgoes, hstatus] using hrun
      · rw [not_or] at hallowed
        have hrefuses : refusesCounted flags env = false := by
          simp [refusesCounted, hallowed]
        have hcounts : countsCall flags env = false := by
          simp [countsCall, GlobalLockEnv.granted, DevFlags.admits, hgoes, hallowed]
        simpa [hrestart, hlock, hgoes, hallowed, hrefuses, hcounts] using hunlocked
  · simp [hrestart, hlock, refusesCounted, countsCall, GlobalLockEnv.granted]


theorem refusesCounted_of_granted {flags : GlobalLockFlags} {env : GlobalLockEnv}
    (hgranted : env.granted flags) : refusesCounted flags env = false := by
  rw [GlobalLockEnv.granted] at hgranted
  rw [refusesCounted, startsOrStops]
  cases hprogress : (env.after.deviceStartInProgress || env.after.deviceStopInProgress
    || env.after.provisioningInProgress) with
  | true => simp
  | false => simp_all [DevFlags.admits]

theorem countsCall_of_not_granted {flags : GlobalLockFlags} {env : GlobalLockEnv}
    (hgranted : ¬env.granted flags) : countsCall flags env = false := by
  simp [countsCall, hgranted]

/-- The increment of a call that the wrapper counts. -/
def raised (counts : Bool) : List ℤ := if counts then [1] else []

/-- The decrement of a call that gives its lock back with `TRUE`. -/
def lowered (lowers : Bool) : List ℤ := if lowers then [-1] else []

theorem ends_lockGlobalLockForever_changes (flags : GlobalLockFlags) (env : GlobalLockEnv)
    (s : DrvState) :
    Ends (lockGlobalLockForever flags env) s
      (fun _ after => apiChanges after.acts = apiChanges s.acts ++ raised (countsCall flags env))
      fun _ after => apiChanges after.acts =
        apiChanges s.acts ++ lowered (refusesCounted flags env) := by
  rw [lockGlobalLockForever, ends_bind]
  apply Completes.ends
  apply (Ends.and (completes_slDrvObjGlobalLockWaitForever flags env s)
    (completes_slDrvObjGlobalLockWaitForever_changes flags env s)).mono
  · intro ret after hafter
    obtain ⟨⟨hgranted, _⟩, hchanges⟩ := hafter
    by_cases hret : ret = .ok
    · rw [refusesCounted_of_granted (hgranted.mp hret)] at hchanges
      simpa [hret, raised] using hchanges
    · rw [countsCall_of_not_granted (mt hgranted.mpr hret)] at hchanges
      simpa [hret, lowered] using hchanges
  · exact fun _ _ hfalse => hfalse.1

end Wrapper

/-- How a call uses the count: whether it raises it, and whether it lowers it. -/
structure ApiUse where
  counts : Bool
  lowers : Bool

def ApiUse.changes (use : ApiUse) : List ℤ := raised use.counts ++ lowered use.lowers

/-- The changes of a whole call; one that does not return has only counted itself. -/
def Uses {α : Type} (program : DrvM α) (s : DrvState) (use : ApiUse) : Prop :=
  Ends program s (fun _ after => apiChanges after.acts = apiChanges s.acts ++ use.changes)
    fun ret after => apiChanges after.acts =
      apiChanges s.acts ++ if ret = .noReturn then raised use.counts else use.changes

theorem changes_settled {before : List ℤ} {counts gives : Bool} {view : List ℤ × Option ℕ}
    (hview : view.1 = before ++ raised counts) :
    (settled gives view).1 = before ++ ({ counts, lowers := gives } : ApiUse).changes := by
  cases gives with
  | false => simpa [settled, ApiUse.changes, lowered] using hview
  | true => simp [settled, givenBack, hview, ApiUse.changes, lowered]

section Calls

variable (cfg : RxConfig) {s : DrvState}

/-- How a command uses the count. -/
def cmdOpUse (cmdCtrl : CmdCtrl) (pTxRxDescBuff : Option (ℕ → Byte)) (ext : Option CmdExt)
    (env : CmdEnv) (writesLeft : ℕ) (rxDoneCnt : Byte) : ApiUse :=
  let lockRequired := isLockRequired cfg cmdCtrl env
  let flags := cmdLockFlags cfg cmdCtrl pTxRxDescBuff
  if lockRequired && !env.globalLock.granted flags then
    { counts := false, lowers := refusesCounted flags env.globalLock }
  else
    { counts := lockRequired && countsCall flags env.globalLock
      lowers :=
        if env.restartRequired then lockRequired
        else sentGivesBack cfg cmdCtrl pTxRxDescBuff ext lockRequired env writesLeft rxDoneCnt }

theorem Settles.uses {program : DrvM Unit} {before : DrvState} {counts gives : Bool}
    (hprogram : Settles program s gives)
    (hs : apiChanges s.acts = apiChanges before.acts ++ raised counts) :
    Ends program s
      (fun _ after => apiChanges after.acts = apiChanges before.acts ++
        ({ counts, lowers := gives } : ApiUse).changes)
      fun ret after => apiChanges after.acts = apiChanges before.acts ++
        if ret = .noReturn then raised counts
        else ({ counts, lowers := gives } : ApiUse).changes := by
  apply Ends.mono hprogram
  · intro _ after hafter
    exact (changes_of_view hafter).trans (changes_settled hs)
  · intro ret after hafter
    rw [changes_of_view hafter]
    split
    · exact hs
    · exact changes_settled hs

theorem uses_slDrvCmdOp (cmdCtrl : CmdCtrl) (pTxRxDescBuff : Option (ℕ → Byte))
    (ext : Option CmdExt) (env : CmdEnv) (hheld : s.held = free) :
    Uses (slDrvCmdOp cfg cmdCtrl pTxRxDescBuff ext env) s
      (cmdOpUse cfg cmdCtrl pTxRxDescBuff ext env s.writesLeft s.cb.rxDoneCnt) := by
  have hlock : Ends (runIf (isLockRequired cfg cmdCtrl env = true)
      (lockGlobalLockForever (cmdLockFlags cfg cmdCtrl pTxRxDescBuff) env.globalLock)) s
      (fun _ after => apiChanges after.acts = apiChanges s.acts ++
        raised (isLockRequired cfg cmdCtrl env
          && countsCall (cmdLockFlags cfg cmdCtrl pTxRxDescBuff) env.globalLock))
      fun _ after => apiChanges after.acts = apiChanges s.acts ++
        lowered (refusesCounted (cmdLockFlags cfg cmdCtrl pTxRxDescBuff) env.globalLock) := by
    rw [ends_runIf]
    cases isLockRequired cfg cmdCtrl env with
    | false => simp [raised]
    | true => exact ends_lockGlobalLockForever_changes _ _ s
  rw [Uses, slDrvCmdOp, ends_bind]
  apply ((ends_lockIfRequired (cmdLockFlags cfg cmdCtrl pTxRxDescBuff) env.globalLock hheld).and
    hlock).mono
  · intro _ locked hlocked
    obtain ⟨⟨hgranted, hlockedHeld, hwrites, hcb⟩, hchanges⟩ := hlocked
    rw [cmdOpUse, hgranted, if_neg (by simp), ends_bind, ends_runIf]
    split
    · apply completes_unlockIfRequired_view.bind
      intro _ after hafter
      exact (changes_of_view hafter).trans (changes_settled hchanges)
    · have hsend := settles_sendCmd cfg cmdCtrl pTxRxDescBuff ext env hlockedHeld
      rw [hwrites, hcb] at hsend
      exact hsend.uses hchanges
  · intro ret after hafter
    obtain ⟨⟨hrefused, hreturns⟩, hchanges⟩ := hafter
    rw [cmdOpUse, hrefused, if_pos rfl, if_neg hreturns.1]
    exact hchanges

/-- How a call of the spawn context uses the count: it never raises it. -/
def spawnUse (env : SpawnEnv) (cb : DriverCB) : ApiUse where
  counts := false
  lowers := env.globalLock.granted (noLockFlags cfg) && env.rxIrqCnt ≠ cb.rxDoneCnt
    && (env.deviceStarted || env.deviceStartInProgress)
    && fateGivesBack false (msgFate cfg env.message cb.pCmdCtrl cb.pCmdExt)

/-- `GLOBAL_LOCK_FLAGS_NONE` asks for no count. -/
theorem changes_noLockFlags (env : GlobalLockEnv) :
    countsCall (noLockFlags cfg) env = false ∧ refusesCounted (noLockFlags cfg) env = false := by
  constructor
  · simp [countsCall, noLockFlags]
  · simp [refusesCounted, DevFlags.countable, noLockFlags]

theorem silent_handleSpawnMsg (flags : DevFlags) (out : MsgReadOut) (rxMsgClass : RxMsgClass) :
    Silent (handleSpawnMsg cfg flags out rxMsgClass) := by
  have hhandler : Silent (slDrvAsyncEventGenericHandler cfg flags out.asyncBuf) := by
    intro s
    rw [slDrvAsyncEventGenericHandler, ends_bind, ends_get]
    split
    · rfl
    · apply silent_runIf
      exact silent_emit rfl
  cases rxMsgClass <;> grind [handleSpawnMsg]

/-- A message in the spawn context lowers the count exactly where `_SlDrvMsgRead` gave the
lock back. -/
theorem ends_readSpawnMsg_changes (env : SpawnEnv) (hheld : s.held = heldIf true free) :
    Ends (readSpawnMsg cfg env) s
      (fun _ after => msgFate cfg env.message s.cb.pCmdCtrl s.cb.pCmdExt = .done ∧
        apiChanges after.acts = apiChanges s.acts)
      fun ret after => apiChanges after.acts = apiChanges s.acts ++ if ret = .noReturn then []
        else lowered
          (fateGivesBack false (msgFate cfg env.message s.cb.pCmdCtrl s.cb.pCmdExt)) := by
  rw [readSpawnMsg, ends_bind, ends_attempt]
  apply ((ends_slDrvMsgRead_view cfg env.message hheld).and
    (ends_slDrvMsgRead cfg env.message)).mono
  · intro out read hread
    obtain ⟨hview, hfate, hdone⟩ := hread
    rw [ends_bind, ends_modifyCB, ends_bind, ends_get, DrvState.changeCB_cb, hdone.rxMsgClass]
    apply ((silent_handleSpawnMsg cfg env.handlerFlags out _).completes
      (completes_handleSpawnMsg cfg env.handlerFlags out _ (multiSelect_of_msgClass cfg))).bind
    intro _ handled hhandled
    apply ((completes_slDrvGlobalObjUnLock_false handled).mono _).ends
    intro _ after hafter
    exact ⟨hfate, hafter.trans (changes_of_view (hhandled.trans hview))⟩
  · intro ret lost hlost
    obtain ⟨⟨hreturns, hview⟩, _⟩ := hlost
    have hchanges : apiChanges lost.acts = apiChanges s.acts ++ lowered
        (fateGivesBack false (msgFate cfg env.message s.cb.pCmdCtrl s.cb.pCmdExt)) := by
      rw [changes_of_view hview]
      cases fateGivesBack false (msgFate cfg env.message s.cb.pCmdCtrl s.cb.pCmdExt) with
      | false => simp [settled, lowered, apiView]
      | true => simp [settled, lowered, givenBack, apiView]
    by_cases hret : ret = .noReturn
    · subst hret
      rw [fate_of_noReturn hreturns] at hchanges
      rw [if_pos rfl, if_pos (by decide : stopsCaller .noReturn = true)]
      exact hchanges
    · rw [if_neg (by simpa [stopsCaller] using hret)]
      change Ends (abandonSpawnMsg ret) lost _ _
      rw [abandonSpawnMsg, ends_bind, ends_runIf]
      split
      · apply ((completes_slDrvGlobalObjUnLock_false lost).mono _).ends
        exact fun _ _ hafter => hafter.trans hchanges
      · exact hchanges

theorem uses_slDrvMsgReadSpawnCtx (env : SpawnEnv) (hheld : s.held = free) :
    Uses (slDrvMsgReadSpawnCtx cfg env) s (spawnUse cfg env s.cb) := by
  have hlock := ends_lockGlobalLockForever_changes (noLockFlags cfg) env.globalLock s
  rw [(changes_noLockFlags cfg env.globalLock).1, (changes_noLockFlags cfg env.globalLock).2]
    at hlock
  have hidle : ∀ after : DrvState, apiChanges after.acts = apiChanges s.acts ++ [] →
      (spawnUse cfg env s.cb).lowers = false →
      apiChanges after.acts = apiChanges s.acts ++ (spawnUse cfg env s.cb).changes := by
    intro after hafter hlowers
    rw [ApiUse.changes, hlowers]
    exact hafter
  rw [Uses, slDrvMsgReadSpawnCtx, ends_bind]
  apply ((ends_lockGlobalLockForever (noLockFlags cfg) env.globalLock s).and hlock).mono
  · intro _ locked hlocked
    obtain ⟨⟨hgranted, hreaches⟩, hchanges⟩ := hlocked
    have hlockedHeld : locked.held = heldIf true free := by
      rw [hreaches.held, hheld]
      rfl
    rw [ends_bind, ends_get, hreaches.cb, ends_ite]
    split
    · rename_i hpending
      apply ((completes_slDrvGlobalObjUnLock_false locked).mono _).ends
      intro _ after hafter
      exact hidle after (hafter.trans hchanges) (by simp [spawnUse, hpending])
    · rename_i hpending
      rw [ends_ite]
      split
      · rename_i hstarted
        have hread := ends_readSpawnMsg_changes cfg env hlockedHeld
        have hlowers : (spawnUse cfg env s.cb).lowers = fateGivesBack false
            (msgFate cfg env.message s.cb.pCmdCtrl s.cb.pCmdExt) := by
          simp [spawnUse, hgranted, hpending, hstarted]
        rw [hreaches.cb, ← hlowers] at hread
        apply hread.mono
        · intro _ after hafter
          obtain ⟨hfate, hafter⟩ := hafter
          rw [hfate] at hlowers
          exact hidle after (hafter.trans hchanges) hlowers
        · intro ret after hafter
          have hraised : raised (spawnUse cfg env s.cb).counts = [] := rfl
          rw [hafter, hchanges, hraised, ApiUse.changes, hraised]
          simp [raised]
      · rename_i hstarted
        have hlowers : (spawnUse cfg env s.cb).lowers = false := by
          simp only [Bool.not_eq_true] at hstarted
          simp [spawnUse, hstarted]
        rw [ends_throw, if_neg (by simp)]
        exact hidle locked hchanges hlowers
  · intro ret after hafter
    obtain ⟨⟨hgranted, hret, _⟩, hchanges⟩ := hafter
    rw [if_neg hret]
    exact hidle after hchanges (by simp [spawnUse, hgranted])

end Calls

section DataWrite

open DataOp DataOpLocks

variable (cfg : DataConfig) {s : DrvState}

theorem silent_spawnWaitForSignal (rounds : ℕ) : Silent (spawnWaitForSignal rounds) := by
  induction rounds with
  | zero => grind [spawnWaitForSignal]
  | succ rounds ih => grind [spawnWaitForSignal]

theorem silent_writeFlowControlWait (sd : Byte) (round : WriteRound) :
    Silent (writeFlowControlWait cfg sd round) := by
  have hwait : Silent (txFlowControlWait round.flowWait) := by
    rw [txFlowControlWait]
    split
    · exact silent_spawnWaitForSignal _
    · apply silent_bind
      · apply silent_runIf
        grind
      · exact fun _ => silent_returnIf _ _
  rw [writeFlowControlWait]
  apply silent_bind
  · apply silent_runIf
    grind
  · exact fun _ => hwait

theorem silent_writeFlowControl (sd : Byte) (ext : CmdExt) (rounds : List WriteRound) :
    Silent (writeFlowControl cfg sd ext rounds) := by
  induction rounds with
  | nil => exact silent_throw _
  | cons round rounds ih =>
      have hwait := silent_writeFlowControlWait cfg sd round
      rw [writeFlowControl]
      apply silent_bind (silent_emit rfl)
      intro _
      apply silent_bind (silent_emit rfl)
      intro _
      apply silent_bind
      · apply silent_runIf
        grind
      · intro _
        apply silent_bind (silent_runIf hwait)
        intro _
        apply silent_ite (silent_pure _)
        grind

/-- How a write uses the count: not at all if its flow control returns. -/
def dataWriteUse (sd : Byte) (ext : CmdExt) (rounds : List WriteRound) (env : TakePackets) :
    ApiUse :=
  if writeOutcome cfg sd ext rounds = .proceeds then
    if env.globalLock.granted dataLockFlags then
      { counts := countsCall dataLockFlags env.globalLock, lowers := true }
    else { counts := false, lowers := refusesCounted dataLockFlags env.globalLock }
  else { counts := false, lowers := false }

/-- Past the lock, either the restart flag or the message gives it back. -/
theorem ends_takeTxPackets_changes (least amount : ℕ) (env : TakePackets) (s : DrvState) :
    Ends (takeTxPackets least amount env) s
      (fun _ after => env.globalLock.granted dataLockFlags ∧ apiChanges after.acts =
        apiChanges s.acts ++ raised (countsCall dataLockFlags env.globalLock))
      fun ret after => ret ≠ .noReturn ∧ apiChanges after.acts = apiChanges s.acts ++
        if env.globalLock.granted dataLockFlags then
          raised (countsCall dataLockFlags env.globalLock) ++ [-1]
        else lowered (refusesCounted dataLockFlags env.globalLock) := by
  rw [takeTxPackets, ends_bind]
  apply ((ends_lockGlobalLockForever dataLockFlags env.globalLock s).and
    (ends_lockGlobalLockForever_changes dataLockFlags env.globalLock s)).mono
  · intro _ locked hlocked
    obtain ⟨⟨hgranted, _⟩, hchanges⟩ := hlocked
    rw [ends_bind, ends_runIf]
    split
    · apply (completes_slDrvGlobalObjUnLock_true locked).bind
      intro _ after hafter
      refine ⟨by simp, ?_⟩
      rw [changes_of_view hafter, givenBack]
      exact (congrArg (· ++ [-1]) hchanges).trans (List.append_assoc ..)
    · apply ((silent_verifyProtocol _).completes (completes_verifyProtocol _ locked)).bind
      intro _ verified hverified
      have hview : apiView ((verified.after (.setTxPoolCnt
          (env.txPoolCnt - BitVec.ofNat 8 amount))).after (.unlock .txLockObj)) = apiView locked :=
        calc apiView _ = apiView (verified.after _) := apiView_after rfl
          _ = apiView verified := apiView_after rfl
          _ = apiView locked := hverified
      exact ⟨hgranted, (changes_of_view hview).trans hchanges⟩
  · intro ret after hafter
    obtain ⟨⟨hrefused, hret, _⟩, hchanges⟩ := hafter
    rw [if_neg hrefused]
    exact ⟨hret, hchanges⟩

theorem completes_sendData_changes (cmdCtrl : CmdCtrl) (ext : CmdExt)
    (pTxRxDescBuff : Option (ℕ → Byte)) (s : DrvState) :
    Completes (sendData cfg cmdCtrl ext pTxRxDescBuff) s fun _ after =>
      apiChanges after.acts = apiChanges s.acts ++ [-1] := by
  have hwrite : Completes (attempt stopsCaller
      (slDrvMsgWrite cfg.toProtocolConfig cmdCtrl (some ext) pTxRxDescBuff)) s
      fun _ after => apiView after = apiView s := by
    rw [Completes, ends_attempt]
    apply ((silent_slDrvMsgWrite cfg.toProtocolConfig cmdCtrl (some ext) pTxRxDescBuff s).and
      (ends_slDrvMsgWrite cfg.toProtocolConfig cmdCtrl (some ext) pTxRxDescBuff)).mono
    · exact fun _ _ hafter => hafter.1
    · intro ret after hafter
      rw [hafter.2.1]
      exact hafter.1
  apply hwrite.bind
  intro _ sent hsent
  apply (completes_slDrvGlobalObjUnLock_true sent).bind
  intro _ after hafter
  rw [hsent] at hafter
  exact changes_of_view hafter

theorem uses_slDrvDataWriteOp (sd : Byte) (cmdCtrl : CmdCtrl) (ext : CmdExt)
    (pTxRxDescBuff : Option (ℕ → Byte)) (rounds : List WriteRound) (env : TakePackets)
    (s : DrvState) :
    Uses (slDrvDataWriteOp cfg sd cmdCtrl ext pTxRxDescBuff rounds env) s
      (dataWriteUse cfg sd ext rounds env) := by
  rw [Uses, slDrvDataWriteOp, ends_bind]
  apply ((ends_writeFlowControl cfg sd ext rounds s).and
    (silent_writeFlowControl cfg sd ext rounds s)).mono
  · intro alloc flowing hflowing
    obtain ⟨⟨houtcome, _⟩, hview⟩ := hflowing
    have hflow := changes_of_view hview
    rw [dataWriteUse, if_pos houtcome, ends_bind]
    apply (ends_takeTxPackets_changes _ alloc env flowing).mono
    · intro _ taken htaken
      obtain ⟨hgranted, htaken⟩ := htaken
      apply ((completes_sendData_changes cfg cmdCtrl ext pTxRxDescBuff taken).mono _).ends
      intro _ after hafter
      rw [if_pos hgranted, hafter, htaken, hflow]
      exact List.append_assoc ..
    · intro ret after hafter
      obtain ⟨hret, hafter⟩ := hafter
      rw [if_neg hret, hafter, hflow]
      split <;> rfl
  · intro ret after hafter
    obtain ⟨hreturns, hview⟩ := hafter
    have hidle : writeOutcome cfg sd ext rounds ≠ .proceeds := by
      intro hproceeds
      rw [hproceeds] at hreturns
      exact hreturns
    rw [dataWriteUse, if_neg hidle, changes_of_view hview]
    simp [ApiUse.changes, raised, lowered, apiView]

end DataWrite

theorem ApiUse.sum_changes (use : ApiUse) :
    use.changes.sum = 0 ↔ use.counts = use.lowers := by
  obtain ⟨counts, lowers⟩ := use
  cases counts <;> cases lowers <;> simp [ApiUse.changes, raised, lowered]

end SimpleLinkHost.ApiCount
