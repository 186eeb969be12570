import SimpleLinkHost.Driver.CmdOp
import SimpleLinkHost.Driver.MsgFate

/-!
# Which calls give the global lock back

The two callers of `_SlDrvMsgRead` take `SL_API_ABORTED` to mean that the global
lock was given back already.  That is so after a loss of synchronization and for
an unmatched receive response, but not where the reading macro returned.  Here
the fate of every message decides which locks a command, or the spawn context,
still holds when it returns.
-/

namespace SimpleLinkHost.CmdOpLocks

open CallOutcome Calls GlobalLock MsgWrite RxMsg MsgRead MsgFate CmdOp

/-- How a call, or its loop, ends. -/
inductive CmdOutcome
  /-- The loop has read the response. -/
  | responded
  /-- A return with every lock given back. -/
  | clean
  /-- A return with a lock taken, or after an unlock of a lock that was not. -/
  | leaks
  | noReturn
deriving DecidableEq

/-- No lock is taken. -/
def free (_ : LockObj) : Option ℕ := some 0

/-- Neither the global nor the protection lock is taken, and none was given back
without being taken. -/
def HoldsNone (s : DrvState) : Prop :=
  s.held .globalLockObj = some 0 ∧ s.held .protectionLockObj = some 0

/-- What a call that returned early holds. -/
def Returns (ret : RetCode) (after : DrvState) : CmdOutcome → Prop
  | .responded => False
  | .clean => ret ≠ .noReturn ∧ HoldsNone after
  | .leaks => ret ≠ .noReturn ∧ ¬HoldsNone after
  | .noReturn => ret = .noReturn ∧ after.held .globalLockObj ≠ none

variable (cfg : RxConfig)

/-- The end of a command whose message was not read. -/
def lostMsgOutcome (lockRequired : Bool) : Fate → CmdOutcome
  | .done => .responded
  | .syncLoss | .unmatched => if lockRequired then .clean else .leaks
  | .short => if lockRequired then .leaks else .clean
  | .shortProtected => .leaks
  | .noMemory => .clean
  | .endless => .noReturn

/-- The end of the loop of `_SlDrvMsgReadCmdCtx`, from the count of messages done. -/
def cmdOutcome (lockRequired : Bool) (cmdCtrl : CmdCtrl) (pCmdExt : Option CmdExt) :
    Byte → List CmdRound → CmdOutcome
  | _, [] => .noReturn
  | rxDoneCnt, round :: rounds =>
      if round.rxIrqCnt ≠ rxDoneCnt then
        if msgFate cfg round.message cmdCtrl pCmdExt ≠ .done then
          lostMsgOutcome lockRequired (msgFate cfg round.message cmdCtrl pCmdExt)
        else if msgClass cfg round.message cmdCtrl.opcode = .cmdResp then .responded
        else cmdOutcome lockRequired cmdCtrl pCmdExt (rxDoneCnt + 1) rounds
      else if round.waitStatus ≠ 0 then .clean
      else cmdOutcome lockRequired cmdCtrl pCmdExt rxDoneCnt rounds

/-- Of the parameters only the length of the receive payload matters. -/
theorem cmdOutcome_congr {pCmdExt pCmdExt' : Option CmdExt} (lockRequired : Bool)
    (cmdCtrl : CmdCtrl) (rxDoneCnt : Byte) (rounds : List CmdRound)
    (hlen : pCmdExt.map (·.rxPayloadLen) = pCmdExt'.map (·.rxPayloadLen)) :
    cmdOutcome cfg lockRequired cmdCtrl pCmdExt rxDoneCnt rounds =
      cmdOutcome cfg lockRequired cmdCtrl pCmdExt' rxDoneCnt rounds := by
  induction rounds generalizing rxDoneCnt with
  | nil => rfl
  | cons round rounds ih =>
      simp only [cmdOutcome, msgFate_congr cfg round.message cmdCtrl hlen, ih]

section Loop

variable {s : DrvState} {lockRequired : Bool}

theorem holdsNone_of_free (hheld : s.held = free) : HoldsNone s := by
  rw [HoldsNone, hheld]
  exact ⟨rfl, rfl⟩

theorem completes_unlockIfRequired (hheld : s.held = heldIf lockRequired free) :
    Completes (unlockIfRequired lockRequired) s fun _ after =>
      after.rx = s.rx ∧ after.cb = s.cb ∧ after.held = free := by
  rw [unlockIfRequired, Completes, ends_runIf]
  cases lockRequired with
  | false => exact ⟨rfl, rfl, hheld⟩
  | true =>
      apply (completes_slDrvGlobalObjUnLock true s).mono
      intro _ after hafter
      refine ⟨hafter.rx, hafter.cb, ?_⟩
      rw [hafter.held, hheld, heldIf, if_pos rfl, without_holding]

theorem completes_slSpawnMsgListInsert (env : SpawnInsert) (asyncBuf : List Byte) :
    Completes (slSpawnMsgListInsert env asyncBuf) s fun _ after =>
      readView after = readView s := by
  have hmalloc : readView ((s.after (.lock .protectionLockObj)).after .malloc) =
      readView (s.after (.lock .protectionLockObj)) := readView_after rfl
  rw [Completes, slSpawnMsgListInsert, protectionObjLockForever, protectionObjUnlock]
  rw [ends_bind, ends_emit, ends_bind, ends_emit]
  cases env.itemAllocated with
  | false => exact readView_unlock hmalloc
  | true =>
      cases env.bufferAllocated with
      | false =>
          apply readView_unlock
          exact (readView_after rfl).trans ((readView_after rfl).trans hmalloc)
      | true => exact readView_unlock ((readView_after rfl).trans hmalloc)

theorem completes_storeAsyncEvt (env : SpawnInsert) (out : MsgReadOut) :
    Completes (storeAsyncEvt env out) s fun _ after => readView after = readView s := by
  apply (completes_slSpawnMsgListInsert env _).bind
  intro inserted stored hstored
  have hrelease : Completes (runIf (inserted = .noFreeAsyncBuffers)
      (slFindAndReleasePendingCmd env.pendingRespArgs)) stored
      fun _ after => readView after = readView s := by
    rw [Completes, ends_runIf]
    split
    · rw [slFindAndReleasePendingCmd, ends_bind, ends_get, ends_runIf]
      split
      · exact (readView_after rfl).trans ((readView_after rfl).trans hstored)
      · exact hstored
    · exact hstored
  apply hrelease.bind
  exact fun _ _ hreleased => (readView_after rfl).trans hreleased

/-- Only the response of the command changes what the loop depends on. -/
theorem completes_handleCmdMsg (env : SpawnInsert) (out : MsgReadOut) (rxMsgClass : RxMsgClass) :
    Completes (handleCmdMsg env out rxMsgClass) s fun _ after =>
      after.held = s.held ∧ (rxMsgClass ≠ .cmdResp → readView after = readView s) ∧
        (rxMsgClass = .cmdResp → after.cb.waitForCmdResp = false) := by
  cases rxMsgClass with
  | cmdResp => exact ⟨held_neutral rfl, fun hclass => absurd rfl hclass, fun _ => rfl⟩
  | asyncEvt =>
      apply (completes_storeAsyncEvt env out).mono
      intro _ after hafter
      exact ⟨congrArg (·.1.1) hafter, fun _ => hafter, by simp⟩
  | multiSelectResp => exact ⟨held_neutral rfl, fun _ => readView_after rfl, by simp⟩
  | recvResp => exact ⟨rfl, fun _ => rfl, by simp⟩
  | dummyMsg => exact ⟨rfl, fun _ => rfl, by simp⟩

section Abandoned

variable {after : DrvState} {ret : RetCode}

theorem returns_free (hret : ret ≠ .noReturn) (hheld : after.held = free) :
    Returns ret after .clean :=
  ⟨hret, holdsNone_of_free hheld⟩

theorem returns_unlocked (hret : ret ≠ .noReturn)
    (hheld : after.held = without (heldIf lockRequired free) .globalLockObj) :
    Returns ret after (if lockRequired then .clean else .leaks) := by
  cases lockRequired with
  | true => exact returns_free hret (hheld.trans without_holding)
  | false =>
      refine ⟨hret, fun hnone => ?_⟩
      rw [HoldsNone, hheld] at hnone
      simp [heldIf, without, free, Nat.ppred] at hnone

theorem returns_kept (hret : ret ≠ .noReturn) (hheld : after.held = heldIf lockRequired free) :
    Returns ret after (if lockRequired then .leaks else .clean) := by
  cases lockRequired with
  | false => exact returns_free hret hheld
  | true =>
      refine ⟨hret, fun hnone => ?_⟩
      rw [HoldsNone, hheld] at hnone
      simp [heldIf, holding, free] at hnone

theorem returns_protected (hret : ret ≠ .noReturn)
    (hheld : after.held = holding (heldIf lockRequired free) .protectionLockObj) :
    Returns ret after .leaks := by
  refine ⟨hret, fun hnone => ?_⟩
  rw [HoldsNone, hheld] at hnone
  cases lockRequired <;> simp [heldIf, holding, free] at hnone

/-- The locks after a message that was not read, as its caller found them: the
caller leaves them after `SL_API_ABORTED` and otherwise gives the global lock back. -/
theorem ends_abandon {fate : Fate} {program : DrvM Unit} (hret : ret ≠ .noReturn)
    (hreturns : FateReturns (heldIf lockRequired free) ret s fate)
    (haborted : ret = .apiAborted → Ends program s (fun _ _ => False)
      fun ret after => ret ≠ .noReturn ∧ after.held = s.held)
    (hother : ret ≠ .apiAborted → s.held = heldIf lockRequired free →
      Ends program s (fun _ _ => False) fun ret after => ret ≠ .noReturn ∧ after.held = free) :
    Ends program s (fun _ _ => False)
      fun ret after => Returns ret after (lostMsgOutcome lockRequired fate) := by
  cases fate with
  | done => exact hreturns.elim
  | syncLoss | unmatched =>
      apply (haborted hreturns.1).mono
      · exact fun _ _ hfalse => hfalse
      · exact fun _ _ hafter => returns_unlocked hafter.1 (hafter.2.trans hreturns.2)
  | noMemory =>
      apply (hother (by simp [hreturns.1]) hreturns.2).mono
      · exact fun _ _ hfalse => hfalse
      · exact fun _ _ hafter => returns_free hafter.1 hafter.2
  | short =>
      apply (haborted hreturns.1).mono
      · exact fun _ _ hfalse => hfalse
      · exact fun _ _ hafter => returns_kept hafter.1 (hafter.2.trans hreturns.2)
  | shortProtected =>
      apply (haborted hreturns.1).mono
      · exact fun _ _ hfalse => hfalse
      · exact fun _ _ hafter => returns_protected hafter.1 (hafter.2.trans hreturns.2)
  | endless => exact absurd hreturns.1 hret

theorem ends_abandonCmd {fate : Fate} (hret : ret ≠ .noReturn)
    (hreturns : FateReturns (heldIf lockRequired free) ret s fate) :
    Ends (abandonCmd lockRequired ret) s (fun _ _ => False)
      fun ret after => Returns ret after (lostMsgOutcome lockRequired fate) := by
  apply ends_abandon hret hreturns
  · intro haborted
    rw [abandonCmd, ends_bind, ends_modifyCB, ends_bind, unlockIfRequired, ends_runIf,
      if_neg (by simp [haborted])]
    exact ⟨by simp, rfl⟩
  · intro hother hheld
    have hrequired : (lockRequired && ret ≠ .apiAborted) = lockRequired := by simp [hother]
    rw [abandonCmd, ends_bind, ends_modifyCB, hrequired]
    apply (completes_unlockIfRequired _).bind
    · exact fun _ _ hafter => ⟨by simp, hafter.2.2⟩
    · exact hheld

/-- A call that does not return waits in the search for an object. -/
theorem returns_noReturn {fate : Fate} (hret : ret = .noReturn)
    (hreturns : FateReturns (heldIf lockRequired free) ret after fate) :
    Returns ret after (lostMsgOutcome lockRequired fate) := by
  subst hret
  cases fate with
  | endless =>
      refine ⟨rfl, ?_⟩
      rw [hreturns.2]
      cases lockRequired <;> simp [heldIf, holding, free]
  | done => exact hreturns.elim
  | syncLoss | unmatched | noMemory | short | shortProtected => cases hreturns.1

end Abandoned

/-- One message in command context. -/
theorem ends_readCmdMsg (round : CmdRound) (hheld : s.held = heldIf lockRequired free) :
    Ends (readCmdMsg cfg lockRequired round) s
      (fun _ after => msgFate cfg round.message s.cb.pCmdCtrl s.cb.pCmdExt = .done ∧
        after.held = s.held ∧
        if msgClass cfg round.message s.cb.pCmdCtrl.opcode = .cmdResp then
          after.cb.waitForCmdResp = false
        else
          after.cb.pCmdCtrl = s.cb.pCmdCtrl ∧ after.cb.pCmdExt = s.cb.pCmdExt ∧
            after.cb.waitForCmdResp = s.cb.waitForCmdResp ∧
            after.cb.rxDoneCnt = s.cb.rxDoneCnt + 1)
      fun ret after => msgFate cfg round.message s.cb.pCmdCtrl s.cb.pCmdExt ≠ .done ∧
        Returns ret after
          (lostMsgOutcome lockRequired (msgFate cfg round.message s.cb.pCmdCtrl s.cb.pCmdExt)) := by
  rw [readCmdMsg, ends_bind, ends_attempt]
  apply (ends_slDrvMsgRead cfg round.message).mono
  · intro out read hread
    obtain ⟨hfate, hdone⟩ := hread
    rw [ends_bind, ends_modifyCB, ends_bind, ends_get]
    apply Completes.ends
    apply (completes_handleCmdMsg round.spawnInsert out _).mono
    · intro _ after hafter
      obtain ⟨hafterHeld, hother, hresp⟩ := hafter
      rw [DrvState.changeCB_cb, hdone.rxMsgClass] at hother hresp
      refine ⟨hfate, hafterHeld.trans hdone.held, ?_⟩
      split
      · exact hresp ‹_›
      · rename_i hclass
        have hview := hother hclass
        exact ⟨(congrArg (·.1.2.1) hview).trans hdone.pCmdCtrl,
          (congrArg (·.2) hview).trans (hdone.pCmdExt hclass),
          (congrArg (·.1.2.2.2.1) hview).trans hdone.waitForCmdResp,
          (congrArg (·.1.2.2.2.2) hview).trans (congrArg (· + 1) hdone.rxDoneCnt)⟩
  · intro ret lost hlost
    rw [hheld] at hlost
    have hfate : msgFate cfg round.message s.cb.pCmdCtrl s.cb.pCmdExt ≠ .done := by
      intro hdone
      rw [hdone] at hlost
      exact hlost
    by_cases hret : ret = .noReturn
    · rw [if_pos (by simpa [stopsCaller] using hret)]
      exact ⟨hfate, returns_noReturn hret hlost⟩
    · rw [if_neg (by simpa [stopsCaller] using hret)]
      apply (ends_abandonCmd hret hlost).mono
      · exact fun _ _ hfalse => hfalse.elim
      · exact fun _ _ hreturns => ⟨hfate, hreturns⟩

/-- The wait for the next message. -/
theorem ends_waitForCmdMsg (cmdOpcode : BitVec 16) (round : CmdRound)
    (hheld : s.held = heldIf lockRequired free) :
    Ends (waitForCmdMsg cfg cmdOpcode lockRequired round) s
      (fun _ after => round.waitStatus = 0 ∧ after = s)
      fun ret after => round.waitStatus ≠ 0 ∧ Returns ret after .clean := by
  rw [waitForCmdMsg, ends_runIf]
  split
  · rename_i hstatus
    rw [ends_bind, ends_modifyCB]
    apply (completes_unlockIfRequired _).bind
    · intro _ unlocked hunlocked
      rw [ends_bind, ends_runIf]
      split
      · exact ⟨hstatus, returns_free (by simp) ((held_neutral rfl).trans hunlocked.2.2)⟩
      · exact ⟨hstatus, returns_free (by simp) hunlocked.2.2⟩
    · exact hheld
  · rename_i hstatus
    exact ⟨not_not.mp hstatus, rfl⟩

/-- Once the response was read the loop is left. -/
theorem ends_readUntilCmdResp_responded (cmdOpcode : BitVec 16) (rounds : List CmdRound)
    (hwait : s.cb.waitForCmdResp = false) :
    Ends (readUntilCmdResp cfg cmdOpcode lockRequired rounds) s
      (fun _ after => after = s) fun _ _ => False := by
  cases rounds with
  | nil => simp [readUntilCmdResp, hwait]
  | cons round rounds => simp [readUntilCmdResp, hwait]

/-- The loop keeps the locks until the response has come, and otherwise returns as
`cmdOutcome` says. -/
theorem ends_readUntilCmdResp (cmdOpcode : BitVec 16) (rounds : List CmdRound)
    (hheld : s.held = heldIf lockRequired free) (hwait : s.cb.waitForCmdResp = true) :
    Ends (readUntilCmdResp cfg cmdOpcode lockRequired rounds) s
      (fun _ after => cmdOutcome cfg lockRequired s.cb.pCmdCtrl s.cb.pCmdExt s.cb.rxDoneCnt
        rounds = .responded ∧ after.held = s.held)
      fun ret after => Returns ret after
        (cmdOutcome cfg lockRequired s.cb.pCmdCtrl s.cb.pCmdExt s.cb.rxDoneCnt rounds) := by
  induction rounds generalizing s with
  | nil =>
      rw [readUntilCmdResp, ends_bind, ends_get, ends_returnIf, if_pos hwait]
      refine ⟨rfl, ?_⟩
      rw [hheld]
      cases lockRequired <;> simp [heldIf, holding, free]
  | cons round rounds ih =>
      rw [readUntilCmdResp, ends_bind, ends_get, if_pos hwait, ends_ite, cmdOutcome]
      split
      · rw [ends_bind]
        apply (ends_readCmdMsg cfg round hheld).mono
        · intro _ middle hmiddle
          obtain ⟨hfate, hmiddleHeld, hclass⟩ := hmiddle
          rw [if_neg (not_not.mpr hfate)]
          split at hclass
          · rename_i hresp
            rw [if_pos hresp]
            apply (ends_readUntilCmdResp_responded cfg cmdOpcode rounds hclass).mono
            · intro _ after hafter
              exact ⟨rfl, hafter ▸ hmiddleHeld⟩
            · exact fun _ _ hfalse => hfalse.elim
          · rename_i hother
            obtain ⟨hcmdCtrl, hcmdExt, hmiddleWait, hcnt⟩ := hclass
            have hrest := ih (hmiddleHeld.trans hheld) (hmiddleWait.trans hwait)
            rw [hcmdCtrl, hcmdExt, hcnt, hmiddleHeld] at hrest
            rwa [if_neg hother]
        · intro ret after hafter
          rw [if_pos hafter.1]
          exact hafter.2
      · rw [ends_bind]
        apply (ends_waitForCmdMsg cfg cmdOpcode round hheld).mono
        · intro _ middle hmiddle
          obtain ⟨hstatus, hmiddle⟩ := hmiddle
          subst hmiddle
          rw [if_neg (not_not.mpr hstatus)]
          exact ih hheld hwait
        · intro ret after hafter
          rw [if_pos hafter.1]
          exact hafter.2

end Loop

section Command

variable {s : DrvState} {lockRequired : Bool}

theorem completes_slSpawnMsgListGetCount :
    Completes slSpawnMsgListGetCount s fun _ after => after.held = s.held := by
  rw [Completes, slSpawnMsgListGetCount, protectionObjLockForever, protectionObjUnlock]
  rw [ends_bind, ends_get, ends_bind, ends_emit, ends_bind, ends_emit]
  exact congrArg (·.1.1) (readView_unlock (rfl : readView (s.after (.lock .protectionLockObj)) = _))

theorem completes_runIf_emit {cond : Prop} [Decidable cond] {act : DrvAct}
    (hact : lockEvent act = none) :
    Completes (runIf cond (emit act)) s fun _ after => after.held = s.held := by
  rw [Completes, ends_runIf]
  split
  · exact held_neutral hact
  · rfl

/-- After the response the lock is given back. -/
theorem ends_slDrvMsgReadCmdCtx (cmdOpcode : BitVec 16) (env : CmdEnv)
    (hheld : s.held = heldIf lockRequired free) (hwait : s.cb.waitForCmdResp = true) :
    Ends (slDrvMsgReadCmdCtx cfg cmdOpcode lockRequired env) s
      (fun _ after => cmdOutcome cfg lockRequired s.cb.pCmdCtrl s.cb.pCmdExt s.cb.rxDoneCnt
        env.rounds = .responded ∧ HoldsNone after)
      fun ret after => Returns ret after
        (cmdOutcome cfg lockRequired s.cb.pCmdCtrl s.cb.pCmdExt s.cb.rxDoneCnt env.rounds) := by
  apply (ends_readUntilCmdResp cfg cmdOpcode env.rounds hheld hwait).bind
  intro _ responded hresponded
  obtain ⟨houtcome, hrespondedHeld⟩ := hresponded
  apply completes_slSpawnMsgListGetCount.bind
  intro count counted hcounted
  have hneutral : ∀ fromCmd, lockEvent (.spawnFromCmd fromCmd) = none := fun _ => rfl
  have hcountedHeld : counted.held = heldIf lockRequired free :=
    calc counted.held = responded.held := hcounted
      _ = s.held := hrespondedHeld
      _ = heldIf lockRequired free := hheld
  apply (completes_runIf_emit (hneutral true)).bind
  intro _ spawned hspawned
  apply (completes_unlockIfRequired (hspawned.trans hcountedHeld)).bind
  intro _ unlocked hunlocked
  rw [ends_bind, ends_get]
  apply Completes.ends
  apply (completes_runIf_emit (hneutral false)).mono
  intro _ after hafter
  exact ⟨houtcome, holdsNone_of_free (hafter.trans hunlocked.2.2)⟩

/-- The end of a command from where its lock was taken. -/
def sentOutcome (cmdCtrl : CmdCtrl) (pTxRxDescBuff : Option (ℕ → Byte)) (ext : Option CmdExt)
    (lockRequired : Bool) (env : CmdEnv) (writesLeft : ℕ) (rxDoneCnt : Byte) : CmdOutcome :=
  if writesLeft < transfers cmdCtrl ext pTxRxDescBuff then .clean
  else cmdOutcome cfg lockRequired cmdCtrl (ext.map signChanged) rxDoneCnt env.rounds

theorem ends_sendCmd (cmdCtrl : CmdCtrl) (pTxRxDescBuff : Option (ℕ → Byte))
    (ext : Option CmdExt) (env : CmdEnv) (hheld : s.held = heldIf lockRequired free) :
    Ends (sendCmd cfg cmdCtrl pTxRxDescBuff ext lockRequired env) s
      (fun _ after => sentOutcome cfg cmdCtrl pTxRxDescBuff ext lockRequired env s.writesLeft
        s.cb.rxDoneCnt = .responded ∧ HoldsNone after)
      fun ret after => Returns ret after (sentOutcome cfg cmdCtrl pTxRxDescBuff ext lockRequired
        env s.writesLeft s.cb.rxDoneCnt) := by
  rw [sendCmd, ends_bind, ends_modifyCB, ends_bind, ends_attempt]
  apply (ends_slDrvMsgWrite cfg.toProtocolConfig cmdCtrl ext pTxRxDescBuff).mono
  · intro _ sent hsent
    obtain ⟨hwrites, hview⟩ := hsent
    rw [DrvState.changeCB_writesLeft] at hwrites
    have hsentHeld : sent.held = heldIf lockRequired free := (congrArg (·.1) hview).trans hheld
    have hwait : sent.cb.waitForCmdResp = true := congrArg (·.2.2.1.waitForCmdResp) hview
    have hcmdCtrl : sent.cb.pCmdCtrl = cmdCtrl := congrArg (·.2.2.1.pCmdCtrl) hview
    have hcnt : sent.cb.rxDoneCnt = s.cb.rxDoneCnt := congrArg (·.2.2.1.rxDoneCnt) hview
    have hread := ends_slDrvMsgReadCmdCtx cfg cmdCtrl.opcode env hsentHeld hwait
    rw [hcmdCtrl, hcnt, cmdOutcome_congr cfg _ _ _ _ (congrArg (·.2.2.2) hview)] at hread
    rw [sentOutcome, if_neg (by omega)]
    exact hread
  · intro ret lost hlost
    obtain ⟨hret, hwrites, hlostHeld⟩ := hlost
    subst hret
    rw [DrvState.changeCB_writesLeft] at hwrites
    rw [if_neg (by decide), sentOutcome, if_pos hwrites]
    apply (completes_unlockIfRequired (hlostHeld.trans hheld)).bind
    exact fun _ _ hafter => returns_free (by simp) hafter.2.2

/-- The end of a command. -/
def cmdOpOutcome (cmdCtrl : CmdCtrl) (pTxRxDescBuff : Option (ℕ → Byte)) (ext : Option CmdExt)
    (env : CmdEnv) (writesLeft : ℕ) (rxDoneCnt : Byte) : CmdOutcome :=
  if isLockRequired cfg cmdCtrl env
      && !env.globalLock.granted (cmdLockFlags cfg cmdCtrl pTxRxDescBuff) then .clean
  else if env.restartRequired then .clean
  else
    sentOutcome cfg cmdCtrl pTxRxDescBuff ext (isLockRequired cfg cmdCtrl env) env writesLeft
      rxDoneCnt

/-- The lock of a command, where it is required. -/
theorem ends_lockIfRequired (flags : GlobalLockFlags) (env : GlobalLockEnv)
    (hheld : s.held = free) :
    Ends (runIf lockRequired (lockGlobalLockForever flags env)) s
      (fun _ after => (lockRequired && !env.granted flags) = false ∧
        after.held = heldIf lockRequired free ∧ after.writesLeft = s.writesLeft ∧
        after.cb = s.cb)
      fun ret after => (lockRequired && !env.granted flags) = true ∧
        Returns ret after .clean := by
  rw [ends_runIf]
  cases lockRequired with
  | false => exact ⟨rfl, hheld, rfl, rfl⟩
  | true =>
      apply (ends_lockGlobalLockForever flags env s).mono
      · intro _ after hafter
        obtain ⟨hgranted, hreaches⟩ := hafter
        exact ⟨by simp [hgranted], by rw [hreaches.held, hheld]; rfl, hreaches.writesLeft,
          hreaches.cb⟩
      · intro ret after hafter
        obtain ⟨hgranted, hret, hreaches⟩ := hafter
        exact ⟨by simp [hgranted], returns_free hret (hreaches.held.trans hheld)⟩

theorem ends_slDrvCmdOp (cmdCtrl : CmdCtrl) (pTxRxDescBuff : Option (ℕ → Byte))
    (ext : Option CmdExt) (env : CmdEnv) (hheld : s.held = free) :
    Ends (slDrvCmdOp cfg cmdCtrl pTxRxDescBuff ext env) s
      (fun _ after => cmdOpOutcome cfg cmdCtrl pTxRxDescBuff ext env s.writesLeft
        s.cb.rxDoneCnt = .responded ∧ HoldsNone after)
      fun ret after => Returns ret after
        (cmdOpOutcome cfg cmdCtrl pTxRxDescBuff ext env s.writesLeft s.cb.rxDoneCnt) := by
  rw [slDrvCmdOp, ends_bind]
  apply (ends_lockIfRequired (cmdLockFlags cfg cmdCtrl pTxRxDescBuff) env.globalLock hheld).mono
  · intro _ locked hlocked
    obtain ⟨hgranted, hlockedHeld, hwrites, hcb⟩ := hlocked
    rw [cmdOpOutcome, hgranted, if_neg (by simp), ends_bind, ends_runIf]
    split
    · apply (completes_unlockIfRequired hlockedHeld).bind
      exact fun _ _ hafter => returns_free (by simp) hafter.2.2
    · have hsend := ends_sendCmd cfg cmdCtrl pTxRxDescBuff ext env hlockedHeld
      rwa [hwrites, hcb] at hsend
  · intro ret after hafter
    rw [cmdOpOutcome, hafter.1, if_pos rfl]
    exact hafter.2

end Command

section Spawn

variable {s : DrvState}

/-- A handled message leaves the locks, and the spawn context never meets a select
response in a build without the handler. -/
theorem completes_handleSpawnMsg (flags : DevFlags) (out : MsgReadOut) (rxMsgClass : RxMsgClass)
    (hclass : rxMsgClass = .multiSelectResp → cfg.multiSelect) :
    Completes (handleSpawnMsg cfg flags out rxMsgClass) s fun _ after => after.held = s.held := by
  cases rxMsgClass with
  | asyncEvt =>
      have hhandler : Completes (slDrvAsyncEventGenericHandler cfg flags out.asyncBuf) s
          fun _ after => after.held = s.held := by
        rw [Completes, slDrvAsyncEventGenericHandler, ends_bind, ends_get]
        split
        · rfl
        · exact completes_runIf_emit rfl
      apply hhandler.bind
      exact fun _ _ hafter => (held_neutral rfl).trans hafter
  | multiSelectResp =>
      rw [handleSpawnMsg, if_pos (hclass rfl)]
      exact held_neutral rfl
  | dummyMsg | recvResp | cmdResp => rfl

theorem multiSelect_of_msgClass {env : MsgEnv} {cmdOpcode : BitVec 16}
    (hclass : msgClass cfg env cmdOpcode = .multiSelectResp) : cfg.multiSelect := by
  simp only [msgClass, rxMsgClassOf] at hclass
  split at hclass
  · split_ifs at hclass
    simp_all
  · cases hclass

theorem ends_abandonSpawnMsg {fate : Fate} {ret : RetCode} (hret : ret ≠ .noReturn)
    (hreturns : FateReturns (heldIf true free) ret s fate) :
    Ends (abandonSpawnMsg ret) s (fun _ _ => False)
      fun ret after => Returns ret after (lostMsgOutcome true fate) := by
  apply ends_abandon hret hreturns
  · intro haborted
    rw [abandonSpawnMsg, ends_bind, ends_runIf, if_neg (by simp [haborted])]
    exact ⟨by simp, rfl⟩
  · intro hother hheld
    rw [abandonSpawnMsg, ends_bind, ends_runIf, if_pos hother]
    apply Completes.ends
    apply (completes_slDrvGlobalObjUnLock false s).mono
    intro _ after hafter
    rw [hheld] at hafter
    exact ⟨by simp, hafter.held.trans without_holding⟩

theorem ends_readSpawnMsg (env : SpawnEnv) (hheld : s.held = heldIf true free) :
    Ends (readSpawnMsg cfg env) s
      (fun _ after => lostMsgOutcome true
        (msgFate cfg env.message s.cb.pCmdCtrl s.cb.pCmdExt) = .responded ∧ HoldsNone after)
      fun ret after => Returns ret after
        (lostMsgOutcome true (msgFate cfg env.message s.cb.pCmdCtrl s.cb.pCmdExt)) := by
  rw [readSpawnMsg, ends_bind, ends_attempt]
  apply (ends_slDrvMsgRead cfg env.message).mono
  · intro out read hread
    obtain ⟨hfate, hdone⟩ := hread
    rw [ends_bind, ends_modifyCB, ends_bind, ends_get, hfate, DrvState.changeCB_cb,
      hdone.rxMsgClass]
    apply (completes_handleSpawnMsg cfg env.handlerFlags out _ (multiSelect_of_msgClass cfg)).bind
    intro _ handled hhandled
    apply Completes.ends
    apply (completes_slDrvGlobalObjUnLock false handled).mono
    intro _ after hafter
    refine ⟨rfl, holdsNone_of_free ?_⟩
    rw [hafter.held, hhandled, DrvState.changeCB_held, hdone.held, hheld]
    exact without_holding
  · intro ret lost hlost
    rw [hheld] at hlost
    by_cases hret : ret = .noReturn
    · rw [if_pos (by simpa [stopsCaller] using hret)]
      exact returns_noReturn hret hlost
    · rw [if_neg (by simpa [stopsCaller] using hret)]
      apply (ends_abandonSpawnMsg hret hlost).mono
      · exact fun _ _ hfalse => hfalse.elim
      · exact fun _ _ hreturns => hreturns

/-- The end of a call of `_SlDrvMsgReadSpawnCtx`. -/
def spawnOutcome (env : SpawnEnv) (cb : DriverCB) : CmdOutcome :=
  if !env.globalLock.granted (noLockFlags cfg) then .clean
  else if env.rxIrqCnt = cb.rxDoneCnt then .responded
  else if env.deviceStarted || env.deviceStartInProgress then
    lostMsgOutcome true (msgFate cfg env.message cb.pCmdCtrl cb.pCmdExt)
  else .leaks

theorem ends_slDrvMsgReadSpawnCtx (env : SpawnEnv) (hheld : s.held = free) :
    Ends (slDrvMsgReadSpawnCtx cfg env) s
      (fun _ after => spawnOutcome cfg env s.cb = .responded ∧ HoldsNone after)
      fun ret after => Returns ret after (spawnOutcome cfg env s.cb) := by
  rw [slDrvMsgReadSpawnCtx, ends_bind]
  apply (ends_lockGlobalLockForever (noLockFlags cfg) env.globalLock s).mono
  · intro _ locked hlocked
    obtain ⟨hgranted, hreaches⟩ := hlocked
    have hlockedHeld : locked.held = heldIf true free := by
      rw [hreaches.held, hheld]
      rfl
    rw [spawnOutcome, hgranted, Bool.not_true, if_neg Bool.false_ne_true, ends_bind, ends_get,
      hreaches.cb, ends_ite]
    split
    · apply Completes.ends
      apply (completes_slDrvGlobalObjUnLock false locked).mono
      intro _ after hafter
      refine ⟨rfl, holdsNone_of_free ?_⟩
      rw [hafter.held, hlockedHeld]
      exact without_holding
    · rw [ends_ite]
      split
      · have hread := ends_readSpawnMsg cfg env hlockedHeld
        rwa [hreaches.cb] at hread
      · exact returns_kept (by simp) hlockedHeld
  · intro ret after hafter
    obtain ⟨hgranted, hret, hreaches⟩ := hafter
    rw [spawnOutcome, if_pos (by simp [hgranted])]
    exact returns_free hret (hreaches.held.trans hheld)

end Spawn

section GivesBack

/-- The call returns with neither lock, and the global lock is given back only where
the call had taken it. -/
def GivesBack (program : DrvM Unit) (s : DrvState) : Prop :=
  Ends program s (fun _ after => HoldsNone after) fun ret after =>
    after.held .globalLockObj ≠ none ∧ (ret ≠ .noReturn → HoldsNone after)

theorem givesBack_iff {program : DrvM Unit} {s : DrvState} {outcome : CmdOutcome}
    (hends : Ends program s (fun _ after => outcome = .responded ∧ HoldsNone after)
      fun ret after => Returns ret after outcome) :
    GivesBack program s ↔ outcome ≠ .leaks := by
  constructor
  · intro hback hleaks
    subst hleaks
    apply (hends.and hback).elim
    · exact fun _ _ hafter => absurd hafter.1.1 (by simp)
    · exact fun _ _ hafter => hafter.1.2 (hafter.2.2 hafter.1.1)
  · intro hclean
    apply hends.mono
    · exact fun _ _ hafter => hafter.2
    · intro ret after hafter
      cases outcome with
      | responded => exact hafter.elim
      | clean =>
          obtain ⟨hret, hnone⟩ := hafter
          exact ⟨by simp [hnone.1], fun _ => hnone⟩
      | leaks => exact absurd rfl hclean
      | noReturn => exact ⟨hafter.2, fun hret => absurd hafter.1 hret⟩

/-- The fate of the message at which the loop of `_SlDrvMsgReadCmdCtx` stops, if it is
a message that stops it. -/
def stoppingFate (cmdCtrl : CmdCtrl) (pCmdExt : Option CmdExt) :
    Byte → List CmdRound → Option Fate
  | _, [] => none
  | rxDoneCnt, round :: rounds =>
      if round.rxIrqCnt ≠ rxDoneCnt then
        if msgFate cfg round.message cmdCtrl pCmdExt ≠ .done then
          some (msgFate cfg round.message cmdCtrl pCmdExt)
        else if msgClass cfg round.message cmdCtrl.opcode = .cmdResp then none
        else stoppingFate cmdCtrl pCmdExt (rxDoneCnt + 1) rounds
      else if round.waitStatus ≠ 0 then none
      else stoppingFate cmdCtrl pCmdExt rxDoneCnt rounds

/-- The fates for which the caller of `_SlDrvMsgRead` does the right thing: with the
global lock the message must not be short, without it it must be short or whole. -/
def locksAgree (lockTaken : Bool) : Fate → Bool
  | .done | .noMemory | .endless => true
  | .syncLoss | .unmatched => lockTaken
  | .short => !lockTaken
  | .shortProtected => false

theorem lostMsgOutcome_ne_leaks (lockTaken : Bool) (fate : Fate) :
    lostMsgOutcome lockTaken fate ≠ .leaks ↔ locksAgree lockTaken fate := by
  cases lockTaken <;> cases fate <;> simp [lostMsgOutcome, locksAgree]

theorem cmdOutcome_ne_leaks (lockTaken : Bool) (cmdCtrl : CmdCtrl) (pCmdExt : Option CmdExt)
    (rxDoneCnt : Byte) (rounds : List CmdRound) :
    cmdOutcome cfg lockTaken cmdCtrl pCmdExt rxDoneCnt rounds ≠ .leaks ↔
      ∀ fate ∈ stoppingFate cfg cmdCtrl pCmdExt rxDoneCnt rounds, locksAgree lockTaken fate := by
  induction rounds generalizing rxDoneCnt with
  | nil => simp [cmdOutcome, stoppingFate]
  | cons round rounds ih =>
      simp only [cmdOutcome, stoppingFate]
      split_ifs
      · simpa using lostMsgOutcome_ne_leaks lockTaken _
      · simp
      · exact ih _
      · simp
      · exact ih _

/-- Exactly when a command and the spawn context give both locks back. -/
theorem globalLock_givenBack_iff :
    (∀ (cmdCtrl : CmdCtrl) (pTxRxDescBuff : Option (ℕ → Byte)) (ext : Option CmdExt)
        (env : CmdEnv) (rx : List Byte) (writesLeft : ℕ) (cb : DriverCB),
      GivesBack (slDrvCmdOp cfg cmdCtrl pTxRxDescBuff ext env) (.start rx writesLeft cb) ↔
        (isLockRequired cfg cmdCtrl env ∧
          ¬env.globalLock.granted (cmdLockFlags cfg cmdCtrl pTxRxDescBuff)) ∨
        env.restartRequired ∨ writesLeft < transfers cmdCtrl ext pTxRxDescBuff ∨
        ∀ fate ∈ stoppingFate cfg cmdCtrl (ext.map signChanged) cb.rxDoneCnt env.rounds,
          locksAgree (isLockRequired cfg cmdCtrl env) fate) ∧
    ∀ (env : SpawnEnv) (rx : List Byte) (writesLeft : ℕ) (cb : DriverCB),
      GivesBack (slDrvMsgReadSpawnCtx cfg env) (.start rx writesLeft cb) ↔
        ¬env.globalLock.granted (noLockFlags cfg) ∨ env.rxIrqCnt = cb.rxDoneCnt ∨
        (env.deviceStarted ∨ env.deviceStartInProgress) ∧
          locksAgree true (msgFate cfg env.message cb.pCmdCtrl cb.pCmdExt) := by
  constructor
  · intro cmdCtrl pTxRxDescBuff ext env rx writesLeft cb
    have hrefused : (isLockRequired cfg cmdCtrl env ∧
        ¬env.globalLock.granted (cmdLockFlags cfg cmdCtrl pTxRxDescBuff)) ↔
        (isLockRequired cfg cmdCtrl env
          && !env.globalLock.granted (cmdLockFlags cfg cmdCtrl pTxRxDescBuff)) = true := by
      simp
    have hback : GivesBack (slDrvCmdOp cfg cmdCtrl pTxRxDescBuff ext env)
        (.start rx writesLeft cb) ↔
          cmdOpOutcome cfg cmdCtrl pTxRxDescBuff ext env writesLeft cb.rxDoneCnt ≠ .leaks :=
      givesBack_iff (ends_slDrvCmdOp cfg cmdCtrl pTxRxDescBuff ext env rfl)
    rw [hback, cmdOpOutcome, sentOutcome, ← cmdOutcome_ne_leaks, hrefused]
    split_ifs with hlock hrestart hwrites
    · exact iff_of_true (by simp) (.inl hlock)
    · exact iff_of_true (by simp) (.inr (.inl hrestart))
    · exact iff_of_true (by simp) (.inr (.inr (.inl hwrites)))
    · rw [or_iff_right hlock, or_iff_right hrestart, or_iff_right hwrites]
  · intro env rx writesLeft cb
    have hback : GivesBack (slDrvMsgReadSpawnCtx cfg env) (.start rx writesLeft cb) ↔
        spawnOutcome cfg env cb ≠ .leaks :=
      givesBack_iff (ends_slDrvMsgReadSpawnCtx cfg env rfl)
    rw [hback, spawnOutcome, ← lostMsgOutcome_ne_leaks]
    split_ifs with hgranted hpending hstarted
    · exact iff_of_true (by simp) (.inl (by simpa using hgranted))
    · exact iff_of_true (by simp) (.inr (.inl hpending))
    · rw [or_iff_right (by simpa using hgranted), or_iff_right hpending,
        and_iff_right (by simpa using hstarted)]
    · rw [or_iff_right (by simpa using hgranted), or_iff_right hpending]
      exact iff_of_false (by simp) fun hagrees => hstarted (by simpa using hagrees.1)

end GivesBack

section ShortResponse

/-- A small multi-threaded build without the socket-trigger handler. -/
def smallRxConfig : RxConfig where
  h2nSyncPattern := [0x21, 0x43, 0x34, 0x12]
  protocolHeader opcode len :=
    [opcode.setWidth 8, (opcode >>> 8).setWidth 8, len.setWidth 8, (len >>> 8).setWidth 8]
  calcLen cmdCtrl ext :=
    cmdCtrl.txDescLen.setWidth 16
      + (ext.map fun ext => ext.txPayload1Len + ext.txPayload2Len).getD 0
  opcodes :=
    { sync := 0x4000
      siloOffset := 8
      ipv6 := 0x0080
      deviceDeviceAsyncDummy := 0x0063
      deviceStopCommand := 0x8473
      deviceStopAsyncResponse := 0x0073
      deviceResetRequestAsyncEvent := 0x0099
      deviceInitComplete := 0x0008
      wlanProvisioningCommand := 0x8C98
      wlanProvisioningStatusAsyncEvent := 0x0C9A
      wlanProvisioningProfileAddedAsyncResponse := 0x0C9B
      socketAcceptAsyncResponse := 0x1003
      socketAcceptAsyncResponseV6 := 0x1083
      socketConnectAsyncResponse := 0x1006
      socketSocketCloseAsyncEvent := 0x1010
      socketSocketAsyncEvent := 0x100F
      socketRecvAsyncResponse := 0x100A
      socketRecvFromAsyncResponse := 0x1004
      socketRecvFromAsyncResponseV6 := 0x1084
      socketSelect := 0x9407
      socketSelectResponse := 0x5407
      socketSelectAsyncResponse := 0x1007
      netAppDnsGetHostByNameAsyncResponse := 0x1820
      netAppMdnsGetHostByServiceAsyncResponse := 0x1871
      netAppPingReportRequestResponse := 0x1822
      netAppReceive := 0x1877
      netAppHttpGetTokenValue := 0x1814
      netAppHttpPostTokenValue := 0x1815
      netAppRequest := 0x1879
      netAppResponse := 0x1878
      netAppSend := 0x187A
      netUtilCommandAsyncResponse := 0x2402
      nvmemFileOpen := 0xA43C
      nvmemNvmemFsProgrammingCommand := 0xA44A
      siloFS := 0x2000 }
  multiSelect := true
  flowContMin := 1
  maxConcurrentActions := 4
  slMaxSockets := 16
  slBsdSocketIdMask := 0x1F
  maxSocketEnumIdx := 16
  recvId := 26
  slNetAppFamilyMask := 0x80
  respHdrSize := 16
  respSpecHdrSize := 12
  slAsyncMaxMsgLen := 220
  slAsyncMaxPayloadLen := 204
  slAsyncMaxPayloadLen_aligned := by decide
  recvArgsSize := 4
  recvFromIpv4ArgsSize := 12
  recvFromIpv6ArgsSize := 24
  basicResponseSize := 4
  slDriverTimeoutShort := 10000
  slDriverTimeoutLong := 65535
  respHeader bytes :=
    { opcode := (bytes.getD 1 0).setWidth 16 <<< 8 ||| (bytes.getD 0 0).setWidth 16
      len := (bytes.getD 3 0).setWidth 16 <<< 8 ||| (bytes.getD 2 0).setWidth 16
      txPoolCnt := bytes.getD 4 0
      devStatus := bytes.getD 5 0
      minMaxPayload := (bytes.getD 7 0).setWidth 16 <<< 8 ||| (bytes.getD 6 0).setWidth 16
      socketTXFailure := (bytes.getD 9 0).setWidth 16 <<< 8 ||| (bytes.getD 8 0).setWidth 16
      socketNonBlocking :=
        (bytes.getD 11 0).setWidth 16 <<< 8 ||| (bytes.getD 10 0).setWidth 16 }
  socketResponseSd bytes := bytes.getD 2 0
  socketAsyncEventSd bytes := bytes.getD 0 0
  recvSd bytes := bytes.getD 2 0
  actDataSize bytes := (bytes.getD 1 0).setWidth 16 <<< 8 ||| (bytes.getD 0 0).setWidth 16
  basicResponseStatus bytes :=
    (bytes.getD 1 0).setWidth 16 <<< 8 ||| (bytes.getD 0 0).setWidth 16
  inactivityTimeoutSec desc := (desc 3).setWidth 16 <<< 8 ||| (desc 2).setWidth 16
  rxMsgClassLUT silo := some (.silo silo)
  beyondActionTable _ := { actionAsyncOpcode := 0, asyncEventHandler := none }

/-- Of a response with a descriptor of four bytes only the header arrives. -/
def shortResponse : MsgEnv where
  hdr := .header [0x00, 0x44, 16, 0, 10, 0, 0, 6, 0, 0, 0, 0]
  rx := []
  txSyncObjCount := 0
  asyncBufAllocated := true
  pool := Pool.slDrvDriverCBInit Pool.smallConfig
  pArgsSet := false
  pDataSet := false
  multiSelectCB := (messageCBInit 1).multiSelectCB

def shortRound : CmdRound where
  rxIrqCnt := 1
  message := shortResponse
  spawnInsert := { itemAllocated := true, bufferAllocated := true, pendingRespArgs := false }
  waitStatus := 0
  deviceStarted := true

def shortCmdEnv : CmdEnv where
  provisioningInProgress := false
  globalLock := freeGlobalLock
  restartRequired := false
  rounds := [shortRound]
  rxIrqCntAfter := 1

def shortSpawnEnv : SpawnEnv where
  globalLock := freeGlobalLock
  rxIrqCnt := 1
  deviceStarted := true
  deviceStartInProgress := false
  message := shortResponse
  handlerFlags := startedFlags

/-- A command whose response is short keeps the global lock, and so does the spawn
context that meets such a response. -/
theorem globalLock_kept_shortResponse :
    ¬(GivesBack (slDrvCmdOp smallRxConfig { opcode := 0x8400, txDescLen := 0, rxDescLen := 4 }
        none none shortCmdEnv) (.start [] 10 (messageCBInit 1)) ∨
      GivesBack (slDrvMsgReadSpawnCtx smallRxConfig shortSpawnEnv)
        (.start [] 10
          { messageCBInit 1 with
            pCmdCtrl := { opcode := 0x8400, txDescLen := 0, rxDescLen := 4 } })) := by
  rw [not_or]
  constructor
  · intro hback
    exact absurd (hback.2 (by decide)).1 (by decide)
  · intro hback
    exact absurd (hback.2 (by decide)).1 (by decide)

end ShortResponse

end SimpleLinkHost.CmdOpLocks
