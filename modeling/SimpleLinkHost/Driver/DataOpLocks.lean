import SimpleLinkHost.Driver.DataOp

/-!
# What a data operation gives back

One theorem for each part of a data operation says what the call holds when that
part ends, both when it falls through and when it returns from the middle.
Together they decide which calls return with the TX lock and the pool object
given back.
-/

namespace SimpleLinkHost.DataOpLocks

open CallOutcome Calls GlobalLock MsgWrite DataOp
open Pool (PoolError)

variable (cfg : DataConfig)

section Locks

variable {s : DrvState}

theorem completes_spawnWaitForSignal (rounds : ℕ) (s : DrvState) :
    Completes (spawnWaitForSignal rounds) s fun _ after => Reaches s s.held after := by
  induction rounds generalizing s with
  | zero => exact Reaches.refl.neutral rfl
  | succ rounds ih =>
      have hround : Reaches s s.held (s.after .internalSpawnWaitForEvent) :=
        Reaches.refl.neutral rfl
      rw [Completes, spawnWaitForSignal, ends_bind, ends_emit]
      apply (ih _).mono
      intro _ after hafter
      rw [hround.held] at hafter
      exact hround.trans hafter

theorem ends_txFlowControlWait (wait : FlowWait) (s : DrvState) :
    Ends (txFlowControlWait wait) s
      (fun _ after => wait.signalled ∧ Reaches s s.held after)
      fun ret after => ¬wait.signalled ∧ ret ≠ .noReturn ∧ Reaches s s.held after := by
  rw [txFlowControlWait]
  by_cases hspawn : wait.spawnOwnsGlobalLock
  · rw [if_pos hspawn]
    apply ((completes_spawnWaitForSignal _ s).mono _).ends
    intro _ after hafter
    exact ⟨by simp [FlowWait.signalled, hspawn], hafter⟩
  · have hsignalled : wait.signalled = (wait.waitStatus == 0 && !wait.restartRequired) := by
      simp [FlowWait.signalled, hspawn]
    rw [if_neg hspawn, hsignalled, ends_bind, ends_runIf]
    by_cases hstatus : wait.waitStatus = 0
    · cases hrestart : wait.restartRequired <;> simpa [hstatus, hrestart] using Reaches.refl
    · simpa [hstatus] using Reaches.refl.neutral rfl

theorem ends_takeTxPackets (least amount : ℕ) (env : TakePackets) (s : DrvState) :
    Ends (takeTxPackets least amount env) s
      (fun _ after => env.granted ∧
        Reaches s (holding (without s.held .txLockObj) .globalLockObj) after)
      fun ret after => ¬env.granted ∧ ret ≠ .noReturn ∧ Reaches s s.held after := by
  rw [takeTxPackets]
  apply Ends.bind (Ends.mono (ends_lockGlobalLockForever dataLockFlags env.globalLock s)
    (fun _ _ hlocked => hlocked) _)
  · intro _ locked hlocked
    obtain ⟨hlock, hreaches⟩ := hlocked
    cases hrestart : env.restartRequired with
    | false =>
        have hgranted : env.granted := by simp [TakePackets.granted, hlock, hrestart]
        rw [ends_bind, ends_runIf, if_neg Bool.false_ne_true]
        apply (completes_verifyProtocol _ locked).bind
        intro _ verified hverified
        have hlast := ((hreaches.trans hverified).neutral
          (rfl : lockEvent (.setTxPoolCnt (env.txPoolCnt - BitVec.ofNat 8 amount)) = none)).unlock
            .txLockObj
        rw [hreaches.held, without_holding_ne (by decide)] at hlast
        exact ⟨hgranted, hlast⟩
    | true =>
        have hgranted : env.granted = false := by simp [TakePackets.granted, hrestart]
        rw [ends_bind, ends_runIf, if_pos rfl]
        apply (completes_slDrvGlobalObjUnLock true locked).bind
        intro _ after hafter
        rw [hreaches.held, without_holding] at hafter
        simpa [hgranted] using hreaches.trans hafter
  · intro ret after hafter
    obtain ⟨hrefused, hreturn, hreaches⟩ := hafter
    have hgranted : env.granted = false := by simp [TakePackets.granted, hrefused]
    simpa [hgranted, hreturn] using hreaches

theorem completes_sendData (cmdCtrl : CmdCtrl) (ext : CmdExt)
    (pTxRxDescBuff : Option (ℕ → Byte)) (s : DrvState) :
    Completes (sendData cfg cmdCtrl ext pTxRxDescBuff) s fun ret after =>
      ret ≠ .noReturn ∧ after.held = without s.held .globalLockObj := by
  have hwrite : Completes (attempt stopsCaller
      (slDrvMsgWrite cfg.toProtocolConfig cmdCtrl (some ext) pTxRxDescBuff)) s
      fun sent after => retVal sent ≠ .noReturn ∧ after.held = s.held := by
    rw [Completes, ends_attempt]
    apply (ends_slDrvMsgWrite cfg.toProtocolConfig cmdCtrl (some ext) pTxRxDescBuff).mono
    · intro _ after hafter
      exact ⟨by simp [retVal], congrArg (·.1) hafter.2⟩
    · intro ret after hafter
      rw [hafter.1]
      exact ⟨by simp [retVal], hafter.2.2⟩
  apply hwrite.bind
  intro _ sent hsent
  apply (completes_slDrvGlobalObjUnLock true sent).bind
  intro _ after hafter
  exact ⟨hsent.1, by rw [hafter.held, hsent.2]⟩

theorem completes_endAsyncWait (timeout : ℕ) (opcode : BitVec 16)
    (expired restartRequired : Bool) (s : DrvState) :
    Completes (endAsyncWait timeout opcode expired restartRequired) s fun ret after =>
      ret ≠ .noReturn ∧ Reaches s s.held after := by
  rw [Completes, endAsyncWait]
  split
  · simpa using Reaches.refl.neutral rfl
  · split <;> simpa using Reaches.refl

theorem completes_slDrvWaitForInternalAsyncEvent (timeout : ℕ) (opcode : BitVec 16)
    (wait : AsyncWait) (s : DrvState) :
    Completes (slDrvWaitForInternalAsyncEvent timeout opcode wait) s fun ret after =>
      ret ≠ .noReturn ∧ Reaches s s.held after := by
  rw [slDrvWaitForInternalAsyncEvent]
  split
  · apply (completes_spawnWaitForSignal _ s).bind
    intro _ signalled hsignalled
    apply (completes_endAsyncWait _ _ _ _ signalled).mono
    intro ret after hafter
    rw [hsignalled.held] at hafter
    exact ⟨hafter.1, hsignalled.trans hafter.2⟩
  · exact completes_endAsyncWait _ _ _ _ s

theorem completes_waitForReceive (sd : Byte) (cmdCtrl : CmdCtrl) (env : ReadEnv)
    {sent : RetCode} (hsent : sent ≠ .noReturn) (s : DrvState) :
    Completes (waitForReceive cfg sd cmdCtrl env sent) s fun ret after =>
      ret ≠ .noReturn ∧ Reaches s s.held after := by
  rw [waitForReceive]
  split
  · exact ⟨hsent, Reaches.refl⟩
  · split <;> exact completes_slDrvWaitForInternalAsyncEvent _ _ _ s

theorem ends_readFlowControl (env : ReadEnv) (s : DrvState) :
    Ends (readFlowControl cfg env) s
      (fun _ after => env.proceeds cfg ∧ after.held = holding s.held .globalLockObj)
      fun ret after => ¬env.proceeds cfg ∧ ret ≠ .noReturn ∧
        after.held = holding s.held .txLockObj := by
  have hlocked := ((Reaches.refl (s := s)).lock .txLockObj).neutral
    (rfl : lockEvent (.syncClear .txSyncObj) = none)
  have htake := ends_takeTxPackets cfg.flowContMin 1 env.takePackets
  rw [readFlowControl, ends_bind, ends_emit, ends_bind, ends_emit, ends_bind, ends_runIf]
  by_cases hshort : env.txPoolCnt.toNat ≤ cfg.flowContMin
  · have hproceeds : env.proceeds cfg =
        (env.flowWait.signalled && env.takePackets.granted) := by
      simp [ReadEnv.proceeds, Nat.not_lt.mpr hshort]
    rw [if_pos hshort, hproceeds]
    apply (ends_txFlowControlWait env.flowWait _).mono
    · intro _ waited hwaited
      apply (htake waited).mono
      · intro _ after hafter
        refine ⟨by simp [hwaited.1, hafter.1], ?_⟩
        rw [hafter.2.held, hwaited.2.held, hlocked.held, without_holding]
      · intro ret after hafter
        refine ⟨by simp [hafter.1], hafter.2.1, ?_⟩
        rw [hafter.2.2.held, hwaited.2.held, hlocked.held]
    · intro ret after hafter
      exact ⟨by simp [hafter.1], hafter.2.1, by rw [hafter.2.2.held, hlocked.held]⟩
  · have hproceeds : env.proceeds cfg = env.takePackets.granted := by
      simp [ReadEnv.proceeds, Nat.lt_of_not_le hshort]
    rw [if_neg hshort, hproceeds]
    apply (htake _).mono
    · intro _ after hafter
      exact ⟨hafter.1, by rw [hafter.2.held, hlocked.held, without_holding]⟩
    · intro ret after hafter
      exact ⟨hafter.1, hafter.2.1, by rw [hafter.2.2.held, hlocked.held]⟩

/-- A receive that got its object ends with nothing left to give back, or returns
from the flow control with the TX lock and the object. -/
theorem ends_readWithPoolObj (sd : Byte) (cmdCtrl : CmdCtrl) (ext : CmdExt)
    (pTxRxDescBuff : Option (ℕ → Byte)) (env : ReadEnv) (objIdx : ℕ) (s : DrvState) :
    Ends (readWithPoolObj cfg sd cmdCtrl ext pTxRxDescBuff env objIdx) s
      (fun _ after => env.proceeds cfg ∧ after.held = without s.held (.poolObj objIdx))
      fun ret after => ¬env.proceeds cfg ∧ ret ≠ .noReturn ∧
        after.held = holding s.held .txLockObj := by
  have hset := (((Reaches.refl (s := s)).lock .protectionLockObj).neutral
    (rfl : lockEvent (.setRespArgs objIdx) = none)).unlock .protectionLockObj
  rw [without_holding] at hset
  rw [readWithPoolObj, protectionObjLockForever, protectionObjUnlock, ends_bind, ends_emit,
    ends_bind, ends_emit, ends_bind, ends_emit, ends_bind]
  apply (ends_readFlowControl cfg env _).mono
  · intro _ flowing hflowing
    apply (completes_sendData cfg cmdCtrl ext pTxRxDescBuff flowing).bind
    intro sent sending hsending
    apply (completes_waitForReceive cfg sd cmdCtrl env hsending.1 sending).bind
    intro _ received hreceived
    refine ⟨hflowing.1, ?_⟩
    rw [held_unlock, hreceived.2.held, hsending.2, hflowing.2, hset.held, without_holding]
  · intro _ after hafter
    exact ⟨hafter.1, hafter.2.1, by rw [hafter.2.2, hset.held]⟩

/-- A receive is turned away before it has a pool object. -/
def turnedAway (sd : Byte) (ext : CmdExt) (env : ReadEnv) : Bool :=
  ext.pRxPayload.isNone || decide (cfg.slMaxSockets ≤ socketID cfg sd) || !env.poolObj.isOk

theorem ends_waitForPoolObj (poolObj : Except PoolError ℕ) (s : DrvState) :
    Ends (waitForPoolObj poolObj) s
      (fun objIdx after => poolObj.isOk ∧ Reaches s (holding s.held (.poolObj objIdx)) after)
      fun ret after => poolObj.isOk = false ∧ ret ≠ .noReturn ∧ after.held = s.held := by
  match poolObj with
  | .ok objIdx => exact ⟨rfl, Reaches.refl.lock _⟩
  | .error .noObj => exact ⟨rfl, by simp, rfl⟩
  | .error .stopInProgress => exact ⟨rfl, by simp, rfl⟩

theorem ends_slDrvDataReadOp (sd : Byte) (cmdCtrl : CmdCtrl) (ext : CmdExt)
    (pTxRxDescBuff : Option (ℕ → Byte)) (env : ReadEnv) (s : DrvState) :
    Ends (slDrvDataReadOp cfg sd cmdCtrl ext pTxRxDescBuff env) s
      (fun _ after => env.proceeds cfg ∧ after.held = s.held)
      fun ret after => ret ≠ .noReturn ∧
        if turnedAway cfg sd ext env then after.held = s.held
        else ¬env.proceeds cfg ∧ ∃ objIdx,
          after.held = holding (holding s.held (.poolObj objIdx)) .txLockObj := by
  rw [slDrvDataReadOp, ends_bind]
  apply (ends_slAssertError ext.pRxPayload.isSome .invalidInput s).mono
  · intro _ asserted hasserted
    apply (completes_verifyProtocol _ asserted).bind
    intro _ verified hverified
    have hheld : verified.held = s.held := by rw [hverified.held, hasserted.2.held]
    rw [ends_bind, ends_returnIf]
    by_cases hsocket : cfg.slMaxSockets ≤ socketID cfg sd
    · simp [turnedAway, hsocket, hheld]
    · have haway : turnedAway cfg sd ext env = !env.poolObj.isOk := by
        simp [turnedAway, Option.isSome_iff_ne_none.mp hasserted.1, hsocket]
      rw [if_neg (by simpa using hsocket), ends_bind, haway]
      apply (ends_waitForPoolObj env.poolObj verified).mono
      · intro objIdx obtained hobtained
        rw [hheld] at hobtained
        apply (ends_readWithPoolObj cfg sd cmdCtrl ext pTxRxDescBuff env objIdx obtained).mono
        · intro _ after hafter
          exact ⟨hafter.1, by rw [hafter.2, hobtained.2.held, without_holding]⟩
        · intro ret after hafter
          refine ⟨hafter.2.1, ?_⟩
          rw [hobtained.1, if_neg (by simp)]
          exact ⟨hafter.1, objIdx, by rw [hafter.2.2, hobtained.2.held]⟩
      · intro ret after hafter
        simp [hafter.1, hafter.2.1, hafter.2.2, hheld]
  · intro ret after hafter
    have haway : turnedAway cfg sd ext env := by
      simp only [Option.isSome_iff_ne_none, not_not] at hafter
      simp [turnedAway, hafter.1]
    simp [haway, hafter.2.1, hafter.2.2.held]

/-- How the loop of a write ends. -/
inductive FlowOutcome
  | proceeds
  | returns
  /-- The wait failed, and the loop returned with the TX lock taken. -/
  | leaks
  | noReturn
deriving DecidableEq

def writeOutcome (sd : Byte) (ext : CmdExt) : List WriteRound → FlowOutcome
  | [] => .noReturn
  | round :: rounds =>
      if socketBit cfg round.socketTXFailure sd then .returns
      else if round.short cfg ext && socketBit cfg round.socketNonBlocking sd then .returns
      else if round.short cfg ext && !round.flowWait.signalled then .leaks
      else if round.enough cfg ext then .proceeds
      else writeOutcome sd ext rounds

/-- What a call of the loop holds when it returns early. -/
def WriteReturns (held : LockObj → Option ℕ) (ret : RetCode) (after : DrvState) :
    FlowOutcome → Prop
  | .proceeds => False
  | .returns => ret ≠ .noReturn ∧ after.held = held
  | .leaks => ret ≠ .noReturn ∧ after.held = holding held .txLockObj
  | .noReturn => ret = .noReturn

theorem ends_writeFlowControlWait (sd : Byte) (round : WriteRound) (s : DrvState) :
    Ends (writeFlowControlWait cfg sd round) s
      (fun _ after => ¬socketBit cfg round.socketNonBlocking sd ∧ round.flowWait.signalled ∧
        Reaches s s.held after)
      fun ret after => ret ≠ .noReturn ∧
        if socketBit cfg round.socketNonBlocking sd then
          after.held = without s.held .txLockObj
        else ¬round.flowWait.signalled ∧ after.held = s.held := by
  rw [writeFlowControlWait, ends_bind, ends_runIf]
  by_cases hnonBlocking : socketBit cfg round.socketNonBlocking sd
  · rw [if_pos hnonBlocking, ends_bind, ends_runIf]
    have hround := held_neutral (s := s) (rfl : lockEvent (.internalSpawnWaitForEvent) = none)
    by_cases hspawn : round.flowWait.spawnOwnsGlobalLock
    · simp [hnonBlocking, hspawn, held_unlock, hround]
    · simp [hnonBlocking, hspawn, held_unlock]
  · rw [if_neg hnonBlocking]
    apply (ends_txFlowControlWait round.flowWait s).mono
    · intro _ after hafter
      exact ⟨hnonBlocking, hafter⟩
    · intro ret after hafter
      rw [if_neg hnonBlocking]
      exact ⟨hafter.2.1, hafter.1, hafter.2.2.held⟩

theorem ends_writeFlowControl (sd : Byte) (ext : CmdExt) (rounds : List WriteRound)
    (s : DrvState) :
    Ends (writeFlowControl cfg sd ext rounds) s
      (fun _ after => writeOutcome cfg sd ext rounds = .proceeds ∧
        after.held = holding s.held .txLockObj)
      fun ret after => WriteReturns s.held ret after (writeOutcome cfg sd ext rounds) := by
  induction rounds generalizing s with
  | nil => exact rfl
  | cons round rounds ih =>
      have hlocked := ((Reaches.refl (s := s)).lock .txLockObj).neutral
        (rfl : lockEvent (.syncClear .txSyncObj) = none)
      have hlast : ∀ waited : DrvState, waited.held = holding s.held .txLockObj →
          Ends (if cfg.flowContMin + allocTxPoolPkts ext round < round.txPoolCntAfter.toNat then
              pure (allocTxPoolPkts ext round)
            else do
              emit (.unlock .txLockObj)
              writeFlowControl cfg sd ext rounds) waited
            (fun _ after => (if round.enough cfg ext then .proceeds
              else writeOutcome cfg sd ext rounds) = .proceeds ∧
                after.held = holding s.held .txLockObj)
            fun ret after => WriteReturns s.held ret after
              (if round.enough cfg ext then .proceeds else writeOutcome cfg sd ext rounds) := by
        intro waited hwaited
        by_cases henough : round.enough cfg ext
        · rw [WriteRound.enough, decide_eq_true_iff] at henough
          simpa [henough, WriteRound.enough] using hwaited
        · have hunlocked : (waited.after (.unlock .txLockObj)).held = s.held := by
            rw [held_unlock, hwaited, without_holding]
          have hrest := ih (waited.after (.unlock .txLockObj))
          rw [hunlocked] at hrest
          have hfew : ¬cfg.flowContMin + allocTxPoolPkts ext round
              < round.txPoolCntAfter.toNat := by
            simpa [WriteRound.enough] using henough
          rw [if_neg hfew, if_neg henough, ends_bind, ends_emit]
          exact hrest
      rw [writeFlowControl, ends_bind, ends_emit, ends_bind, ends_emit, ends_bind, ends_runIf]
      rw [writeOutcome]
      by_cases hfailed : socketBit cfg round.socketTXFailure sd
      · simp [hfailed, WriteReturns, held_unlock, hlocked.held]
      rw [if_neg hfailed, if_neg hfailed, ends_bind, ends_runIf]
      by_cases hshort : round.txPoolCnt.toNat ≤ cfg.flowContMin + allocTxPoolPkts ext round
      · have hround : round.short cfg ext := by simpa [WriteRound.short] using hshort
        rw [if_pos hshort, hround]
        apply (ends_writeFlowControlWait cfg sd round _).mono
        · intro _ waited hwaited
          have hheld := hwaited.2.2.held.trans hlocked.held
          simpa [hwaited.1, hwaited.2.1] using hlast waited hheld
        · intro ret after hafter
          rw [hlocked.held] at hafter
          by_cases hnonBlocking : socketBit cfg round.socketNonBlocking sd
          · simpa [hnonBlocking, WriteReturns] using hafter
          · rw [if_neg hnonBlocking] at hafter
            simpa [hnonBlocking, hafter.2.1, WriteReturns] using ⟨hafter.1, hafter.2.2⟩
      · have hround : round.short cfg ext = false := by simpa [WriteRound.short] using hshort
        rw [if_neg hshort, hround]
        simpa using hlast _ hlocked.held

/-- A write gives the TX lock back if its loop does, or ends in a message sent. -/
def writeClean (sd : Byte) (ext : CmdExt) (rounds : List WriteRound) (env : TakePackets) : Bool :=
  match writeOutcome cfg sd ext rounds with
  | .proceeds => env.granted
  | .returns | .noReturn => true
  | .leaks => false

theorem ends_slDrvDataWriteOp (sd : Byte) (cmdCtrl : CmdCtrl) (ext : CmdExt)
    (pTxRxDescBuff : Option (ℕ → Byte)) (rounds : List WriteRound) (env : TakePackets)
    (s : DrvState) :
    Ends (slDrvDataWriteOp cfg sd cmdCtrl ext pTxRxDescBuff rounds env) s
      (fun _ after => writeClean cfg sd ext rounds env ∧ after.held = s.held)
      fun ret after =>
        if writeClean cfg sd ext rounds env then ret ≠ .noReturn → after.held = s.held
        else ret ≠ .noReturn ∧ after.held = holding s.held .txLockObj := by
  rw [slDrvDataWriteOp, ends_bind]
  apply (ends_writeFlowControl cfg sd ext rounds s).mono
  · intro alloc flowing hflowing
    have hclean : writeClean cfg sd ext rounds env = env.granted := by
      rw [writeClean, hflowing.1]
    rw [hclean, ends_bind]
    apply (ends_takeTxPackets _ alloc env flowing).mono
    · intro _ taken htaken
      apply ((completes_sendData cfg cmdCtrl ext pTxRxDescBuff taken).mono _).ends
      intro _ after hafter
      refine ⟨htaken.1, ?_⟩
      rw [hafter.2, htaken.2.held, without_holding, hflowing.2, without_holding]
    · intro ret after hafter
      rw [if_neg hafter.1]
      exact ⟨hafter.2.1, by rw [hafter.2.2.held, hflowing.2]⟩
  · intro ret after hafter
    rw [writeClean]
    cases houtcome : writeOutcome cfg sd ext rounds <;> rw [houtcome] at hafter <;>
      simp_all [WriteReturns]

/-- A call that returns holds neither the TX lock nor an object of the pool. -/
def GivesBack (program : DrvM RetCode) (s : DrvState) : Prop :=
  Ends program s
    (fun _ after => after.held .txLockObj = some 0 ∧ ∀ index, after.held (.poolObj index) = some 0)
    fun ret after => ret ≠ .noReturn →
      after.held .txLockObj = some 0 ∧ ∀ index, after.held (.poolObj index) = some 0

section GivesBack

variable {program : DrvM RetCode} {rx : List Byte} {writesLeft : ℕ} {cb : DriverCB}

theorem givesBack_of_ends
    (hends : Ends program (.start rx writesLeft cb)
      (fun _ after => after.held = (DrvState.start rx writesLeft cb).held)
      fun ret after => ret ≠ .noReturn →
        after.held = (DrvState.start rx writesLeft cb).held) :
    GivesBack program (.start rx writesLeft cb) := by
  apply hends.mono
  · intro _ after hheld
    rw [hheld]
    exact ⟨rfl, fun _ => rfl⟩
  · intro ret after hheld hret
    rw [hheld hret]
    exact ⟨rfl, fun _ => rfl⟩

theorem not_givesBack_of_ends {s : DrvState}
    (hends : Ends program s (fun _ _ => False) fun ret after =>
      ret ≠ .noReturn ∧ after.held .txLockObj = some 1) : ¬GivesBack program s := by
  intro hback
  apply (hends.and hback).elim
  · exact fun _ _ hfalse => hfalse.1.elim
  · intro ret after hafter
    have hfree := (hafter.2 hafter.1.1).1
    rw [hafter.1.2] at hfree
    simp at hfree

end GivesBack

/-- A data operation gives back the TX lock and its pool object exactly when, past
its early checks, the flow-control wait is signalled, the global lock is granted,
and no error recovery begins meanwhile. -/
theorem dataOps_giveBack_iff (sd : Byte) (cmdCtrl : CmdCtrl) (ext : CmdExt)
    (pTxRxDescBuff : Option (ℕ → Byte)) (rx : List Byte) (writesLeft : ℕ) (cb : DriverCB) :
    (∀ env : ReadEnv,
      GivesBack (slDrvDataReadOp cfg sd cmdCtrl ext pTxRxDescBuff env) (.start rx writesLeft cb) ↔
        turnedAway cfg sd ext env ∨ env.proceeds cfg) ∧
    ∀ (rounds : List WriteRound) (env : TakePackets),
      GivesBack (slDrvDataWriteOp cfg sd cmdCtrl ext pTxRxDescBuff rounds env)
          (.start rx writesLeft cb) ↔
        writeClean cfg sd ext rounds env := by
  constructor
  · intro env
    have hends := ends_slDrvDataReadOp cfg sd cmdCtrl ext pTxRxDescBuff env
      (.start rx writesLeft cb)
    by_cases haway : turnedAway cfg sd ext env
    · simp only [haway, if_true, true_or, iff_true] at hends ⊢
      exact givesBack_of_ends (hends.mono (fun _ _ hafter => hafter.2)
        fun _ _ hafter _ => hafter.2)
    by_cases hproceeds : env.proceeds cfg
    · simp only [hproceeds, or_true, iff_true]
      apply givesBack_of_ends (hends.mono (fun _ _ hafter => hafter.2) _)
      intro ret after hafter
      rw [if_neg haway] at hafter
      exact absurd hproceeds hafter.2.1
    · simp only [haway, hproceeds, or_self, Bool.false_eq_true, iff_false]
      apply not_givesBack_of_ends (hends.mono (fun _ _ hafter => hproceeds hafter.1) _)
      intro ret after hafter
      rw [if_neg haway] at hafter
      obtain ⟨hret, _, objIdx, hheld⟩ := hafter
      exact ⟨hret, by rw [hheld]; rfl⟩
  · intro rounds env
    have hends := ends_slDrvDataWriteOp cfg sd cmdCtrl ext pTxRxDescBuff rounds env
      (.start rx writesLeft cb)
    by_cases hclean : writeClean cfg sd ext rounds env
    · simp only [hclean, if_true, iff_true] at hends ⊢
      exact givesBack_of_ends (hends.mono (fun _ _ hafter => hafter.2) fun _ _ hafter => hafter)
    · simp only [hclean, Bool.false_eq_true, iff_false]
      apply not_givesBack_of_ends (hends.mono (fun _ _ hafter => hclean hafter.1) _)
      intro ret after hafter
      rw [if_neg hclean] at hafter
      exact ⟨hafter.1, by rw [hafter.2]; rfl⟩

end Locks

section Timeout

/-- One packet is kept back and sixteen sockets exist. -/
def smallDataConfig : DataConfig where
  h2nSyncPattern := [0x21, 0x43, 0x34, 0x12]
  protocolHeader opcode len :=
    [opcode.setWidth 8, (opcode >>> 8).setWidth 8, len.setWidth 8, (len >>> 8).setWidth 8]
  calcLen cmdCtrl ext := BitVec.ofNat 16 (alignSize cmdCtrl.txDescLen.toNat
    + (ext.map fun ext => alignSize (ext.txPayload1Len.toNat + ext.txPayload2Len.toNat)).getD 0)
  flowContMin := 1
  slMaxSockets := 16
  slBsdSocketIdMask := 0xF
  slDriverTimeoutShort := 10000
  slOpcodeSocketRecv := 0x9402
  slOpcodeSocketRecvAsyncResponse := 0x1402
  slOpcodeSocketRecvFromAsyncResponse := 0x1403

/-- The ten seconds pass without a signal on `TxSyncObj`. -/
def timedOutWait : FlowWait where
  spawnOwnsGlobalLock := false
  spawnRounds := 0
  waitStatus := -1
  restartRequired := false

def timedOutRead : ReadEnv where
  poolObj := .ok 0
  txPoolCnt := 1
  flowWait := timedOutWait
  takePackets := { globalLock := freeGlobalLock, restartRequired := false, txPoolCnt := 2 }
  socketNonBlocking := 0
  asyncWait := { timedOutWait with timeoutExpired := false }

def timedOutRound : WriteRound where
  minTxPayloadSize := 1536
  socketTXFailure := 0
  socketNonBlocking := 0
  txPoolCnt := 1
  flowWait := timedOutWait
  txPoolCntAfter := 1

/-- A command with one short payload and room for a response. -/
def shortExt : CmdExt where
  pRxPayload := some fun _ => 0
  rxPayloadLen := 100
  actualRxPayloadLen := 0
  txPayload1Len := 100
  pTxPayload1 := fun _ => 0
  txPayload2Len := 0
  pTxPayload2 := fun _ => 0

/-- A timed-out receive keeps the TX lock and its pool object, and a timed-out send
keeps the TX lock. -/
theorem dataOps_keep_timedOut :
    ¬(GivesBack (slDrvDataReadOp smallDataConfig 0
        { opcode := 0x9402, txDescLen := 4, rxDescLen := 0 } shortExt none timedOutRead)
        (.start [] 10 (messageCBInit 1)) ∨
      GivesBack (slDrvDataWriteOp smallDataConfig 0
        { opcode := 0x9401, txDescLen := 4, rxDescLen := 0 } shortExt none [timedOutRound]
        timedOutRead.takePackets) (.start [] 10 (messageCBInit 1))) := by
  rw [not_or]
  constructor
  · apply not_givesBack_of_ends
    exact ⟨by decide, by decide⟩
  · apply not_givesBack_of_ends
    exact ⟨by decide, by decide⟩

end Timeout

end SimpleLinkHost.DataOpLocks
