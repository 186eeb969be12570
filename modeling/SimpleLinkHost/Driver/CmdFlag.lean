import SimpleLinkHost.Driver.CmdOpLocks

/-!
# When a command lets go of the receive path

`_SlDrvCmdOp` sets `WaitForCmdResp` before it writes its message, and as long as the flag
is set `_SlDrvRxIrqHandler` signals the command and not the spawn task.  Every return of
`_SlDrvMsgReadCmdCtx` clears the flag, whatever becomes of the messages it reads; the
return behind a failed write does not.
-/

namespace SimpleLinkHost.CmdFlag

open CallOutcome Calls GlobalLock MsgWrite RxMsg MsgRead CmdOp CmdOpLocks

/-- `WaitForCmdResp` is FALSE wherever the call returns. -/
def ClearsFlag (program : DrvM Unit) (s : DrvState) : Prop :=
  Ends program s (fun _ after => after.cb.waitForCmdResp = false)
    fun ret after => ret ≠ .noReturn → after.cb.waitForCmdResp = false

variable (cfg : RxConfig)

/-- The call gets as far as setting the flag. -/
def setsFlag (cmdCtrl : CmdCtrl) (pTxRxDescBuff : Option (ℕ → Byte)) (env : CmdEnv) : Bool :=
  !(isLockRequired cfg cmdCtrl env
    && !env.globalLock.granted (cmdLockFlags cfg cmdCtrl pTxRxDescBuff)) && !env.restartRequired

variable {s : DrvState} {lockRequired : Bool}

section Flag

/-- Giving the lock back leaves the control block. -/
theorem flag_unlockIfRequired :
    Completes (unlockIfRequired lockRequired) s fun _ after => after.cb = s.cb := by
  rw [unlockIfRequired, Completes, ends_runIf]
  split
  · apply (completes_slDrvGlobalObjUnLock true s).mono
    exact fun _ _ hafter => hafter.cb
  · rfl

theorem flag_abandonCmd (ret : RetCode) :
    Ends (abandonCmd lockRequired ret) s (fun _ _ => False)
      fun _ after => after.cb.waitForCmdResp = false := by
  rw [abandonCmd, ends_bind, ends_modifyCB]
  apply flag_unlockIfRequired.bind
  intro _ after hafter
  rw [ends_throw, hafter]
  rfl

/-- A message that was not read clears the flag, unless the call is still searching. -/
theorem flag_readCmdMsg (round : CmdRound) :
    Ends (readCmdMsg cfg lockRequired round) s (fun _ _ => True)
      fun ret after => ret ≠ .noReturn → after.cb.waitForCmdResp = false := by
  rw [readCmdMsg, ends_bind, ends_attempt]
  apply ends_run.mono
  · intro out read _
    rw [ends_bind, ends_modifyCB, ends_bind, ends_get]
    apply ((completes_handleCmdMsg round.spawnInsert out _).mono _).ends
    exact fun _ _ _ => trivial
  · intro ret lost _
    split
    · rename_i hstops
      intro hret
      exact absurd (of_decide_eq_true hstops) hret
    · apply (flag_abandonCmd ret).mono
      · exact fun _ _ hfalse => hfalse.elim
      · exact fun _ _ hflag _ => hflag

theorem flag_waitForCmdMsg (cmdOpcode : BitVec 16) (round : CmdRound) :
    Ends (waitForCmdMsg cfg cmdOpcode lockRequired round) s (fun _ _ => True)
      fun _ after => after.cb.waitForCmdResp = false := by
  rw [waitForCmdMsg, ends_runIf]
  split
  · rw [ends_bind, ends_modifyCB]
    apply flag_unlockIfRequired.bind
    intro _ unlocked hunlocked
    rw [ends_bind, ends_runIf]
    split
    · rw [ends_emit, ends_throw, DrvState.after_cb, hunlocked]
      rfl
    · rw [ends_throw, hunlocked]
      rfl
  · trivial

/-- The loop goes on as long as the flag is set. -/
theorem clearsFlag_readUntilCmdResp (cmdOpcode : BitVec 16) (rounds : List CmdRound) :
    ClearsFlag (readUntilCmdResp cfg cmdOpcode lockRequired rounds) s := by
  induction rounds generalizing s with
  | nil =>
      rw [ClearsFlag, readUntilCmdResp, ends_bind, ends_get, ends_returnIf]
      split
      · exact fun hret => absurd rfl hret
      · rename_i hflag
        exact Bool.eq_false_of_not_eq_true hflag
  | cons round rounds ih =>
      rw [ClearsFlag, readUntilCmdResp, ends_bind, ends_get, ends_ite]
      split
      · rw [ends_ite]
        split
        · apply (flag_readCmdMsg cfg round).bind
          exact fun _ _ _ => ih
        · rw [ends_bind]
          apply (flag_waitForCmdMsg cfg cmdOpcode round).mono
          · exact fun _ _ _ => ih
          · exact fun _ _ hflag _ => hflag
      · rename_i hflag
        exact Bool.eq_false_of_not_eq_true hflag

theorem clearsFlag_slDrvMsgReadCmdCtx (cmdOpcode : BitVec 16) (env : CmdEnv) :
    ClearsFlag (slDrvMsgReadCmdCtx cfg cmdOpcode lockRequired env) s := by
  apply (clearsFlag_readUntilCmdResp cfg cmdOpcode env.rounds).bind
  intro _ responded hflag
  have hcount : Completes slSpawnMsgListGetCount responded
      fun _ after => after.cb = responded.cb := by
    rw [Completes, slSpawnMsgListGetCount, protectionObjLockForever, protectionObjUnlock]
    rw [ends_bind, ends_get, ends_bind, ends_emit, ends_bind, ends_emit]
    rfl
  apply hcount.bind
  intro count counted hcounted
  have hspawn : ∀ {cond : Prop} [Decidable cond] {act : DrvAct} {at' : DrvState},
      Completes (runIf cond (emit act)) at' fun _ after => after.cb = at'.cb := by
    intro cond _ act at'
    rw [Completes, ends_runIf]
    split <;> rfl
  apply hspawn.bind
  intro _ spawned hspawned
  apply flag_unlockIfRequired.bind
  intro _ unlocked hunlocked
  rw [ends_bind, ends_get]
  apply Completes.ends
  apply hspawn.mono
  intro _ after hafter
  rw [hafter, hunlocked, hspawned, hcounted, hflag]

end Flag

section Command

/-- Behind the write the flag is cleared exactly if the write has succeeded. -/
theorem ends_sendCmd_flag (cmdCtrl : CmdCtrl) (pTxRxDescBuff : Option (ℕ → Byte))
    (ext : Option CmdExt) (env : CmdEnv) :
    Ends (sendCmd cfg cmdCtrl pTxRxDescBuff ext lockRequired env) s
      (fun _ after => transfers cmdCtrl ext pTxRxDescBuff ≤ s.writesLeft ∧
        after.cb.waitForCmdResp = false)
      fun ret after => if transfers cmdCtrl ext pTxRxDescBuff ≤ s.writesLeft then
          ret ≠ .noReturn → after.cb.waitForCmdResp = false
        else ret ≠ .noReturn ∧ after.cb.waitForCmdResp = true := by
  rw [sendCmd, ends_bind, ends_modifyCB, ends_bind, ends_attempt]
  apply (ends_slDrvMsgWrite_view cfg.toProtocolConfig cmdCtrl ext pTxRxDescBuff).mono
  · rintro - sent ⟨hwrites, -⟩
    rw [DrvState.changeCB_writesLeft] at hwrites
    apply (clearsFlag_slDrvMsgReadCmdCtx cfg cmdCtrl.opcode env).mono
    · exact fun _ _ hflag => ⟨hwrites, hflag⟩
    · intro ret after hflag
      rwa [if_pos hwrites]
  · rintro ret lost ⟨rfl, hwrites, hview⟩
    rw [DrvState.changeCB_writesLeft] at hwrites
    have hset : lost.cb.waitForCmdResp = true := congrArg (·.2.2.1.waitForCmdResp) hview
    rw [if_neg (by decide)]
    apply flag_unlockIfRequired.bind
    intro _ after hafter
    rw [ends_throw, if_neg (by omega), hafter]
    exact ⟨by simp, hset⟩

/-- What comes before the flag is set leaves it as it is. -/
theorem ends_lockIfRequired_flag (flags : GlobalLockFlags) (env : GlobalLockEnv) :
    Ends (runIf lockRequired (lockGlobalLockForever flags env)) s
      (fun _ after => (lockRequired && !env.granted flags) = false ∧
        after.writesLeft = s.writesLeft ∧ after.cb = s.cb)
      fun ret after => (lockRequired && !env.granted flags) = true ∧ ret ≠ .noReturn ∧
        after.cb = s.cb := by
  rw [ends_runIf]
  cases lockRequired with
  | false => exact ⟨rfl, rfl, rfl⟩
  | true =>
      apply (ends_lockGlobalLockForever flags env s).mono
      · rintro - after ⟨hgranted, hreaches⟩
        exact ⟨by simp [hgranted], hreaches.writesLeft, hreaches.cb⟩
      · rintro ret after ⟨hgranted, hret, hreaches⟩
        exact ⟨by simp [hgranted], hret, hreaches.cb⟩

/-- How a command leaves the flag. -/
theorem ends_slDrvCmdOp_flag (cmdCtrl : CmdCtrl) (pTxRxDescBuff : Option (ℕ → Byte))
    (ext : Option CmdExt) (env : CmdEnv) :
    Ends (slDrvCmdOp cfg cmdCtrl pTxRxDescBuff ext env) s
      (fun _ after => setsFlag cfg cmdCtrl pTxRxDescBuff env = true ∧
        transfers cmdCtrl ext pTxRxDescBuff ≤ s.writesLeft ∧ after.cb.waitForCmdResp = false)
      fun ret after => if setsFlag cfg cmdCtrl pTxRxDescBuff env then
          if transfers cmdCtrl ext pTxRxDescBuff ≤ s.writesLeft then
            ret ≠ .noReturn → after.cb.waitForCmdResp = false
          else ret ≠ .noReturn ∧ after.cb.waitForCmdResp = true
        else ret ≠ .noReturn ∧ after.cb.waitForCmdResp = s.cb.waitForCmdResp := by
  rw [slDrvCmdOp, ends_bind]
  apply (ends_lockIfRequired_flag (cmdLockFlags cfg cmdCtrl pTxRxDescBuff) env.globalLock).mono
  · rintro - locked ⟨hgranted, hwrites, hcb⟩
    rw [ends_bind, ends_runIf, setsFlag, hgranted]
    cases env.restartRequired with
    | true =>
        rw [if_pos rfl]
        apply flag_unlockIfRequired.bind
        intro _ after hafter
        rw [ends_throw, if_neg (by simp), hafter, hcb]
        exact ⟨by simp, rfl⟩
    | false =>
        rw [if_neg (by simp), ← hwrites]
        apply (ends_sendCmd_flag cfg cmdCtrl pTxRxDescBuff ext env).mono
        · exact fun _ _ hafter => ⟨by simp, hafter⟩
        · intro ret after hafter
          rwa [if_pos (by simp)]
  · rintro ret after ⟨hrefused, hret, hcb⟩
    rw [setsFlag, hrefused, if_neg (by simp), hcb]
    exact ⟨hret, rfl⟩

/-- A command that comes as far as setting the flag clears it exactly if all its writes
succeed; one that comes less far leaves it. -/
theorem clearsFlag_slDrvCmdOp_iff (cmdCtrl : CmdCtrl) (pTxRxDescBuff : Option (ℕ → Byte))
    (ext : Option CmdExt) (env : CmdEnv) (s : DrvState) :
    ClearsFlag (slDrvCmdOp cfg cmdCtrl pTxRxDescBuff ext env) s ↔
      if setsFlag cfg cmdCtrl pTxRxDescBuff env then
        transfers cmdCtrl ext pTxRxDescBuff ≤ s.writesLeft
      else s.cb.waitForCmdResp = false := by
  have hends := ends_slDrvCmdOp_flag (s := s) cfg cmdCtrl pTxRxDescBuff ext env
  constructor
  · intro hclears
    apply (hends.and hclears).elim
    · rintro - after ⟨⟨hsets, hwrites, -⟩, -⟩
      rwa [if_pos hsets]
    · rintro ret after ⟨hreturns, hflag⟩
      split_ifs at hreturns ⊢ with hsets hwrites
      · exact hwrites
      · have hcleared := hflag hreturns.1
        rw [hreturns.2] at hcleared
        cases hcleared
      · rw [← hreturns.2]
        exact hflag hreturns.1
  · intro hcond
    apply hends.mono
    · exact fun _ _ hafter => hafter.2.2
    · intro ret after hreturns hret
      split_ifs at hreturns hcond
      · exact hreturns hret
      · rw [hreturns.2]
        exact hcond

/-- A command whose first write falls short leaves the flag set. -/
theorem flag_kept_failedWrite :
    ¬ClearsFlag (slDrvCmdOp smallRxConfig { opcode := 0x8400, txDescLen := 0, rxDescLen := 4 }
      none none shortCmdEnv) (.start [] 0 (messageCBInit 1)) := by
  intro hclears
  exact absurd (hclears (by decide)) (by decide)

end Command

end SimpleLinkHost.CmdFlag
