import SimpleLinkHost.Driver.CmdOpLocks
import SimpleLinkHost.Driver.MsgParts

/-!
# A select response with an error

The branch for a select response with an error status wakes all waiting callers of select
and then clears the whole of `MultiSelectCB`: the table, and with it the handles of its two
objects and the number of the control socket.  The caller of `_SlDrvMsgRead` goes on to
signal `SelectSyncObj`, whose handle is gone by then.
-/

namespace SimpleLinkHost.SelectFailure

open CallOutcome Calls GlobalLock MsgWrite RxMsg MsgRead MsgParts MsgFate CmdOp

variable (cfg : RxConfig)

/-- The message is a whole select response with an error status. -/
def IsSelectError (env : MsgEnv) (cmdOpcode : BitVec 16) : Prop :=
  msgClass cfg env cmdOpcode = .multiSelectResp ∧
    alignSize cfg.basicResponseSize ≤ env.rx.length ∧
    cfg.basicResponseStatus (env.rx.take (alignSize cfg.basicResponseSize)) ≠ 0

/-- The control block behind `_SlDrvMemZero`. -/
def zeroedSelectCB : MultiSelectCB where
  ctrlSockFD := 0
  activeSelect := false
  selectEntry _ := false
  readsds := 0
  writesds := 0
  selectCmdRespStatus := 0
  selectLockObj := 0
  selectSyncObj := 0

/-- The callers that wait for select are signalled between `s` and `after`. -/
def WakesEntries (selects : MultiSelectCB) (s after : DrvState) : Prop :=
  ∃ taken, after.acts = s.acts ++ taken ∧
    ∀ index < cfg.maxConcurrentActions, selects.selectEntry index = true →
      .syncSignal (.poolObj index) ∈ taken

/-- Select is over for everybody, and ready for the next time. -/
structure SelectStopped (selects : MultiSelectCB) (s after : DrvState) : Prop where
  woken : WakesEntries cfg selects s after
  entries : ∀ index, after.cb.multiSelectCB.selectEntry index = false
  readsds : after.cb.multiSelectCB.readsds = 0
  writesds : after.cb.multiSelectCB.writesds = 0
  activeSelect : after.cb.multiSelectCB.activeSelect = false
  selectLockObj : after.cb.multiSelectCB.selectLockObj = selects.selectLockObj
  selectSyncObj : after.cb.multiSelectCB.selectSyncObj = selects.selectSyncObj
  ctrlSockFD : after.cb.multiSelectCB.ctrlSockFD = 0xFF

/-- What is left of it: the callers are woken and the table is empty. -/
structure SelectCleared (selects : MultiSelectCB) (s after : DrvState) : Prop where
  woken : WakesEntries cfg selects s after
  cleared : after.cb.multiSelectCB = zeroedSelectCB

section Cleared

variable {s middle after : DrvState} {selects : MultiSelectCB}

theorem not_selectStopped (hcleared : SelectCleared cfg selects s after) :
    ¬SelectStopped cfg selects s after := by
  intro hstopped
  have hctrl := hstopped.ctrlSockFD
  rw [hcleared.cleared] at hctrl
  exact absurd hctrl (by decide)

/-- Actions of the same call around the wake-up. -/
theorem WakesEntries.mono {last : DrvState} (front back : List DrvAct)
    (hwakes : WakesEntries cfg selects middle after) (hfront : middle.acts = s.acts ++ front)
    (hback : last.acts = after.acts ++ back) : WakesEntries cfg selects s last := by
  obtain ⟨taken, hacts, hsignals⟩ := hwakes
  refine ⟨front ++ taken ++ back, ?_, fun index hindex hentry => ?_⟩
  · rw [hback, hacts, hfront]
    simp
  · have hmem := hsignals index hindex hentry
    simp [hmem]

theorem completes_signalSelectEntries (selectEntry : ℕ → Bool) (count : ℕ) :
    Completes (signalSelectEntries selectEntry count) s fun _ after =>
      after.cb = s.cb ∧ ∃ taken, after.acts = s.acts ++ taken ∧
        ∀ index < count, selectEntry index = true → .syncSignal (.poolObj index) ∈ taken := by
  induction count with
  | zero => exact ⟨rfl, [], by simp, by simp⟩
  | succ count ih =>
      rw [Completes, signalSelectEntries]
      apply Completes.bind ih
      rintro - signalled ⟨hcb, taken, hacts, hsignals⟩
      rw [ends_runIf]
      split
      · refine ⟨hcb, taken ++ [.syncSignal (.poolObj count)], ?_, fun index hindex hentry => ?_⟩
        · change signalled.acts ++ [_] = _
          rw [hacts, List.append_assoc]
        · rcases Nat.lt_succ_iff_lt_or_eq.mp hindex with hbefore | rfl
          · exact List.mem_append_left _ (hsignals index hbefore hentry)
          · simp
      · rename_i hnobody
        refine ⟨hcb, taken, hacts, fun index hindex hentry => ?_⟩
        rcases Nat.lt_succ_iff_lt_or_eq.mp hindex with hbefore | rfl
        · exact hsignals index hbefore hentry
        · exact absurd hentry hnobody

theorem completes_failSelect :
    Completes (failSelect cfg) s fun _ after =>
      SelectCleared cfg s.cb.multiSelectCB s after ∧ after.cb.asyncExt = s.cb.asyncExt := by
  rw [Completes, failSelect, ends_bind, ends_get]
  apply (completes_signalSelectEntries s.cb.multiSelectCB.selectEntry
    cfg.maxConcurrentActions).bind
  rintro - signalled ⟨hcb, hwakes⟩
  rw [ends_modifyCB]
  exact ⟨⟨hwakes, rfl⟩, congrArg (·.asyncExt) hcb⟩

end Cleared

section Message

variable {s : DrvState}

theorem completes_readMultiSelectResp (hlong : alignSize cfg.basicResponseSize ≤ s.rx.length)
    (hstatus : cfg.basicResponseStatus (s.rx.take (alignSize cfg.basicResponseSize)) ≠ 0) :
    Completes (readMultiSelectResp cfg) s fun _ after =>
      SelectCleared cfg s.cb.multiSelectCB s after ∧ after.cb.asyncExt = s.cb.asyncExt := by
  rw [Completes, readMultiSelectResp, ends_bind, nwpIfReadCheck, ends_bind, ends_get,
    if_pos hlong]
  change Ends (runIf _ (failSelect cfg)) _ _ _
  rw [ends_runIf, if_pos hstatus]
  apply (completes_failSelect cfg).mono
  rintro - after ⟨hcleared, hext⟩
  exact ⟨⟨hcleared.woken.mono cfg [_] [] rfl (List.append_nil _).symm, hcleared.cleared⟩, hext⟩

/-- `_SlDrvMsgRead` on a select response with an error. -/
theorem completes_slDrvMsgRead_selectError (env : MsgEnv)
    (herror : IsSelectError cfg env s.cb.pCmdCtrl.opcode) :
    Completes (slDrvMsgRead cfg env) s fun _ after =>
      SelectCleared cfg env.multiSelectCB s after ∧
        after.cb.asyncExt.rxMsgClass = .multiSelectResp := by
  obtain ⟨hclass, hlong, hstatus⟩ := herror
  cases hhdr : env.hdr with
  | shortTransfer | timeout => simp [msgClass, hhdr] at hclass
  | header bytes =>
      rw [msgClass, hhdr] at hclass
      rw [Completes, slDrvMsgRead, ends_bind, ends_modify, hhdr]
      change Ends (updateNwpStatus cfg (cfg.respHeader bytes) env.txSyncObjCount >>= _) _ _ _
      apply (completes_updateNwpStatus_frame cfg (cfg.respHeader bytes) env.txSyncObjCount).bind
      rintro - updated ⟨hupdatedRx, hctrl, hupdated, front, hfront, -⟩
      apply (completes_slDrvClassifyRxMsg_frame cfg (cfg.respHeader bytes).opcode).bind
      rintro rxMsgClass classified ⟨hmsgClass, hext, hrx, hselects, hacts⟩
      have hsame : classified.rx = env.rx := hrx.trans hupdatedRx
      have hselect : rxMsgClass = .multiSelectResp := by
        rw [hmsgClass, hctrl]
        exact hclass
      rw [hselect, readPayload, ends_bind, ends_bind]
      apply ((completes_readMultiSelectResp (s := classified) cfg (by rwa [hsame])
        (by rwa [hsame])).mono _).ends
      rintro - read ⟨hcleared, hreadExt⟩
      rw [hselects, hupdated] at hcleared
      refine ⟨⟨hcleared.woken.mono cfg front [_] (hacts.trans hfront) rfl, hcleared.cleared⟩, ?_⟩
      calc read.cb.asyncExt.rxMsgClass = classified.cb.asyncExt.rxMsgClass :=
            congrArg (·.rxMsgClass) hreadExt
        _ = rxMsgClass := hext
        _ = .multiSelectResp := hselect

end Message

section Callers

variable {s : DrvState}

/-- In command context the select object is signalled next. -/
theorem completes_readCmdMsg_selectError (lockRequired : Bool) (round : CmdRound)
    (herror : IsSelectError cfg round.message s.cb.pCmdCtrl.opcode) :
    Completes (readCmdMsg cfg lockRequired round) s fun _ after =>
      SelectCleared cfg round.message.multiSelectCB s after ∧
        .syncSignal .selectSyncObj ∈ after.acts := by
  rw [Completes, readCmdMsg, ends_bind, ends_attempt]
  apply ((completes_slDrvMsgRead_selectError cfg round.message herror).mono _).ends
  rintro out read ⟨hcleared, hclass⟩
  rw [ends_bind, ends_modifyCB, ends_bind, ends_get, DrvState.changeCB_cb, hclass]
  refine ⟨⟨hcleared.woken.mono cfg [] [_] (List.append_nil _).symm rfl, hcleared.cleared⟩, ?_⟩
  exact List.mem_append_right _ (List.mem_singleton_self _)

/-- In the spawn context the select object is signalled too, and the lock given back. -/
theorem completes_readSpawnMsg_selectError (env : SpawnEnv)
    (herror : IsSelectError cfg env.message s.cb.pCmdCtrl.opcode) :
    Completes (readSpawnMsg cfg env) s fun _ after =>
      SelectCleared cfg env.message.multiSelectCB s after ∧
        .syncSignal .selectSyncObj ∈ after.acts := by
  rw [Completes, readSpawnMsg, ends_bind, ends_attempt]
  apply ((completes_slDrvMsgRead_selectError cfg env.message herror).mono _).ends
  rintro out read ⟨hcleared, hclass⟩
  rw [ends_bind, ends_modifyCB, ends_bind, ends_get, DrvState.changeCB_cb, hclass, ends_bind,
    handleSpawnMsg, if_pos (CmdOpLocks.multiSelect_of_msgClass cfg herror.1), ends_emit]
  refine ⟨⟨hcleared.woken.mono cfg [] [_, _] (List.append_nil _).symm
    (List.append_assoc _ [_] [_]), hcleared.cleared⟩, ?_⟩
  exact List.mem_append_left _ (List.mem_append_right _ (List.mem_singleton_self _))

open CmdOpLocks (smallRxConfig shortResponse shortRound shortSpawnEnv)

/-- A select response with the status -1, while two callers wait. -/
def failedSelect : MsgEnv where
  __ := shortResponse
  hdr := .header [0x07, 0x54, 16, 0, 10, 0, 0, 6, 0, 0, 0, 0]
  rx := [0xFF, 0xFF, 0, 0]
  multiSelectCB :=
    { ctrlSockFD := 0xFF
      activeSelect := true
      selectEntry := fun index => index < 2
      readsds := 3
      writesds := 0
      selectCmdRespStatus := 0
      selectLockObj := 7
      selectSyncObj := 8 }

theorem isSelectError_failedSelect :
    IsSelectError smallRxConfig failedSelect (messageCBInit 1).pCmdCtrl.opcode :=
  ⟨by decide, by decide, by decide⟩

/-- The number of the control socket is lost. -/
theorem ctrlSockFD_lost_failedSelect :
    ¬Completes (readCmdMsg smallRxConfig true { shortRound with message := failedSelect })
      (.start [] 10 (messageCBInit 1)) fun _ after =>
        SelectStopped smallRxConfig failedSelect.multiSelectCB (.start [] 10 (messageCBInit 1))
          after := by
  intro hstopped
  apply (Ends.and (completes_readCmdMsg_selectError smallRxConfig true
    { shortRound with message := failedSelect } isSelectError_failedSelect) hstopped).elim
  · exact fun _ _ hafter => not_selectStopped smallRxConfig hafter.1.1 hafter.2
  · exact fun _ _ hfalse => hfalse.1

/-- After a select response with an error, read by a command or by the spawn task, the
control block is never as it was after `_SlDrvDriverCBInit`. -/
theorem not_selectStopped_of_selectError (s : DrvState) :
    (∀ lockRequired round, IsSelectError cfg round.message s.cb.pCmdCtrl.opcode →
      ¬Completes (readCmdMsg cfg lockRequired round) s
        fun _ after => SelectStopped cfg round.message.multiSelectCB s after) ∧
    ∀ env : SpawnEnv, IsSelectError cfg env.message s.cb.pCmdCtrl.opcode →
      ¬Completes (readSpawnMsg cfg env) s
        fun _ after => SelectStopped cfg env.message.multiSelectCB s after := by
  constructor
  · intro lockRequired round herror hstopped
    apply (Ends.and (completes_readCmdMsg_selectError cfg lockRequired round herror)
      hstopped).elim
    · exact fun _ _ hafter => not_selectStopped cfg hafter.1.1 hafter.2
    · exact fun _ _ hfalse => hfalse.1
  · intro env herror hstopped
    apply (Ends.and (completes_readSpawnMsg_selectError cfg env herror) hstopped).elim
    · exact fun _ _ hafter => not_selectStopped cfg hafter.1.1 hafter.2
    · exact fun _ _ hfalse => hfalse.1

theorem not_selectStopped_failedSelect :
    (¬Completes (readCmdMsg smallRxConfig true { shortRound with message := failedSelect })
      (.start [] 10 (messageCBInit 1)) fun _ after =>
        SelectStopped smallRxConfig failedSelect.multiSelectCB (.start [] 10 (messageCBInit 1))
          after) ∧
    ¬Completes (readSpawnMsg smallRxConfig { shortSpawnEnv with message := failedSelect })
      (.start [] 10 (messageCBInit 1)) fun _ after =>
        SelectStopped smallRxConfig failedSelect.multiSelectCB (.start [] 10 (messageCBInit 1))
          after :=
  ⟨(not_selectStopped_of_selectError smallRxConfig (.start [] 10 (messageCBInit 1))).1 true
      { shortRound with message := failedSelect } isSelectError_failedSelect,
    (not_selectStopped_of_selectError smallRxConfig (.start [] 10 (messageCBInit 1))).2
      { shortSpawnEnv with message := failedSelect } isSelectError_failedSelect⟩

end Callers

end SimpleLinkHost.SelectFailure
