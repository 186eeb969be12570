import SimpleLinkHost.Core.Transition
import SimpleLinkHost.Driver.ActiveSearch
import SimpleLinkHost.Driver.CmdSequence

/-!
# Commands released for want of a buffer

An event that was read in command context and cannot be stored takes its command with it:
`_SlFindAndReleasePendingCmd` completes the object at `ActionIndex`.  The search for the event
writes that index only where it finds an object, so that behind a search without one it still
names what some earlier message has found.
-/

namespace SimpleLinkHost.PendingRelease

open CallOutcome ProgramInvariant Transition Calls GlobalLock MsgWrite RxMsg MsgRead MsgFate
open CmdOp CmdSequence
open ActiveSearch (foundObj)
open CmdOpLocks (smallRxConfig)

section System

/-- The object of the pool that an action completes. -/
def completedObj : DrvAct → Option ℕ
  | .setStatusOfPending index => some index
  | .syncSignal (.poolObj index) => some index
  | _ => none

/-- The completions among the actions so far. -/
def completions (s : DrvState) : List DrvAct := s.acts.filter fun act => (completedObj act).isSome

/-- An event that was read in command context: the object that its search has found, and what
was completed for it. -/
structure EvtRecord where
  matched : Option ℕ
  completed : List DrvAct

/-- The driver, with the record of the events. -/
structure Receiving where
  driver : DrvState
  events : List EvtRecord

/-- What the contexts that share `AsyncExt` do: a message is sent, and its response awaited or
not; a command in the loop of `_SlDrvMsgReadCmdCtx` meets its next round; the spawn task reads
a message, or handles a stored event. -/
inductive ReceiveAct
  | write (awaited : Bool) (cmdCtrl : CmdCtrl) (ext : Option CmdExt)
      (pTxRxDescBuff : Option (ℕ → Byte)) (writesLeft : ℕ)
  | cmdRound (cmdOpcode : BitVec 16) (lockRequired : Bool) (round : CmdRound)
  | spawnMsg (env : SpawnEnv)
  | storedMsg (globalLock : GlobalLockEnv) (flags : DevFlags)

variable (cfg : RxConfig)

/-- The body of the loop of `_SlDrvMsgReadCmdCtx`. -/
def cmdRound (cmdOpcode : BitVec 16) (lockRequired : Bool) (round : CmdRound) : DrvM Unit := do
  let s ← get
  if round.rxIrqCnt ≠ s.cb.rxDoneCnt then readCmdMsg cfg lockRequired round
  else waitForCmdMsg cfg cmdOpcode lockRequired round

/-- The body of the loop of `_SlSpawnMsgListProcess`. -/
def processStoredMsg (globalLock : GlobalLockEnv) (flags : DevFlags) : DrvM Unit := do
  let s ← get
  match s.cb.spawnMsgList with
  | [] => pure ()
  | item :: rest =>
      lockGlobalLockForever (noLockFlags cfg) globalLock
      modifyCB fun cb =>
        { cb with
          asyncExt :=
            { cb.asyncExt with
              actionIndex := item.actionIndex
              asyncEvtHandler := item.asyncHndlr }
          spawnMsgList := rest }
      slDrvAsyncEventGenericHandler cfg flags item.buffer
      emit .free
      emit .free
      slDrvGlobalObjUnLock false

/-- The program of an action. -/
def program : ReceiveAct → DrvM Unit
  | .write awaited cmdCtrl ext pTxRxDescBuff writesLeft => do
      modify fun s => { s with writesLeft := writesLeft }
      runIf awaited (modifyCB fun cb => { cb with waitForCmdResp := true })
      slDrvMsgWrite cfg.toProtocolConfig cmdCtrl ext pTxRxDescBuff
  | .cmdRound cmdOpcode lockRequired round => cmdRound cfg cmdOpcode lockRequired round
  | .spawnMsg env => slDrvMsgReadSpawnCtx cfg env
  | .storedMsg globalLock flags => processStoredMsg cfg globalLock flags

/-- A round is met as long as the response is awaited. -/
def enabled (s : DrvState) : ReceiveAct → Bool
  | .cmdRound _ _ _ => s.cb.waitForCmdResp
  | .write _ _ _ _ _ | .spawnMsg _ | .storedMsg _ _ => true

/-- A message is pending in command context, and it is an event. -/
def ReadsEvt (s : DrvState) (round : CmdRound) : Prop :=
  round.rxIrqCnt ≠ s.cb.rxDoneCnt ∧
    msgClass cfg round.message s.cb.pCmdCtrl.opcode = .asyncEvt

instance (s : DrvState) (round : CmdRound) : Decidable (ReadsEvt cfg s round) :=
  inferInstanceAs (Decidable (_ ∧ _))

/-- The object that the search for an event finds. -/
def evtObj (env : MsgEnv) : Option ℕ :=
  match env.hdr with
  | .header hdrBytes => foundObj (evtActiveObj cfg env hdrBytes)
  | _ => none

/-- What an action that has run to its end adds to the record. -/
def recordOf (before after : DrvState) : ReceiveAct → List EvtRecord
  | .cmdRound _ _ round =>
      if ReadsEvt cfg before round then
        [{ matched := evtObj cfg round.message
           completed := (completions after).drop (completions before).length }]
      else []
  | .write _ _ _ _ _ | .spawnMsg _ | .storedMsg _ _ => []

/-- An action runs to its end or returns early; one that never returns is no step. -/
def step (s : Receiving) (act : ReceiveAct) : Option Receiving :=
  if enabled s.driver act then
    match (program cfg act).run s.driver with
    | .ok _ after => some ⟨after, s.events ++ recordOf cfg s.driver after act⟩
    | .error ret after => if ret = .noReturn then none else some ⟨after, s.events⟩
  else none

end System

section Property

/-- Every completion for an event is of the object that the search for this event has
found. -/
def CompletesMatched (s : Receiving) : Prop :=
  ∀ event ∈ s.events, ∀ act ∈ event.completed, completedObj act = event.matched

variable (cfg : RxConfig)

/-- There is no buffer for an event, or no item. -/
def refused (env : SpawnInsert) : Bool := !(env.itemAllocated && env.bufferAllocated)

/-- An event that is read to its end and refused by the spawn list has found an object, unless
the object at `ActionIndex` has no response arguments. -/
def RefusedMatched (s : Receiving) : ReceiveAct → Prop
  | .cmdRound _ _ round =>
      ReadsEvt cfg s.driver round →
      msgFate cfg round.message s.driver.cb.pCmdCtrl s.driver.cb.pCmdExt = .done →
      refused round.spawnInsert = true →
      round.spawnInsert.pendingRespArgs = true →
      (evtObj cfg round.message).isSome = true
  | .write _ _ _ _ _ | .spawnMsg _ | .storedMsg _ _ => True

end Property

section Reading

variable (cfg : RxConfig) {s : DrvState} {act : DrvAct}

/-- What the release of a command depends on and changes. -/
def pending (s : DrvState) : List DrvAct × ℕ := (completions s, s.cb.asyncExt.actionIndex)

theorem completions_after (hact : completedObj act = none) :
    completions (s.after act) = completions s :=
  congrArg Prod.fst (Delivery.watching_after (congrArg Option.isSome hact))

theorem leaves_pending {α : Type} {program : DrvM α}
    (hprogram : Leaves (Delivery.watching fun act => (completedObj act).isSome) program) :
    Leaves pending program :=
  hprogram.project fun seen => (seen.1, seen.2.asyncExt.actionIndex)

theorem leaves_emit (hact : completedObj act = none) : Leaves pending (emit act) :=
  leaves_pending (Delivery.leaves_emit (congrArg Option.isSome hact))

theorem leaves_modifyCB {change : DriverCB → DriverCB}
    (hchange : ∀ cb, (change cb).asyncExt.actionIndex = cb.asyncExt.actionIndex) :
    Leaves pending (modifyCB change) :=
  leaves_modify fun s => congrArg (completions s, ·) (hchange s.cb)

theorem ignoresHeader_pending : IgnoresHeader cfg pending where
  shared := fun _ _ _ => rfl
  status := by
    intro header txSyncObjCount
    apply Leaves.bind
    · exact leaves_modifyCB fun _ => rfl
    · intro _
      apply (leaves_emit rfl).bind
      exact fun _ => leaves_runIf (leaves_emit rfl)
  classify := by
    intro opcode
    apply leaves_get.bind
    intro shared
    apply Leaves.bind
    · exact leaves_modifyCB fun _ => rfl
    · exact fun _ => leaves_pure

theorem ignoresEvt_completedObj : IgnoresEvt fun act => (completedObj act).isSome where
  reads := fun _ => rfl
  writes := fun _ _ => rfl
  malloc := rfl
  lock := rfl
  unlock := rfl

/-- Only an object that the search finds becomes the one at `ActionIndex`. -/
theorem actionIndex_foundExt (obj : ActiveObj) (ext : AsyncExt) :
    (Delivery.foundExt obj ext).actionIndex = (foundObj obj).getD ext.actionIndex := by
  cases obj with
  | notSet => rfl
  | recv index => rfl
  | action index handler => rfl
  | endless => rfl

/-- An event, read in command context. -/
theorem ensures_slDrvMsgRead_evt {env : MsgEnv}
    (hclass : msgClass cfg env s.cb.pCmdCtrl.opcode = .asyncEvt) :
    Ensures (slDrvMsgRead cfg env) s fun _ after =>
      pending after =
        (completions s, (evtObj cfg env).getD s.cb.asyncExt.actionIndex) := by
  rw [msgClass] at hclass
  split at hclass
  · rename_i hdrBytes hhdr
    have hread := ensures_slDrvMsgRead cfg (s := s) (ignoresHeader_pending cfg)
      (fun _ read => pending read =
        (completions s, (evtObj cfg env).getD s.cb.asyncExt.actionIndex)) hhdr ?_
    · apply hread.mono
      intro out after hafter
      obtain ⟨read, hgood, hafter⟩ := hafter
      rw [hafter, pending, completions_after rfl]
      exact hgood
    · intro told hrx hsame _ _
      have hcompletions : completions told = completions s := congrArg Prod.fst hsame
      have hindex : told.cb.asyncExt.actionIndex = s.cb.asyncExt.actionIndex :=
        congrArg Prod.snd hsame
      rw [hclass, readPayload, ← hcompletions, ← hindex, evtObj, hhdr]
      apply (ensures_readAsyncEvt cfg ignoresEvt_completedObj hrx).mono
      intro _ after hafter
      rw [← actionIndex_foundExt]
      exact congrArg (fun seen => (seen.1, seen.2.asyncExt.actionIndex)) hafter.1
  · cases hclass

end Reading

section Releasing

variable (cfg : RxConfig) {s : DrvState} {round : CmdRound}

/-- What is completed for an event, with the object at `ActionIndex`. -/
def releaseActs (env : SpawnInsert) (index : ℕ) : List DrvAct :=
  if refused env && env.pendingRespArgs then
    [.setStatusOfPending index, .syncSignal (.poolObj index)]
  else []

theorem completions_completed {act : DrvAct} {index : ℕ} (hact : completedObj act = some index) :
    completions (s.after act) = completions s ++ [act] := by
  rw [completions, DrvState.after, List.filter_append,
    List.filter_cons_of_pos (by rw [hact]; rfl), List.filter_nil]
  rfl

theorem completes_slFindAndReleasePendingCmd (pendingRespArgs : Bool) :
    Completes (slFindAndReleasePendingCmd pendingRespArgs) s fun _ after =>
      completions after = completions s ++
        if pendingRespArgs then
          [.setStatusOfPending s.cb.asyncExt.actionIndex,
            .syncSignal (.poolObj s.cb.asyncExt.actionIndex)]
        else [] := by
  rw [Completes, slFindAndReleasePendingCmd, ends_bind, ends_get, ends_runIf]
  cases pendingRespArgs with
  | false => exact (List.append_nil _).symm
  | true =>
      rw [if_pos rfl, if_pos rfl, ends_bind, ends_emit, ends_emit, completions_completed rfl,
        completions_completed rfl, List.append_assoc]
      rfl

theorem completes_slSpawnMsgListInsert (env : SpawnInsert) (asyncBuf : List Byte) :
    Completes (slSpawnMsgListInsert env asyncBuf) s fun inserted after =>
      (inserted = .noFreeAsyncBuffers ↔ refused env = true) ∧
        completions after = completions s ∧
        after.cb.asyncExt.actionIndex = s.cb.asyncExt.actionIndex := by
  rw [Completes, slSpawnMsgListInsert, protectionObjLockForever, protectionObjUnlock]
  rw [ends_bind, ends_emit, ends_bind, ends_emit]
  cases hitem : env.itemAllocated with
  | false =>
      refine ⟨?_, ?_, rfl⟩
      · simp [refused, hitem]
      · rw [completions_after rfl, completions_after rfl, completions_after rfl]
  | true =>
      cases hbuffer : env.bufferAllocated with
      | false =>
          refine ⟨?_, ?_, rfl⟩
          · simp [refused, hbuffer]
          · rw [completions_after rfl, completions_after rfl, completions_after rfl,
              completions_after rfl, completions_after rfl]
      | true =>
          refine ⟨?_, ?_, rfl⟩
          · simp [refused, hitem, hbuffer]
          · rw [completions_after rfl]
            change completions (((s.after _).after .malloc).after .malloc) = _
            rw [completions_after rfl, completions_after rfl, completions_after rfl]

theorem completes_storeAsyncEvt (env : SpawnInsert) (out : MsgReadOut) :
    Completes (storeAsyncEvt env out) s fun _ after =>
      completions after = completions s ++ releaseActs env s.cb.asyncExt.actionIndex := by
  apply (completes_slSpawnMsgListInsert env _).bind
  intro inserted stored hstored
  obtain ⟨hrefused, hcompletions, hindex⟩ := hstored
  have hrelease : Completes (runIf (inserted = .noFreeAsyncBuffers)
      (slFindAndReleasePendingCmd env.pendingRespArgs)) stored fun _ after =>
        completions after = completions s ++ releaseActs env s.cb.asyncExt.actionIndex := by
    rw [Completes, ends_runIf, releaseActs]
    by_cases hinserted : inserted = .noFreeAsyncBuffers
    · rw [if_pos hinserted, hrefused.mp hinserted, Bool.true_and, ← hcompletions, ← hindex]
      exact completes_slFindAndReleasePendingCmd env.pendingRespArgs
    · have hkept : refused env = false := by
        rw [Bool.eq_false_iff]
        exact fun hrefuses => hinserted (hrefused.mpr hrefuses)
      rw [if_neg hinserted, hkept, hcompletions]
      exact (List.append_nil _).symm
  apply hrelease.bind
  intro _ released hreleased
  exact (completions_after rfl).trans hreleased

/-- A round with an event that is read to its end: only a refused event completes anything,
namely the object at `ActionIndex`. -/
theorem completes_cmdRound (cmdOpcode : BitVec 16) (lockRequired : Bool)
    (hreads : ReadsEvt cfg s round)
    (hfate : msgFate cfg round.message s.cb.pCmdCtrl s.cb.pCmdExt = .done) :
    Completes (cmdRound cfg cmdOpcode lockRequired round) s fun _ after =>
      completions after = completions s ++
        releaseActs round.spawnInsert
          ((evtObj cfg round.message).getD s.cb.asyncExt.actionIndex) := by
  rw [Completes, cmdRound, ends_bind, ends_get, if_pos hreads.1]
  apply completes_readCmdMsg cfg hfate (ensures_slDrvMsgRead_evt cfg hreads.2)
  intro out read _ hread
  rw [hreads.2]
  have hcompletions : completions read = completions s := congrArg Prod.fst hread
  have hindex : read.cb.asyncExt.actionIndex =
      (evtObj cfg round.message).getD s.cb.asyncExt.actionIndex := congrArg Prod.snd hread
  rw [← hcompletions, ← hindex]
  exact completes_storeAsyncEvt round.spawnInsert out

/-- A message that falls short ends the round early. -/
theorem ensures_cmdRound (cmdOpcode : BitVec 16) (lockRequired : Bool)
    (hreads : ReadsEvt cfg s round) :
    Ensures (cmdRound cfg cmdOpcode lockRequired round) s fun _ _ =>
      msgFate cfg round.message s.cb.pCmdCtrl s.cb.pCmdExt = .done := by
  rw [Ensures, cmdRound, ends_bind, ends_get, if_pos hreads.1, readCmdMsg, ends_bind,
    ends_attempt]
  apply (ends_slDrvMsgRead cfg round.message).mono
  · intro out read hread
    rw [ends_bind, ends_modifyCB, ends_bind, ends_get]
    apply Completes.ends
    apply (CmdOpLocks.completes_handleCmdMsg round.spawnInsert out _).mono
    exact fun _ _ _ => hread.1
  · intro ret lost _
    have habandon : Ends (abandonCmd lockRequired ret) lost (fun _ _ => False)
        fun _ _ => True := by
      rw [abandonCmd, ends_bind, ends_modifyCB, ends_bind, unlockIfRequired, ends_runIf]
      split
      · apply Completes.ends
        apply (completes_slDrvGlobalObjUnLock true _).mono
        exact fun _ _ _ => trivial
      · trivial
    split
    · trivial
    · apply habandon.mono
      · exact fun _ _ hfalse => hfalse.elim
      · exact fun _ _ _ => trivial

end Releasing

section Runs

variable (cfg : RxConfig) {s s' : Receiving} {act : ReceiveAct}

theorem step_cases (hstep : step cfg s act = some s') :
    (∃ after, (program cfg act).run s.driver = .ok () after ∧
      s' = ⟨after, s.events ++ recordOf cfg s.driver after act⟩) ∨
    ∃ ret after, (program cfg act).run s.driver = .error ret after ∧ s' = ⟨after, s.events⟩ := by
  rw [step] at hstep
  split at hstep
  · split at hstep
    · rename_i after hrun
      exact .inl ⟨after, hrun, (Option.some.inj hstep).symm⟩
    · rename_i ret after hrun
      split at hstep
      · cases hstep
      · exact .inr ⟨ret, after, hrun, (Option.some.inj hstep).symm⟩
  · cases hstep

theorem completesMatched_append {driver : DrvState} {event : EvtRecord}
    (hbefore : CompletesMatched s) :
    CompletesMatched ⟨driver, s.events ++ [event]⟩ ↔
      ∀ act ∈ event.completed, completedObj act = event.matched := by
  constructor
  · intro hafter
    exact hafter event (List.mem_append_right _ List.mem_cons_self)
  · intro hevent other hother
    cases List.mem_append.mp hother with
    | inl hold => exact hbefore other hold
    | inr hnew => exact (List.mem_singleton.mp hnew) ▸ hevent

/-- Of a refused event the object at `ActionIndex` is completed, whichever that is. -/
theorem completed_iff (env : SpawnInsert) (matched : Option ℕ) (index : ℕ) :
    (∀ act ∈ releaseActs env (matched.getD index), completedObj act = matched) ↔
      (refused env = true → env.pendingRespArgs = true → matched.isSome = true) := by
  rw [releaseActs]
  cases hreleases : refused env && env.pendingRespArgs with
  | false =>
      have hnot : refused env = true → env.pendingRespArgs ≠ true := by
        intro hrefused hargs
        rw [hrefused, hargs] at hreleases
        cases hreleases
      exact iff_of_true (fun _ hmem => absurd hmem List.not_mem_nil)
        fun hrefused hargs => absurd hargs (hnot hrefused)
  | true =>
      obtain ⟨hrefused, hargs⟩ := Bool.and_eq_true_iff.mp hreleases
      cases matched with
      | none => simp [hrefused, hargs, completedObj]
      | some index => simp [hrefused, hargs, completedObj]

/-- A step keeps the property exactly if the event that it reads, if any, either is stored, or
has found the object that it takes down. -/
theorem completesMatched_step (hbefore : CompletesMatched s) (hstep : step cfg s act = some s') :
    CompletesMatched s' ↔ RefusedMatched cfg s act := by
  have hkept : ∀ driver, CompletesMatched ⟨driver, s.events⟩ := fun _ => hbefore
  obtain ⟨after, hrun, rfl⟩ | ⟨ret, after, hrun, rfl⟩ := step_cases cfg hstep
  · cases act with
    | cmdRound cmdOpcode lockRequired round =>
        by_cases hreads : ReadsEvt cfg s.driver round
        · have hfate := (ensures_cmdRound cfg cmdOpcode lockRequired hreads).of_run hrun
          have hcompletions := Ensures.of_run
            (completes_cmdRound cfg cmdOpcode lockRequired hreads hfate).ends hrun
          rw [recordOf, if_pos hreads, completesMatched_append hbefore, hcompletions,
            List.drop_left, completed_iff]
          exact ⟨fun hmatched _ _ => hmatched, fun hmatched => hmatched hreads hfate⟩
        · rw [recordOf, if_neg hreads, List.append_nil]
          exact iff_of_true (hkept after) fun hreads' => absurd hreads' hreads
    | write _ _ _ _ _ | spawnMsg _ | storedMsg _ _ =>
        rw [recordOf, List.append_nil]
        exact iff_of_true (hkept after) trivial
  · refine iff_of_true (hkept after) ?_
    cases act with
    | cmdRound cmdOpcode lockRequired round =>
        intro hreads hfate
        have hcompletes := completes_cmdRound cfg cmdOpcode lockRequired hreads hfate
        exact (Ends.of_error hcompletes hrun).elim
    | write _ _ _ _ _ | spawnMsg _ | storedMsg _ _ => trivial

/-- The driver is where the first of the rounds lead. -/
def Meets (cmdOpcode : BitVec 16) (lockRequired : Bool) (s : Receiving) (rounds : List CmdRound)
    (after : DrvState) : Prop :=
  ∃ met events, met <+: rounds ∧
    run (step cfg) s (met.map (.cmdRound cmdOpcode lockRequired)) = some ⟨after, events⟩

variable {cmdOpcode : BitVec 16} {lockRequired : Bool} {round : CmdRound}
variable {rounds : List CmdRound} {after : DrvState}

theorem Meets.refl : Meets cfg cmdOpcode lockRequired s rounds s.driver :=
  ⟨[], s.events, List.nil_prefix, rfl⟩

theorem Meets.cons (hstep : step cfg s (.cmdRound cmdOpcode lockRequired round) = some s')
    (hmeets : Meets cfg cmdOpcode lockRequired s' rounds after) :
    Meets cfg cmdOpcode lockRequired s (round :: rounds) after := by
  obtain ⟨met, events, hprefix, hrun⟩ := hmeets
  refine ⟨round :: met, events, (List.prefix_cons_inj round).mpr hprefix, ?_⟩
  rw [List.map_cons, run_cons, hstep]
  exact hrun

/-- A round, as a step. -/
theorem ends_cmdRound (hwait : s.driver.cb.waitForCmdResp = true) :
    Ends (cmdRound cfg cmdOpcode lockRequired round) s.driver
      (fun _ after => ∃ events,
        step cfg s (.cmdRound cmdOpcode lockRequired round) = some ⟨after, events⟩)
      fun ret after => ret = .noReturn ∨ ∃ events,
        step cfg s (.cmdRound cmdOpcode lockRequired round) = some ⟨after, events⟩ := by
  apply ends_run.mono
  · intro _ after hrun
    rw [step, enabled, if_pos hwait, program, hrun]
    exact ⟨_, rfl⟩
  · intro ret after hrun
    rw [step, enabled, if_pos hwait, program, hrun]
    by_cases hret : ret = .noReturn
    · exact .inl hret
    · exact .inr ⟨_, if_neg hret⟩

/-- The loop of `_SlDrvMsgReadCmdCtx` is a run of its rounds. -/
theorem ends_readUntilCmdResp (rounds : List CmdRound) (s : Receiving) :
    Ends (readUntilCmdResp cfg cmdOpcode lockRequired rounds) s.driver
      (fun _ after => Meets cfg cmdOpcode lockRequired s rounds after)
      fun ret after => ret = .noReturn ∨ Meets cfg cmdOpcode lockRequired s rounds after := by
  induction rounds generalizing s with
  | nil =>
      rw [readUntilCmdResp, ends_bind, ends_get, ends_returnIf]
      split
      · exact .inl rfl
      · exact Meets.refl cfg
  | cons round rounds ih =>
      cases hwait : s.driver.cb.waitForCmdResp with
      | false =>
          rw [readUntilCmdResp, ends_bind, ends_get, hwait]
          exact Meets.refl cfg
      | true =>
          have hrest : Ends (cmdRound cfg cmdOpcode lockRequired round >>= fun _ =>
              readUntilCmdResp cfg cmdOpcode lockRequired rounds) s.driver
              (fun _ after => Meets cfg cmdOpcode lockRequired s (round :: rounds) after)
              fun ret after => ret = .noReturn ∨
                Meets cfg cmdOpcode lockRequired s (round :: rounds) after := by
            rw [ends_bind]
            apply (ends_cmdRound cfg hwait).mono
            · intro _ next hnext
              obtain ⟨events, hstep⟩ := hnext
              apply (ih ⟨next, events⟩).mono
              · exact fun _ _ hmeets => hmeets.cons cfg hstep
              · exact fun _ _ hends => hends.imp_right fun hmeets => hmeets.cons cfg hstep
            · intro ret next hends
              apply hends.imp_right
              intro hnext
              obtain ⟨events, hstep⟩ := hnext
              exact Meets.cons cfg hstep (Meets.refl cfg)
          rw [cmdRound, bind_assoc, ends_bind, ends_get] at hrest
          rw [readUntilCmdResp, ends_bind, ends_get, if_pos hwait]
          split
          · rename_i hpending
            rwa [if_pos hpending] at hrest
          · rename_i hpending
            rwa [if_neg hpending] at hrest

/-- Whatever messages came before, what is completed for an event is what this event has found,
in exactly the runs in which every refused event has found an object. -/
theorem completesMatched_iff (driver : DrvState) (acts : List ReceiveAct) :
    StatesSatisfy (step cfg) CompletesMatched ⟨driver, []⟩ acts ↔
      StepsSatisfy (step cfg) (RefusedMatched cfg) ⟨driver, []⟩ acts := by
  have hinit : CompletesMatched ⟨driver, []⟩ := fun _ hmem => absurd hmem List.not_mem_nil
  exact states_iff_steps (fun _ _ _ (htrue : True) _ => htrue)
    (fun _ _ _ _ hbefore hstep => completesMatched_step cfg hbefore hstep) trivial hinit

/-- A message while a receive on socket two waits, which is the second object of the pool. -/
def behindFirst (rxIrqCnt : Byte) (opcode : BitVec 16) (rx : List Byte) (item : Bool) :
    CmdRound :=
  let round := arriving rxIrqCnt opcode 16 rx
  { round with
    message :=
      { round.message with
        pool :=
          { round.message.pool with
            activePoolIdx := 1
            objPool := fun index =>
              { round.message.pool.objPool index with pRespArgs := some 0 } } }
    spawnInsert := { itemAllocated := item, bufferAllocated := true, pendingRespArgs := true } }

/-- A command is sent and meets the data for that receive, and then an event that nobody waits
for, of which there is no item. -/
def recvBeforeEvt : List ReceiveAct :=
  [ .write true { opcode := 0x8400, txDescLen := 0, rxDescLen := 4 } none none 10,
    .cmdRound 0x8400 true (behindFirst 1 0x100A [0, 0, 2, 0] true),
    .cmdRound 0x8400 true (behindFirst 2 0x0C9A [1, 2, 3, 4] false) ]

/-- The event completes the receive. -/
theorem not_completesMatched_recvBeforeEvt :
    ¬StatesSatisfy (step smallRxConfig) CompletesMatched ⟨.start [] 0 (messageCBInit 1), []⟩
      recvBeforeEvt := by
  refine not_statesSatisfy_of_any (fun s => s.events.any fun event =>
    event.matched = none && event.completed.any fun act => completedObj act = some 1) ?_ ?_
  · intro s hfails hmatched
    rw [List.any_eq_true] at hfails
    obtain ⟨event, hevent, hfails⟩ := hfails
    rw [Bool.and_eq_true, List.any_eq_true] at hfails
    obtain ⟨hnone, act, hact, hcompleted⟩ := hfails
    have hsame := hmatched event hevent act hact
    rw [of_decide_eq_true hnone, of_decide_eq_true hcompleted] at hsame
    cases hsame
  · decide +kernel

end Runs

end SimpleLinkHost.PendingRelease
