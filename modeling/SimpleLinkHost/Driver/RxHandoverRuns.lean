import SimpleLinkHost.Driver.RxHandover

/-!
# Runs of the receive handover

The statements of command threads and of the spawn task keep the invariant `Handover`.
A command thread matters in two ways: inside the global lock through what its holder
knows, behind it through its last test.
-/

namespace SimpleLinkHost.RxHandover

open Calls Transition

section Cmd

variable {T : Type*} [DecidableEq T] {s s' : RxSys T} {thread : T} {pos : CmdPos}

theorem goto_self : (s.goto thread pos).thread thread = pos := Function.update_self ..

theorem goto_of_ne {other : T} (hne : other ≠ thread) :
    (s.goto thread pos).thread other = s.thread other := Function.update_of_ne hne ..

/-- The thread that owes a message goes on owing one, or makes a request for it. -/
theorem due_goto (hdue : Due s) (hirq : s'.rxIrqCnt = s.rxIrqCnt)
    (hthreads : s'.thread = s.thread) (hspawn : s'.spawn = s.spawn)
    (houtstanding : s.outstanding ≤ s'.outstanding)
    (howes : (s.thread thread).owes s.rxIrqCnt = true →
      pos.owes s.rxIrqCnt = true ∨ (if s.spawn.pastCheck then 2 else 1) ≤ s'.outstanding) :
    Due (s'.goto thread pos) := by
  rcases hdue with ⟨other, hother⟩ | hrequest
  · by_cases hne : other = thread
    · rw [hne] at hother
      rcases howes hother with hstill | hrequest
      · left
        refine ⟨thread, ?_⟩
        rw [goto_self]
        change pos.owes s'.rxIrqCnt = true
        rw [hirq]
        exact hstill
      · right
        change (if s'.spawn.pastCheck then 2 else 1) ≤ s'.outstanding
        rwa [hspawn]
    · left
      refine ⟨other, ?_⟩
      rw [goto_of_ne hne]
      change (s'.thread other).owes s'.rxIrqCnt = true
      rw [hthreads, hirq]
      exact hother
  · right
    change (if s'.spawn.pastCheck then 2 else 1) ≤ s'.outstanding
    rw [hspawn]
    exact hrequest.trans houtstanding

/-- The variables that a step of a command thread leaves alone. -/
structure Steady (s s' : RxSys T) : Prop where
  thread : s'.thread = s.thread
  spawn : s'.spawn = s.spawn
  rxIrqCnt : s'.rxIrqCnt = s.rxIrqCnt
  irqReadCnt : s'.irqReadCnt = s.irqReadCnt
  masked : s'.masked = true → s.masked = true

omit [DecidableEq T] in
theorem Steady.refl : Steady s s := ⟨rfl, rfl, rfl, rfl, id⟩

/-- A step of a command thread, apart from what it does to the lock. -/
theorem Handover.goto (hhandover : Handover s) (hsteady : Steady s s')
    (hcmdLock : ∀ other, ((s'.goto thread pos).thread other).holdsLock = true →
      s'.globalLock = some (.cmd other))
    (hspawnLock : s.spawn.holdsLock = true → s'.globalLock = some .spawn)
    (hholder : HolderKnows (s'.goto thread pos))
    (hrequests : s'.irqWriteCnt = s'.irqReadCnt + BitVec.ofNat 8 s'.outstanding)
    (hmore : s.outstanding ≤ s'.outstanding)
    (howes : s.masked = true → (s.thread thread).owes s.rxIrqCnt = true →
      pos.owes s.rxIrqCnt = true ∨ (if s.spawn.pastCheck then 2 else 1) ≤ s'.outstanding)
    (hawake : s'.spawnSyncObj = true ∨ pos = .signalling ∨
      s.thread thread ≠ .signalling ∧ s'.irqWriteCnt = s.irqWriteCnt ∧
        (s.spawnSyncObj = true → s'.spawnSyncObj = true)) :
    Handover (s'.goto thread pos) := by
  constructor
  case cmd_lock => exact hcmdLock
  case spawn_lock =>
    change s'.spawn.holdsLock = true → s'.globalLock = some .spawn
    rwa [hsteady.spawn]
  case holder => exact hholder
  case requests => exact hrequests
  case served =>
    change s'.spawn.serves = true → 0 < s'.outstanding
    rw [hsteady.spawn]
    exact fun hserves => (hhandover.served hserves).trans_le hmore
  case due =>
    intro hmasked
    exact due_goto (hhandover.due (hsteady.masked hmasked)) hsteady.rxIrqCnt hsteady.thread
      hsteady.spawn hmore (howes (hsteady.masked hmasked))
  case awake =>
    intro hidle hrequest
    rcases hawake with hsignal | hpos | ⟨hbefore, hwrite, hkeeps⟩
    · exact Or.inl hsignal
    · exact Or.inr ⟨thread, by rw [goto_self, hpos]⟩
    · have hidle' : s'.spawn = .waiting := hidle
      have hrequest' : s'.irqWriteCnt ≠ s'.irqReadCnt := hrequest
      rw [hsteady.spawn] at hidle'
      rw [hwrite, hsteady.irqReadCnt] at hrequest'
      rcases hhandover.awake hidle' hrequest' with hsignal | ⟨other, hother⟩
      · exact Or.inl (hkeeps hsignal)
      · right
        refine ⟨other, ?_⟩
        have hne : other ≠ thread := by
          intro heq
          exact hbefore (heq ▸ hother)
        rw [goto_of_ne hne, hsteady.thread]
        exact hother

/-- A thread that keeps the lock, or goes on without it, leaves the other threads to
their locks. -/
theorem Handover.cmdLock_of_same (hhandover : Handover s) (hthreads : s'.thread = s.thread)
    (hlock : s'.globalLock = s.globalLock)
    (hpos : pos.holdsLock = (s.thread thread).holdsLock) :
    ∀ other, ((s'.goto thread pos).thread other).holdsLock = true →
      s'.globalLock = some (.cmd other) := by
  intro other hother
  rw [hlock]
  apply hhandover.cmd_lock
  by_cases hne : other = thread
  · rw [hne, goto_self, hpos] at hother
    rwa [hne]
  · rwa [goto_of_ne hne, hthreads] at hother

/-- The step of a thread that has the global lock and keeps it. -/
theorem Handover.inside (hhandover : Handover s) {before : CmdPos}
    (hthread : s.thread thread = before) (hbefore : before.holdsLock = true)
    (hsteady : Steady s s')
    (hlock : s'.globalLock = s.globalLock) (hwrite : s'.irqWriteCnt = s.irqWriteCnt)
    (houtstanding : s'.outstanding = s.outstanding)
    (hkeeps : s.spawnSyncObj = true → s'.spawnSyncObj = true)
    (hafter : pos.holdsLock = true) (hholds : CmdHolds s' pos)
    (howes : before.owes s.rxIrqCnt = true → pos.owes s.rxIrqCnt = true) :
    Handover (s'.goto thread pos) := by
  rw [← hthread] at hbefore howes
  apply hhandover.goto hsteady
  · exact hhandover.cmdLock_of_same hsteady.thread hlock (hafter.trans hbefore.symm)
  · rw [hlock]
    exact hhandover.spawn_lock
  · have hlock' : (s'.goto thread pos).globalLock = some (.cmd thread) :=
      hlock.trans (hhandover.cmd_lock thread hbefore)
    rw [HolderKnows, hlock']
    simp only [goto_self]
    cases pos <;> exact hholds
  · rw [hwrite, hsteady.irqReadCnt, houtstanding]
    exact hhandover.requests
  · exact houtstanding.ge
  · exact fun _ hthread => Or.inl (howes hthread)
  · refine Or.inr (Or.inr ⟨fun hpos => ?_, hwrite, hkeeps⟩)
    rw [hpos] at hbefore
    cases hbefore

/-- What the messages and the flag of the loop look like. -/
structure SameMessages (s s' : RxSys T) : Prop where
  rxIrqCnt : s'.rxIrqCnt = s.rxIrqCnt
  rxDoneCnt : s'.rxDoneCnt = s.rxDoneCnt
  masked : s'.masked = s.masked
  waitForCmdResp : s'.waitForCmdResp = s.waitForCmdResp
  cmdSyncObj : s'.cmdSyncObj = s.cmdSyncObj

omit [DecidableEq T] in
theorem SameMessages.between (hsame : SameMessages s s') (extra : Byte) :
    s'.Between extra ↔ s.Between extra := by
  rw [RxSys.Between, hsame.rxIrqCnt, hsame.rxDoneCnt, hsame.masked, RxSys.Between]

omit [DecidableEq T] in
theorem SameMessages.cmdHolds (hsame : SameMessages s s') (pos : CmdPos) :
    CmdHolds s' pos ↔ CmdHolds s pos := by
  cases pos <;> simp only [CmdHolds, hsame.between, hsame.waitForCmdResp, hsame.masked,
    hsame.cmdSyncObj]

omit [DecidableEq T] in
theorem SameMessages.spawnHolds (hsame : SameMessages s s') (pos : SpawnPos) :
    SpawnHolds s' pos ↔ SpawnHolds s pos := by
  cases pos <;> simp only [SpawnHolds, hsame.between, hsame.waitForCmdResp, hsame.masked]

/-- The step of a thread that does not have the global lock changes nothing for the
holder of the lock. -/
theorem holderKnows_goto (hhandover : Handover s) (hbefore : (s.thread thread).holdsLock = false)
    (hsame : SameMessages s s') (hlock : s'.globalLock = s.globalLock)
    (hthreads : s'.thread = s.thread) (hspawn : s'.spawn = s.spawn) :
    HolderKnows (s'.goto thread pos) := by
  have hboth : SameMessages s (s'.goto thread pos) :=
    ⟨hsame.rxIrqCnt, hsame.rxDoneCnt, hsame.masked, hsame.waitForCmdResp, hsame.cmdSyncObj⟩
  have hholder := hhandover.holder
  have hlock' : (s'.goto thread pos).globalLock = s.globalLock := hlock
  have hspawn' : (s'.goto thread pos).spawn = s.spawn := hspawn
  rw [HolderKnows] at hholder ⊢
  rw [hlock', hspawn']
  split at hholder
  · rwa [hboth.waitForCmdResp, hboth.between]
  · rename_i other _
    have hne : other ≠ thread := by
      intro heq
      rw [heq] at hholder
      exact not_cmdHolds hbefore hholder
    rwa [goto_of_ne hne, hthreads, hboth.cmdHolds]
  · rwa [hboth.spawnHolds]

/-- The step of a thread that does not have the global lock. -/
theorem Handover.outside (hhandover : Handover s) {before : CmdPos}
    (hthread : s.thread thread = before) (hbefore : before.holdsLock = false)
    (hafter : pos.holdsLock = false) (hsteady : Steady s s') (hsame : SameMessages s s')
    (hlock : s'.globalLock = s.globalLock)
    (hrequests : s'.irqWriteCnt = s'.irqReadCnt + BitVec.ofNat 8 s'.outstanding)
    (hmore : s.outstanding ≤ s'.outstanding)
    (howes : s.masked = true → before.owes s.rxIrqCnt = true →
      pos.owes s.rxIrqCnt = true ∨ (if s.spawn.pastCheck then 2 else 1) ≤ s'.outstanding)
    (hawake : s'.spawnSyncObj = true ∨ pos = .signalling ∨
      before ≠ .signalling ∧ s'.irqWriteCnt = s.irqWriteCnt ∧
        (s.spawnSyncObj = true → s'.spawnSyncObj = true)) :
    Handover (s'.goto thread pos) := by
  rw [← hthread] at hbefore howes hawake
  apply hhandover.goto hsteady _ _ _ hrequests hmore howes hawake
  · exact hhandover.cmdLock_of_same hsteady.thread hlock (hafter.trans hbefore.symm)
  · rw [hlock]
    exact hhandover.spawn_lock
  · exact holderKnows_goto hhandover hbefore hsame hlock hsteady.thread hsteady.spawn

/-- A thread without the global lock that only looks. -/
theorem Handover.moves (hhandover : Handover s) {before : CmdPos}
    (hthread : s.thread thread = before) (hbefore : before.holdsLock = false)
    (hafter : pos.holdsLock = false)
    (howes : s.masked = true → before.owes s.rxIrqCnt = true → pos.owes s.rxIrqCnt = true)
    (hsignalling : before ≠ .signalling) : Handover (s.goto thread pos) :=
  hhandover.outside hthread hbefore hafter .refl ⟨rfl, rfl, rfl, rfl, rfl⟩ rfl
    hhandover.requests le_rfl (fun hmasked hthread => Or.inl (howes hmasked hthread))
    (Or.inr (Or.inr ⟨hsignalling, rfl, id⟩))

theorem Handover.lock (hhandover : Handover s) (hbefore : s.thread thread = .idle)
    (hfree : s.globalLock = none) :
    Handover ({ s with globalLock := some (.cmd thread) }.goto thread .locked) := by
  have hnobody : ∀ other, (s.thread other).holdsLock = false := by
    intro other
    by_contra hother
    have hlock := hhandover.cmd_lock other (Bool.eq_true_of_not_eq_false hother)
    rw [hfree] at hlock
    cases hlock
  have hsteady : Steady s { s with globalLock := some (.cmd thread) } :=
    ⟨rfl, rfl, rfl, rfl, id⟩
  apply hhandover.goto hsteady
  · intro other hother
    by_cases hne : other = thread
    · rw [hne]
    · rw [goto_of_ne hne] at hother
      exact absurd hother (by simp [hnobody other])
  · intro hspawn
    have hlock := hhandover.spawn_lock hspawn
    rw [hfree] at hlock
    cases hlock
  · have hholder := hhandover.holder
    rw [HolderKnows, hfree] at hholder
    change CmdHolds _ ((RxSys.goto _ thread .locked).thread thread)
    rw [goto_self]
    exact hholder
  · exact hhandover.requests
  · exact le_rfl
  · intro _ howes
    rw [hbefore] at howes
    cases howes
  · exact Or.inr (Or.inr ⟨by simp [hbefore], rfl, id⟩)

theorem Handover.unlock (hhandover : Handover s) (hbefore : s.thread thread = .unlocking) :
    Handover ({ s with globalLock := none }.goto thread .checking) := by
  have hlock : s.globalLock = some (.cmd thread) :=
    hhandover.cmd_lock thread (by rw [hbefore]; rfl)
  have hholds : s.waitForCmdResp = false ∧ s.Between 0 := by
    exact hhandover.cmdHolds_at hbefore rfl
  have hsteady : Steady s { s with globalLock := none } := ⟨rfl, rfl, rfl, rfl, id⟩
  apply hhandover.goto hsteady
  · intro other hother
    by_cases hne : other = thread
    · rw [hne, goto_self] at hother
      cases hother
    · rw [goto_of_ne hne] at hother
      have hlock' := hhandover.cmd_lock other hother
      rw [hlock] at hlock'
      cases hlock'
      exact absurd rfl hne
  · intro hspawn
    have hlock' := hhandover.spawn_lock hspawn
    rw [hlock] at hlock'
    cases hlock'
  · exact hholds
  · exact hhandover.requests
  · exact le_rfl
  · exact fun _ _ => Or.inl rfl
  · exact Or.inr (Or.inr ⟨by simp [hbefore], rfl, id⟩)

omit [DecidableEq T] in
/-- A message that keeps the interrupt masked makes the counters differ. -/
theorem RxSys.Between.ne {extra : Byte} (hextra : extra = 0 ∨ extra = 1)
    (hbetween : s.Between extra) (hmasked : s.masked = true) : s.rxIrqCnt ≠ s.rxDoneCnt := by
  rw [RxSys.Between, hmasked, if_pos rfl] at hbetween
  rw [hbetween]
  rcases hextra with rfl | rfl
  · simp
  · rw [BitVec.add_assoc]
    simp

omit [DecidableEq T] in
/-- `_SlDrvMsgRead` unmasks the interrupt. -/
theorem RxSys.Between.read (hbetween : s.Between 0) (hmasked : s.masked = true) :
    ({ s with masked := false } : RxSys T).Between 1 := by
  rw [RxSys.Between, hmasked] at hbetween
  simpa [RxSys.Between] using hbetween

omit [DecidableEq T] in
theorem RxSys.Between.count (hbetween : s.Between 1) :
    ({ s with rxDoneCnt := s.rxDoneCnt + 1 } : RxSys T).Between 0 := by
  simpa [RxSys.Between] using hbetween

omit [DecidableEq T] in
theorem pendingRxMsg_iff (hbetween : s.Between 0) :
    s.pendingRxMsg = true ↔ s.masked = true := by
  constructor
  · intro hpending
    by_contra hmasked
    rw [RxSys.Between, if_neg hmasked] at hbetween
    simp [RxSys.pendingRxMsg, hbetween] at hpending
  · intro hmasked
    simpa [RxSys.pendingRxMsg] using hbetween.ne (Or.inl rfl) hmasked

omit [DecidableEq T] in
/-- Whoever has the global lock, the counters differ while the interrupt is masked. -/
theorem Handover.ne_of_masked (hhandover : Handover s) (hmasked : s.masked = true) :
    s.rxIrqCnt ≠ s.rxDoneCnt := by
  have hbetween : s.Between 0 ∨ s.Between 1 := by
    have hholder := hhandover.holder
    rw [HolderKnows] at hholder
    split at hholder
    · exact Or.inl hholder.2
    · rename_i thread _
      cases hpos : s.thread thread <;> rw [hpos] at hholder <;> simp_all [CmdHolds]
    · cases hpos : s.spawn <;> rw [hpos] at hholder <;> simp_all [SpawnHolds]
  rcases hbetween with hbetween | hbetween
  · exact hbetween.ne (Or.inl rfl) hmasked
  · exact hbetween.ne (Or.inr rfl) hmasked

/-- One statement of a command thread.  Inside the loop the thread knows from the lock
what it needs; behind the lock only its last test matters. -/
theorem Handover.cmd (hhandover : Handover s) {irqFirst : Bool}
    (hstep : cmdStep irqFirst s thread = some s') : Handover s' := by
  cases hthread : s.thread thread with
  | idle =>
      simp only [cmdStep, hthread, Option.ite_none_right_eq_some,
        Option.isNone_iff_eq_none] at hstep
      cases hstep.2
      exact hhandover.lock hthread hstep.1
  | locked =>
      simp only [cmdStep, hthread] at hstep
      cases hstep
      have hholds : s.waitForCmdResp = false ∧ s.Between 0 := hhandover.cmdHolds_at hthread rfl
      exact hhandover.inside hthread rfl ⟨rfl, rfl, rfl, rfl, id⟩ rfl rfl rfl id rfl
        ⟨rfl, hholds.2⟩ (fun _ => rfl)
  | writing =>
      simp only [cmdStep, hthread] at hstep
      cases hstep
      have hholds : s.waitForCmdResp = true ∧ s.Between 0 := hhandover.cmdHolds_at hthread rfl
      exact hhandover.inside hthread rfl .refl rfl rfl rfl id rfl hholds.2 (fun _ => rfl)
  | looping =>
      simp only [cmdStep, hthread] at hstep
      cases hstep
      have hholds : s.Between 0 := hhandover.cmdHolds_at hthread rfl
      split
      · rename_i hwait
        exact hhandover.inside hthread rfl .refl rfl rfl rfl id rfl ⟨hwait, hholds⟩ (fun _ => rfl)
      · rename_i hwait
        exact hhandover.inside hthread rfl .refl rfl rfl rfl id rfl
          ⟨Bool.eq_false_of_not_eq_true hwait, hholds⟩ (fun _ => rfl)
  | testing =>
      simp only [cmdStep, hthread] at hstep
      cases hstep
      have hholds : s.waitForCmdResp = true ∧ s.Between 0 := hhandover.cmdHolds_at hthread rfl
      have hpending := pendingRxMsg_iff hholds.2
      split
      · rename_i htest
        exact hhandover.inside hthread rfl .refl rfl rfl rfl id rfl
          ⟨hholds.1, hholds.2, hpending.mp htest⟩ (fun _ => rfl)
      · rename_i htest
        exact hhandover.inside hthread rfl .refl rfl rfl rfl id rfl
          ⟨hholds.1, hholds.2, fun hmasked => absurd (hpending.mpr hmasked) htest⟩ (fun _ => rfl)
  | waiting =>
      simp only [cmdStep, hthread, Option.ite_none_right_eq_some] at hstep
      cases hstep.2
      have hholds : s.waitForCmdResp = true ∧ s.Between 0 ∧ _ := hhandover.cmdHolds_at hthread rfl
      exact hhandover.inside hthread rfl ⟨rfl, rfl, rfl, rfl, id⟩ rfl rfl rfl id rfl hholds.2.1
        (fun _ => rfl)
  | reading =>
      simp only [cmdStep, hthread] at hstep
      cases hstep
      have hholds : s.waitForCmdResp = true ∧ s.Between 0 ∧ s.masked = true :=
        hhandover.cmdHolds_at hthread rfl
      exact hhandover.inside hthread rfl ⟨rfl, rfl, rfl, rfl, fun hmasked => by cases hmasked⟩
        rfl rfl rfl id rfl ⟨hholds.1, hholds.2.1.read hholds.2.2⟩ (fun _ => rfl)
  | counting message =>
      simp only [cmdStep, hthread] at hstep
      cases hstep
      have hholds : s.waitForCmdResp = true ∧ s.Between 1 := hhandover.cmdHolds_at hthread rfl
      exact hhandover.inside hthread rfl ⟨rfl, rfl, rfl, rfl, id⟩ rfl rfl rfl id rfl
        ⟨hholds.1, hholds.2.count⟩ (fun _ => rfl)
  | handling message =>
      have hholds : s.waitForCmdResp = true ∧ s.Between 0 := hhandover.cmdHolds_at hthread rfl
      obtain ⟨msgClass, fits⟩ := message
      cases msgClass with
      | cmdResp =>
          simp only [cmdStep, hthread] at hstep
          cases hstep
          exact hhandover.inside hthread rfl ⟨rfl, rfl, rfl, rfl, id⟩ rfl rfl rfl id rfl
            ⟨rfl, hholds.2⟩ (fun _ => rfl)
      | asyncEvt =>
          simp only [cmdStep, hthread] at hstep
          cases hstep
          exact hhandover.inside hthread rfl ⟨rfl, rfl, rfl, rfl, id⟩ rfl rfl rfl id rfl
            hholds.2 (fun _ => rfl)
      | recvResp =>
          simp only [cmdStep, hthread] at hstep
          cases hstep
          exact hhandover.inside hthread rfl .refl rfl rfl rfl id rfl hholds.2 (fun _ => rfl)
      | multiSelectResp =>
          simp only [cmdStep, hthread] at hstep
          cases hstep
          exact hhandover.inside hthread rfl .refl rfl rfl rfl id rfl hholds.2 (fun _ => rfl)
      | dummyMsg =>
          simp only [cmdStep, hthread] at hstep
          cases hstep
          exact hhandover.inside hthread rfl .refl rfl rfl rfl id rfl hholds.2 (fun _ => rfl)
  | clearing =>
      simp only [cmdStep, hthread] at hstep
      cases hstep
      have hholds : s.waitForCmdResp = false ∧ s.Between 0 := hhandover.cmdHolds_at hthread rfl
      exact hhandover.inside hthread rfl ⟨rfl, rfl, rfl, rfl, id⟩ rfl rfl rfl id rfl hholds.2
        (fun _ => rfl)
  | leaving =>
      simp only [cmdStep, hthread] at hstep
      cases hstep
      have hholds : s.waitForCmdResp = false ∧ s.Between 0 := hhandover.cmdHolds_at hthread rfl
      exact hhandover.inside hthread rfl ⟨rfl, rfl, rfl, rfl, id⟩ rfl rfl rfl
        (fun hsignal => by simp [hsignal]) rfl hholds (fun _ => rfl)
  | unlocking =>
      simp only [cmdStep, hthread] at hstep
      cases hstep
      exact hhandover.unlock hthread
  | checking =>
      simp only [cmdStep, hthread] at hstep
      cases hstep
      apply hhandover.moves hthread rfl
      · cases irqFirst <;> rfl
      · intro hmasked _
        have hne := hhandover.ne_of_masked hmasked
        cases irqFirst with
        | true => simp [CmdPos.owes]
        | false => simpa [CmdPos.owes] using hne.symm
      · simp
  | gotIrq loaded =>
      simp only [cmdStep, hthread] at hstep
      cases hstep
      apply hhandover.moves hthread rfl
      · split <;> rfl
      · intro hmasked howes
        have hloaded : loaded = s.rxIrqCnt := by simpa [CmdPos.owes] using howes
        rw [hloaded, if_neg (hhandover.ne_of_masked hmasked)]
        rfl
      · simp
  | gotDone loaded =>
      simp only [cmdStep, hthread] at hstep
      cases hstep
      apply hhandover.moves hthread rfl
      · split <;> rfl
      · intro _ howes
        have hloaded : loaded ≠ s.rxIrqCnt := by simpa [CmdPos.owes] using howes
        rw [if_neg hloaded.symm]
        rfl
      · simp
  | requesting =>
      simp only [cmdStep, hthread] at hstep
      cases hstep
      exact hhandover.outside hthread rfl rfl ⟨rfl, rfl, rfl, rfl, id⟩ ⟨rfl, rfl, rfl, rfl, rfl⟩ rfl
        hhandover.requests_succ (Nat.le_succ _) (fun _ _ => Or.inr hhandover.due_request)
        (Or.inr (Or.inl rfl))
  | signalling =>
      simp only [cmdStep, hthread] at hstep
      cases hstep
      exact hhandover.outside hthread rfl rfl ⟨rfl, rfl, rfl, rfl, id⟩ ⟨rfl, rfl, rfl, rfl, rfl⟩ rfl
        hhandover.requests le_rfl (fun _ howes => by cases howes) (Or.inl rfl)

end Cmd

section Spawn

variable {T : Type*} {s s' : RxSys T}

/-- A step of the spawn task, apart from what it does to the lock. -/
theorem Handover.task (hhandover : Handover s) (hthreads : s'.thread = s.thread)
    (hirq : s'.rxIrqCnt = s.rxIrqCnt)
    (hcmdLock : ∀ thread, s.globalLock = some (.cmd thread) → s'.globalLock = some (.cmd thread))
    (hspawnLock : s'.spawn.holdsLock = true → s'.globalLock = some .spawn)
    (hholder : HolderKnows s')
    (hrequests : s'.irqWriteCnt = s'.irqReadCnt + BitVec.ofNat 8 s'.outstanding)
    (hserved : s'.spawn.serves = true → 0 < s'.outstanding)
    (hdue : s'.masked = true → s.masked = true ∧
      ((if s.spawn.pastCheck then 2 else 1) ≤ s.outstanding →
        (if s'.spawn.pastCheck then 2 else 1) ≤ s'.outstanding))
    (hawake : s'.spawn = .waiting → s'.irqWriteCnt = s'.irqReadCnt) : Handover s' := by
  constructor
  case cmd_lock =>
    rw [hthreads]
    exact fun thread hthread => hcmdLock thread (hhandover.cmd_lock thread hthread)
  case spawn_lock => exact hspawnLock
  case holder => exact hholder
  case requests => exact hrequests
  case served => exact hserved
  case due =>
    intro hmasked
    obtain ⟨hbefore, hmore⟩ := hdue hmasked
    rcases hhandover.due hbefore with ⟨thread, howes⟩ | hrequest
    · left
      rw [hthreads, hirq]
      exact ⟨thread, howes⟩
    · exact Or.inr (hmore hrequest)
  case awake => exact fun hidle hrequest => absurd (hawake hidle) hrequest

theorem Handover.spawnHolds_at (hhandover : Handover s) {pos : SpawnPos} (hspawn : s.spawn = pos)
    (hpos : pos.holdsLock = true) : SpawnHolds s pos := by
  have hholds := hhandover.spawnHolds (by rw [hspawn, hpos])
  rwa [hspawn] at hholds

/-- The task keeps the lock. -/
theorem Handover.taskInside (hhandover : Handover s) {before : SpawnPos}
    (hspawn : s.spawn = before) (hbefore : before.holdsLock = true)
    (hafter : s'.spawn.holdsLock = true) (hlock : s'.globalLock = s.globalLock)
    (hthreads : s'.thread = s.thread) (hirq : s'.rxIrqCnt = s.rxIrqCnt)
    (hwrite : s'.irqWriteCnt = s.irqWriteCnt) (hread : s'.irqReadCnt = s.irqReadCnt)
    (houtstanding : s'.outstanding = s.outstanding)
    (hholds : SpawnHolds s' s'.spawn)
    (hserves : s'.spawn.serves = true → before.serves = true)
    (hpast : s'.masked = true → s.masked = true ∧
      (s'.spawn.pastCheck = true → before.pastCheck = true)) : Handover s' := by
  have hlock' : s'.globalLock = some .spawn :=
    hlock.trans (hhandover.spawn_lock (by rw [hspawn, hbefore]))
  apply hhandover.task hthreads hirq
  · intro thread hthread
    rw [hlock, hthread]
  · exact fun _ => hlock'
  · rwa [HolderKnows, hlock']
  · rw [hwrite, hread, houtstanding]
    exact hhandover.requests
  · intro hserving
    rw [houtstanding]
    exact hhandover.served (by rw [hspawn, hserves hserving])
  · intro hmasked
    obtain ⟨hmaskedBefore, hpastBefore⟩ := hpast hmasked
    refine ⟨hmaskedBefore, fun hrequest => ?_⟩
    rw [houtstanding]
    cases hcheck : s'.spawn.pastCheck with
    | true =>
        rw [hspawn, hpastBefore hcheck] at hrequest
        exact hrequest
    | false =>
        rw [if_neg (by simp)]
        split at hrequest <;> omega
  · intro hidle
    rw [hidle] at hafter
    cases hafter

/-- The task goes on without the lock. -/
theorem Handover.taskOutside (hhandover : Handover s) {before : SpawnPos}
    (hspawn : s.spawn = before) (hbefore : before.holdsLock = false)
    (hafter : s'.spawn.holdsLock = false) (hlock : s'.globalLock = s.globalLock)
    (hsame : SameMessages s s') (hthreads : s'.thread = s.thread)
    (hrequests : s'.irqWriteCnt = s'.irqReadCnt + BitVec.ofNat 8 s'.outstanding)
    (hserved : s'.spawn.serves = true → 0 < s'.outstanding)
    (hdue : (if before.pastCheck then 2 else 1) ≤ s.outstanding →
      (if s'.spawn.pastCheck then 2 else 1) ≤ s'.outstanding)
    (hawake : s'.spawn = .waiting → s'.irqWriteCnt = s'.irqReadCnt) : Handover s' := by
  apply hhandover.task hthreads hsame.rxIrqCnt _ _ _ hrequests hserved _ hawake
  · intro thread hthread
    rw [hlock, hthread]
  · intro hholds
    rw [hafter] at hholds
    cases hholds
  · have hholder := hhandover.holder
    rw [HolderKnows] at hholder ⊢
    rw [hlock, hthreads]
    split at hholder
    · rwa [hsame.waitForCmdResp, hsame.between]
    · rwa [hsame.cmdHolds]
    · rw [hspawn] at hholder
      exact absurd hholder (not_spawnHolds hbefore)
  · intro hmasked
    rw [hsame.masked] at hmasked
    rw [hspawn]
    exact ⟨hmasked, hdue⟩

/-- The task takes the lock. -/
theorem Handover.taskLock (hhandover : Handover s) {before : SpawnPos}
    (hspawn : s.spawn = before) (hfree : s.globalLock = none)
    (hlock : s'.globalLock = some .spawn) (hsame : SameMessages s s')
    (hthreads : s'.thread = s.thread) (hwrite : s'.irqWriteCnt = s.irqWriteCnt)
    (hread : s'.irqReadCnt = s.irqReadCnt) (houtstanding : s'.outstanding = s.outstanding)
    (hholds : s.waitForCmdResp = false ∧ s.Between 0 → SpawnHolds s' s'.spawn)
    (hserves : s'.spawn.serves = true → before.serves = true)
    (hpast : s'.spawn.pastCheck = false) (hbusy : s'.spawn ≠ .waiting) : Handover s' := by
  apply hhandover.task hthreads hsame.rxIrqCnt
  · intro thread hthread
    rw [hfree] at hthread
    cases hthread
  · exact fun _ => hlock
  · have hholder := hhandover.holder
    rw [HolderKnows, hfree] at hholder
    rw [HolderKnows, hlock]
    exact hholds hholder
  · rw [hwrite, hread, houtstanding]
    exact hhandover.requests
  · intro hserving
    rw [houtstanding]
    exact hhandover.served (by rw [hspawn, hserves hserving])
  · intro hmasked
    rw [hsame.masked] at hmasked
    refine ⟨hmasked, fun hrequest => ?_⟩
    rw [houtstanding, hpast, if_neg (by simp)]
    split at hrequest <;> omega
  · exact fun hidle => absurd hidle hbusy

/-- The task gives up the lock. -/
theorem Handover.taskUnlock (hhandover : Handover s) {before : SpawnPos}
    (hspawn : s.spawn = before) (hbefore : before.holdsLock = true)
    (hafter : s'.spawn.holdsLock = false) (hlock : s'.globalLock = none)
    (hsame : SameMessages s s') (hthreads : s'.thread = s.thread)
    (hwrite : s'.irqWriteCnt = s.irqWriteCnt) (hread : s'.irqReadCnt = s.irqReadCnt)
    (houtstanding : s'.outstanding = s.outstanding)
    (hholds : SpawnHolds s before → s.waitForCmdResp = false ∧ s.Between 0)
    (hserves : s'.spawn.serves = before.serves) (hpast : s'.spawn.pastCheck = before.pastCheck)
    (hbusy : s'.spawn ≠ .waiting) : Handover s' := by
  have hlockBefore := hhandover.spawn_lock (by rw [hspawn, hbefore])
  apply hhandover.task hthreads hsame.rxIrqCnt
  · intro thread hthread
    rw [hlockBefore] at hthread
    cases hthread
  · intro hstill
    rw [hafter] at hstill
    cases hstill
  · rw [HolderKnows, hlock]
    simp only [hsame.waitForCmdResp, hsame.between]
    exact hholds (hhandover.spawnHolds_at hspawn hbefore)
  · rw [hwrite, hread, houtstanding]
    exact hhandover.requests
  · rw [houtstanding, hserves, ← hspawn]
    exact hhandover.served
  · intro hmasked
    rw [hsame.masked] at hmasked
    rw [houtstanding, hpast, hspawn]
    exact ⟨hmasked, id⟩
  · exact fun hidle => absurd hidle hbusy

/-- One statement of the spawn task.  A request is used up by one look at the counters
under the lock, and a message that comes behind that look has made one of its own. -/
theorem Handover.spawn (hhandover : Handover s) (hstep : spawnStep s = some s') :
    Handover s' := by
  cases hspawn : s.spawn with
  | waiting =>
      simp only [spawnStep, hspawn, Option.ite_none_right_eq_some] at hstep
      cases hstep.2
      exact hhandover.taskOutside hspawn rfl rfl rfl ⟨rfl, rfl, rfl, rfl, rfl⟩ rfl
        hhandover.requests (fun hserves => by cases hserves) id (fun hidle => by cases hidle)
  | loading =>
      simp only [spawnStep, hspawn] at hstep
      cases hstep
      exact hhandover.taskOutside hspawn rfl rfl rfl ⟨rfl, rfl, rfl, rfl, rfl⟩ rfl
        hhandover.requests (fun hserves => by cases hserves) id (fun hidle => by cases hidle)
  | processing more =>
      cases more with
      | false =>
          simp only [spawnStep, hspawn] at hstep
          cases hstep
          exact hhandover.taskOutside hspawn rfl rfl rfl ⟨rfl, rfl, rfl, rfl, rfl⟩ rfl
            hhandover.requests (fun hserves => by cases hserves) id (fun hidle => by cases hidle)
      | true =>
          simp only [spawnStep, hspawn, Option.ite_none_right_eq_some,
            Option.isNone_iff_eq_none] at hstep
          cases hstep.2
          exact hhandover.taskLock hspawn hstep.1 rfl ⟨rfl, rfl, rfl, rfl, rfl⟩ rfl rfl rfl rfl id
            (fun hserves => by cases hserves) rfl (by simp)
  | handlingItem more =>
      simp only [spawnStep, hspawn] at hstep
      cases hstep
      exact hhandover.taskUnlock hspawn rfl rfl rfl ⟨rfl, rfl, rfl, rfl, rfl⟩ rfl rfl rfl rfl id
        rfl rfl (by simp)
  | serving =>
      simp only [spawnStep, hspawn] at hstep
      cases hstep
      by_cases hnone : s.irqWriteCnt = s.irqReadCnt
      · rw [if_pos hnone]
        exact hhandover.taskOutside hspawn rfl rfl rfl ⟨rfl, rfl, rfl, rfl, rfl⟩ rfl
          hhandover.requests (fun hserves => by cases hserves) id (fun _ => hnone)
      · rw [if_neg hnone]
        have hsome : 0 < s.outstanding := by
          rw [Nat.pos_iff_ne_zero]
          intro hzero
          have hrequests := hhandover.requests
          rw [hzero] at hrequests
          exact hnone (by simpa using hrequests)
        exact hhandover.taskOutside hspawn rfl rfl rfl ⟨rfl, rfl, rfl, rfl, rfl⟩ rfl
          hhandover.requests (fun _ => hsome) id (fun hidle => by cases hidle)
  | entering =>
      simp only [spawnStep, hspawn, Option.ite_none_right_eq_some,
        Option.isNone_iff_eq_none] at hstep
      cases hstep.2
      exact hhandover.taskLock hspawn hstep.1 rfl ⟨rfl, rfl, rfl, rfl, rfl⟩ rfl rfl rfl rfl id
        (fun _ => rfl) rfl (by simp)
  | checking =>
      simp only [spawnStep, hspawn] at hstep
      cases hstep
      have hholds : s.waitForCmdResp = false ∧ s.Between 0 := hhandover.spawnHolds_at hspawn rfl
      have hpending := pendingRxMsg_iff hholds.2
      by_cases htest : s.pendingRxMsg = true
      · rw [if_pos htest]
        exact hhandover.taskInside hspawn rfl rfl rfl rfl rfl rfl rfl rfl
          ⟨hholds.1, hholds.2, hpending.mp htest⟩ (fun _ => rfl)
          (fun hmasked => ⟨hmasked, fun hpast => by cases hpast⟩)
      · rw [if_neg htest]
        exact hhandover.taskInside hspawn rfl rfl rfl rfl rfl rfl rfl rfl hholds (fun _ => rfl)
          (fun hmasked => absurd (hpending.mpr hmasked) htest)
  | reading =>
      simp only [spawnStep, hspawn] at hstep
      cases hstep
      have hholds : s.waitForCmdResp = false ∧ s.Between 0 ∧ s.masked = true :=
        hhandover.spawnHolds_at hspawn rfl
      exact hhandover.taskInside hspawn rfl rfl rfl rfl rfl rfl rfl rfl
        ⟨hholds.1, hholds.2.1.read hholds.2.2⟩ (fun _ => rfl) (fun hmasked => by cases hmasked)
  | counting message =>
      simp only [spawnStep, hspawn] at hstep
      cases hstep
      have hholds : s.waitForCmdResp = false ∧ s.Between 1 := hhandover.spawnHolds_at hspawn rfl
      exact hhandover.taskInside hspawn rfl rfl rfl rfl rfl rfl rfl rfl
        ⟨hholds.1, hholds.2.count⟩ (fun _ => rfl) (fun hmasked => ⟨hmasked, fun _ => rfl⟩)
  | handling message =>
      simp only [spawnStep, hspawn] at hstep
      cases hstep
      have hholds : s.waitForCmdResp = false ∧ s.Between 0 := hhandover.spawnHolds_at hspawn rfl
      exact hhandover.taskInside hspawn rfl rfl rfl rfl rfl rfl rfl rfl hholds (fun _ => rfl)
        (fun hmasked => ⟨hmasked, fun _ => rfl⟩)
  | unlocking =>
      simp only [spawnStep, hspawn] at hstep
      cases hstep
      exact hhandover.taskUnlock hspawn rfl rfl rfl ⟨rfl, rfl, rfl, rfl, rfl⟩ rfl rfl rfl rfl id
        rfl rfl (by simp)
  | returned =>
      simp only [spawnStep, hspawn] at hstep
      cases hstep
      have hserved : 0 < s.outstanding := hhandover.served (by rw [hspawn]; rfl)
      have hrequests : s.irqWriteCnt = s.irqReadCnt + 1 + BitVec.ofNat 8 (s.outstanding - 1) := by
        have hone : s.outstanding = 1 + (s.outstanding - 1) := by omega
        have hall := hhandover.requests
        rw [hone, BitVec.ofNat_add, ← BitVec.add_assoc] at hall
        exact hall
      exact hhandover.taskOutside hspawn rfl rfl rfl ⟨rfl, rfl, rfl, rfl, rfl⟩ rfl hrequests
        (fun hserves => by cases hserves) (fun hrequest => Nat.le_sub_one_of_lt hrequest)
        (fun hidle => by cases hidle)

end Spawn

section Runs

variable {T : Type*} {s s' : RxSys T}

theorem CmdPos.yetToCheck_of_owes {pos : CmdPos} {rxIrqCnt : Byte}
    (howes : pos.owes rxIrqCnt = true) : pos.yetToCheck = true := by
  cases pos <;> simp_all [CmdPos.owes, CmdPos.yetToCheck]

theorem Handover.request_of_outstanding (hhandover : Handover s) (hfew : s.outstanding < 256)
    (hsome : 0 < s.outstanding) : s.irqWriteCnt ≠ s.irqReadCnt := by
  intro hnone
  have hzero : BitVec.ofNat 8 s.outstanding = 0 := by
    have hrequests := hhandover.requests
    rw [hnone] at hrequests
    simpa using hrequests.symm
  have hmod := congrArg BitVec.toNat hzero
  rw [BitVec.toNat_ofNat, Nat.mod_eq_of_lt hfew] at hmod
  change s.outstanding = 0 at hmod
  omega

/-- Unless the interrupt is masked, counters that differ stand for a message that was
read and not counted. -/
theorem Handover.counting_of_not_masked (hhandover : Handover s) (hmasked : s.masked = false)
    (hpending : s.rxIrqCnt ≠ s.rxDoneCnt) :
    (∃ thread message, s.thread thread = .counting message) ∨
      ∃ message, s.spawn = .counting message := by
  have hnone : ¬ s.Between 0 := by
    intro hbetween
    rw [RxSys.Between, hmasked] at hbetween
    exact hpending (by simpa using hbetween)
  have hholder := hhandover.holder
  rw [HolderKnows] at hholder
  split at hholder
  · exact absurd hholder.2 hnone
  · rename_i thread _
    left
    refine ⟨thread, ?_⟩
    cases hpos : s.thread thread <;> rw [hpos] at hholder <;> simp_all [CmdHolds]
  · right
    cases hpos : s.spawn <;> rw [hpos] at hholder <;> simp_all [SpawnHolds]

theorem Handover.messageDue (hhandover : Handover s) : MessageDue s := by
  constructor
  case reader =>
    intro hfew hpending
    have hrequest : 0 < s.outstanding → s.irqWriteCnt ≠ s.irqReadCnt :=
      hhandover.request_of_outstanding hfew
    cases hmasked : s.masked with
    | true =>
        rcases hhandover.due hmasked with ⟨thread, howes⟩ | hsome
        · exact Or.inl ⟨thread, CmdPos.yetToCheck_of_owes howes⟩
        · right
          left
          apply hrequest
          split at hsome <;> omega
    | false =>
        rcases hhandover.counting_of_not_masked hmasked hpending with
          ⟨thread, message, hthread⟩ | ⟨message, hspawn⟩
        · exact Or.inl ⟨thread, by rw [hthread]; rfl⟩
        · exact Or.inr (Or.inl (hrequest (hhandover.served (by rw [hspawn]; rfl))))
  case cmd_awake =>
    intro thread hthread hpending
    have hholds : s.waitForCmdResp = true ∧ s.Between 0 ∧ (s.masked = true → s.cmdSyncObj = true) :=
      hhandover.cmdHolds_at hthread rfl
    apply hholds.2.2
    apply (pendingRxMsg_iff hholds.2.1).mp
    simpa [RxSys.pendingRxMsg] using hpending
  case spawn_awake => exact hhandover.awake

variable [DecidableEq T]

theorem Handover.step (hhandover : Handover s) {irqFirst : Bool} {act : RxAct T}
    (hstep : step irqFirst s act = some s') : Handover s' := by
  cases act with
  | irq announced =>
      rw [RxHandover.step, Option.ite_none_left_eq_some, Option.some.injEq] at hstep
      rw [← hstep.2]
      exact hhandover.irq announced (Bool.eq_false_of_not_eq_true hstep.1)
  | cmd thread => exact hhandover.cmd hstep
  | spawn => exact hhandover.spawn hstep

/-- However the interrupt, the command threads and the spawn task are interleaved, a
received message that nobody has counted yet is left to a command thread ahead of its
last test or to a request. -/
theorem messageDue_always (irqFirst : Bool) (acts : List (RxAct T)) :
    StatesSatisfy (step irqFirst) MessageDue (initial T) acts := by
  intro before _ reached hreached
  exact Handover.messageDue
    (run_invariant (fun _ _ _ hs hnext => Handover.step hs hnext) initial_handover hreached)

/-- The async event comes while the command handles its response: the last test of the
command finds it. -/
example :
    ((run (step true) (initial Unit)
      ([.cmd (), .cmd (), .cmd (), .cmd (), .cmd (), .irq ⟨.cmdResp, true⟩, .cmd (), .cmd (),
        .cmd (), .cmd (), .irq ⟨.asyncEvt, true⟩] ++ List.replicate 10 (.cmd ()))).map
      fun s => (s.waitForCmdResp, s.pendingRxMsg, s.thread (), s.irqWriteCnt, s.spawnSyncObj))
    = some (false, true, .idle, 1, true) := by decide

end Runs

end SimpleLinkHost.RxHandover
