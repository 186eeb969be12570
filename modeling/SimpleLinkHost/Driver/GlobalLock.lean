import SimpleLinkHost.Driver.Calls

/-!
# The global lock

The wrappers around the global and the protection lock, the two checking macros,
and `_SlDrvObjGlobalLockWaitForever`, which takes the lock only for calls that
the device status allows.
-/

namespace SimpleLinkHost.GlobalLock

open CallOutcome Calls

/-- `SL_DRV_PROTECTION_OBJ_LOCK_FOREVER` -/
def protectionObjLockForever : DrvM Unit := emit (.lock .protectionLockObj)

/-- `SL_DRV_PROTECTION_OBJ_UNLOCK` -/
def protectionObjUnlock : DrvM Unit := emit (.unlock .protectionLockObj)

def slDrvUpdateApiInProgress (value : ℤ) : DrvM Unit := do
  protectionObjLockForever
  emit (.apiInProgress value)
  protectionObjUnlock

theorem completes_slDrvUpdateApiInProgress (value : ℤ) (s : DrvState) :
    Completes (slDrvUpdateApiInProgress value) s fun _ after => Reaches s s.held after := by
  have hreaches := ((Reaches.refl (s := s)).lock .protectionLockObj).neutral
    (rfl : lockEvent (.apiInProgress value) = none) |>.unlock .protectionLockObj
  rw [without_holding] at hreaches
  simpa only [Completes, slDrvUpdateApiInProgress, protectionObjLockForever,
    protectionObjUnlock, ends_bind, ends_emit] using hreaches

/-- `_SlDrvGlobalObjUnLock` -/
def slDrvGlobalObjUnLock (bDecrementApiInProgress : Bool) : DrvM Unit := do
  emit (.unlock .globalLockObj)
  if bDecrementApiInProgress then slDrvUpdateApiInProgress (-1)

theorem completes_slDrvGlobalObjUnLock (bDecrementApiInProgress : Bool) (s : DrvState) :
    Completes (slDrvGlobalObjUnLock bDecrementApiInProgress) s fun _ after =>
      Reaches s (without s.held .globalLockObj) after := by
  have hunlock := (Reaches.refl (s := s)).unlock .globalLockObj
  rw [Completes, slDrvGlobalObjUnLock, ends_bind, ends_emit]
  cases bDecrementApiInProgress with
  | false => exact hunlock
  | true =>
      apply (completes_slDrvUpdateApiInProgress _ _).mono
      intro _ after hafter
      rw [hunlock.held] at hafter
      exact hunlock.trans hafter

/-- `VERIFY_PROTOCOL` and `VERIFY_SOCKET_CB`: a failed check is reported as a
fatal error and the function goes on. -/
def verifyProtocol (check : Bool) : DrvM Unit :=
  if check then pure () else emit (.fatalError .driverAbort)

theorem completes_verifyProtocol (check : Bool) (s : DrvState) :
    Completes (verifyProtocol check) s fun _ after => Reaches s s.held after := by
  cases check with
  | true => exact Reaches.refl
  | false => exact Reaches.refl.neutral rfl

/-- `_SL_ASSERT_ERROR`: a failed check is reported and returned. -/
def slAssertError (check : Bool) (error : RetCode) : DrvM Unit :=
  if check then pure ()
  else do
    emit (.fatalError .driverAbort)
    throw error

theorem ends_slAssertError (check : Bool) (error : RetCode) (s : DrvState) :
    Ends (slAssertError check error) s (fun _ after => check ∧ Reaches s s.held after)
      fun ret after => ¬check ∧ ret = error ∧ Reaches s s.held after := by
  cases check with
  | true => exact ⟨rfl, Reaches.refl⟩
  | false => exact ⟨by simp, rfl, Reaches.refl.neutral rfl⟩

/-- The device status flags as read at one moment. -/
structure DevFlags where
  restartRequired : Bool
  commandAllowed : Bool
  deviceStarted : Bool
  deviceLocked : Bool
  deviceStartInProgress : Bool
  deviceStopInProgress : Bool
  provisioningInProgress : Bool
  provisioningActive : Bool
  provisioningInitiatedByUser : Bool
  provisioningApiAllowed : Bool

/-- `_SlDrvDriverIsApiAllowed` -/
def slDrvDriverIsApiAllowed (flags : DevFlags) (siloIsFS : Bool) : RetCode :=
  if !flags.commandAllowed then
    if flags.deviceStopInProgress then .stopInProgress
    else if flags.deviceLocked && !siloIsFS then .devLocked
    else if flags.restartRequired then .apiAborted
    else if !flags.deviceStarted then .devNotStarted
    else if (flags.provisioningActive || flags.provisioningInitiatedByUser)
        && !flags.provisioningApiAllowed then
      .provisioningInProgress
    else .ok
  else .ok

/-- The `Flags` of `_SlDrvObjGlobalLockWaitForever`: its two bits and the opcode
in the upper half, of which only two facts are used. -/
structure GlobalLockFlags where
  updateApiInProgress : Bool
  provisioningStopApi : Bool
  opcodeIsDeviceStop : Bool
  siloIsFS : Bool

/-- What the wrapper reads: the flags before it waits for the lock, the status of
the lock call, and the flags afterwards. -/
structure GlobalLockEnv where
  before : DevFlags
  lockStatus : ℤ
  after : DevFlags

/-- The end of `_SlDrvObjGlobalLockWaitForever`, with the lock taken and the call
allowed. -/
def countGlobalLockCall (flags : GlobalLockFlags) (status : DevFlags) : DrvM RetCode :=
  if flags.updateApiInProgress then
    if !status.provisioningActive || status.provisioningApiAllowed then do
      slDrvUpdateApiInProgress 1
      return .ok
    else if !flags.provisioningStopApi then do
      slDrvGlobalObjUnLock true
      return .provisioningInProgress
    else return .ok
  else return .ok

/-- `_SlDrvObjGlobalLockWaitForever` -/
def slDrvObjGlobalLockWaitForever (flags : GlobalLockFlags) (env : GlobalLockEnv) :
    DrvM RetCode := do
  if env.before.restartRequired then
    return .apiAborted
  -- every later exit returns the status of a failed lock call unchanged
  if env.lockStatus ≠ 0 then
    return .osi env.lockStatus
  emit (.lock .globalLockObj)
  if env.after.deviceStartInProgress || env.after.deviceStopInProgress
      || env.after.provisioningInProgress then
    return .ok
  if !flags.opcodeIsDeviceStop then
    let status := slDrvDriverIsApiAllowed env.after flags.siloIsFS
    if status ≠ .ok then
      emit (.unlock .globalLockObj)
      return status
  countGlobalLockCall flags env.after

/-- The device status lets a call with these flags be counted. -/
def DevFlags.countable (status : DevFlags) (flags : GlobalLockFlags) : Bool :=
  !flags.updateApiInProgress || !status.provisioningActive || status.provisioningApiAllowed
    || flags.provisioningStopApi

/-- The device status lets a call with these flags go on. -/
def DevFlags.admits (status : DevFlags) (flags : GlobalLockFlags) : Bool :=
  (flags.opcodeIsDeviceStop || slDrvDriverIsApiAllowed status flags.siloIsFS = .ok)
    && status.countable flags

/-- The lock is taken and the call may go on. -/
def GlobalLockEnv.granted (env : GlobalLockEnv) (flags : GlobalLockFlags) : Bool :=
  !env.before.restartRequired && env.lockStatus == 0 &&
    (env.after.deviceStartInProgress || env.after.deviceStopInProgress
      || env.after.provisioningInProgress || env.after.admits flags)

/-- What the caller of the wrapper holds afterwards. -/
def heldIf (granted : Bool) (held : LockObj → Option ℕ) : LockObj → Option ℕ :=
  if granted then holding held .globalLockObj else held

/-- A started device with nothing in progress. -/
def startedFlags : DevFlags where
  restartRequired := false
  commandAllowed := true
  deviceStarted := true
  deviceLocked := false
  deviceStartInProgress := false
  deviceStopInProgress := false
  provisioningInProgress := false
  provisioningActive := false
  provisioningInitiatedByUser := false
  provisioningApiAllowed := false

def freeGlobalLock : GlobalLockEnv where
  before := startedFlags
  lockStatus := 0
  after := startedFlags

theorem slDrvDriverIsApiAllowed_ne (status : DevFlags) (siloIsFS : Bool) :
    slDrvDriverIsApiAllowed status siloIsFS ≠ .noReturn := by
  rw [slDrvDriverIsApiAllowed]
  split_ifs <;> simp

theorem completes_countGlobalLockCall (flags : GlobalLockFlags) (status : DevFlags)
    (s : DrvState) :
    Completes (countGlobalLockCall flags status) s fun ret after =>
      (ret = .ok ↔ status.countable flags) ∧ ret ≠ .noReturn ∧
        Reaches s (if status.countable flags then s.held else without s.held .globalLockObj)
          after := by
  rw [Completes, countGlobalLockCall]
  by_cases hupdate : flags.updateApiInProgress
  · by_cases hcount : !status.provisioningActive || status.provisioningApiAllowed
    · have hcountable : status.countable flags := by
        rw [DevFlags.countable, Bool.or_assoc (!flags.updateApiInProgress), hcount]
        simp
      rw [if_pos hupdate, if_pos hcount]
      apply (completes_slDrvUpdateApiInProgress 1 s).bind
      intro _ after hafter
      simpa [hcountable] using hafter
    · have hcountable : status.countable flags = flags.provisioningStopApi := by
        rw [DevFlags.countable, Bool.or_assoc (!flags.updateApiInProgress)]
        simp only [Bool.not_eq_true] at hcount
        simp [hcount, hupdate]
      rw [if_pos hupdate, if_neg hcount]
      cases hstop : flags.provisioningStopApi with
      | true => simpa [hcountable, hstop] using Reaches.refl
      | false =>
          apply (completes_slDrvGlobalObjUnLock true s).bind
          intro _ after hafter
          simpa [hcountable, hstop] using hafter
  · have hcountable : status.countable flags := by simp [DevFlags.countable, hupdate]
    rw [if_neg hupdate]
    simpa [hcountable] using Reaches.refl

/-- The wrapper leaves the lock taken exactly when it reports no error. -/
theorem completes_slDrvObjGlobalLockWaitForever (flags : GlobalLockFlags)
    (env : GlobalLockEnv) (s : DrvState) :
    Completes (slDrvObjGlobalLockWaitForever flags env) s fun ret after =>
      (ret = .ok ↔ env.granted flags) ∧ ret ≠ .noReturn ∧
        Reaches s (heldIf (env.granted flags) s.held) after := by
  have hlocked := (Reaches.refl (s := s)).lock .globalLockObj
  have hunlocked := hlocked.unlock .globalLockObj
  rw [without_holding] at hunlocked
  rw [Completes, slDrvObjGlobalLockWaitForever]
  by_cases hrestart : env.before.restartRequired
  · simp [hrestart, GlobalLockEnv.granted, heldIf, Reaches.refl]
  by_cases hlock : env.lockStatus = 0
  · by_cases hprogress : env.after.deviceStartInProgress || env.after.deviceStopInProgress
      || env.after.provisioningInProgress
    · simpa [hrestart, hlock, hprogress, GlobalLockEnv.granted, heldIf] using hlocked
    · have hgranted : env.granted flags = env.after.admits flags := by
        simp only [Bool.not_eq_true] at hprogress
        simp [GlobalLockEnv.granted, hrestart, hlock, hprogress]
      rw [hgranted]
      by_cases hallowed : flags.opcodeIsDeviceStop
          ∨ slDrvDriverIsApiAllowed env.after flags.siloIsFS = .ok
      · have hadmits : env.after.admits flags = env.after.countable flags := by
          simp [DevFlags.admits, hallowed]
        have hcount := completes_countGlobalLockCall flags env.after
          (s.after (.lock .globalLockObj))
        rw [hadmits]
        have hrun : Completes (countGlobalLockCall flags env.after)
            (s.after (.lock .globalLockObj)) fun ret after =>
              (ret = .ok ↔ env.after.countable flags) ∧ ret ≠ .noReturn ∧
                Reaches s (heldIf (env.after.countable flags) s.held) after := by
          apply hcount.mono
          intro ret after hafter
          refine ⟨hafter.1, hafter.2.1, ?_⟩
          have hreaches := hlocked.trans hafter.2.2
          rwa [hlocked.held, without_holding] at hreaches
        rw [Completes] at hrun
        rcases hallowed with hstop | hstatus
        · simpa [hrestart, hlock, hprogress, hstop] using hrun
        · simpa [hrestart, hlock, hprogress, hstatus] using hrun
      · rw [not_or] at hallowed
        have hadmits : env.after.admits flags = false := by
          simp [DevFlags.admits, hallowed]
        simpa [hrestart, hlock, hprogress, hallowed, hadmits, heldIf,
          slDrvDriverIsApiAllowed_ne] using hunlocked
  · simp [hrestart, hlock, GlobalLockEnv.granted, heldIf, Reaches.refl]

/-- `SL_DRV_LOCK_GLOBAL_LOCK_FOREVER`: the enclosing function returns when the
wrapper reports an error. -/
def lockGlobalLockForever (flags : GlobalLockFlags) (env : GlobalLockEnv) : DrvM Unit := do
  let ret ← slDrvObjGlobalLockWaitForever flags env
  if ret ≠ .ok then throw ret

theorem ends_lockGlobalLockForever (flags : GlobalLockFlags) (env : GlobalLockEnv)
    (s : DrvState) :
    Ends (lockGlobalLockForever flags env) s
      (fun _ after => env.granted flags ∧ Reaches s (holding s.held .globalLockObj) after)
      fun ret after => ¬env.granted flags ∧ ret ≠ .noReturn ∧ Reaches s s.held after := by
  apply (completes_slDrvObjGlobalLockWaitForever flags env s).bind
  intro ret after hafter
  obtain ⟨hgranted, hreturn, hreaches⟩ := hafter
  by_cases hret : ret = .ok
  · have hyes := hgranted.mp hret
    rw [hyes, heldIf, if_pos rfl] at hreaches
    simpa [hret, hyes] using hreaches
  · have hno := mt hgranted.mpr hret
    rw [heldIf, if_neg hno] at hreaches
    simpa [hret, hno, hreturn] using hreaches

end SimpleLinkHost.GlobalLock
