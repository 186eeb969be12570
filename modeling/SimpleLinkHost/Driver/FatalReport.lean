import SimpleLinkHost.Core.Monitor
import SimpleLinkHost.Core.Transition
import SimpleLinkHost.Driver.PoolFatalError

/-!
# Fatal errors and waits of several threads

`_SlDrvHandleFatalError` tests the restart flag and sets it in two statements and outside of
any lock, and signals the objects of the pool one after the other.  Meanwhile other threads
wait for these objects, or have a wait run out, which raises an error of its own.  Each
statement is a step here, so every order of them is a run.
-/

namespace SimpleLinkHost.FatalReport

open Monitor Transition

section System

/-- The error numbers that `_SlDrvHandleFatalError` tells apart, and all others. -/
inductive FatalId
  | deviceAbort
  | driverAbort
  | noCmdAck
  | syncLoss
  | cmdTimeout
  | other (errorId : BitVec 32)
deriving DecidableEq

/-- A call of `_SlDrvHandleFatalError` -/
structure ErrorCall where
  errorId : FatalId
  info1 : BitVec 32
  info2 : BitVec 32
deriving DecidableEq

/-- The `Data` of `SlDeviceFatal_t`, all of it zero at first. -/
inductive FatalData
  | zero
  | deviceAssert (code value : BitVec 32)
  | noCmdAck (code : BitVec 32)
  | cmdTimeout (code : BitVec 32)
deriving DecidableEq

/-- `SlDeviceFatal_t` -/
structure SlDeviceFatal where
  id : FatalId
  data : FatalData
deriving DecidableEq

/-- The event that a call prepares for the application. -/
def fatalEvent (call : ErrorCall) : SlDeviceFatal where
  id := call.errorId
  data :=
    match call.errorId with
    | .deviceAbort => .deviceAssert call.info1 call.info2
    | .noCmdAck => .noCmdAck call.info1
    | .cmdTimeout => .cmdTimeout call.info1
    | .syncLoss | .driverAbort | .other _ => .zero

/-- A wait for the sync object of a pool object; `limit` is the time-out of
`_SlDrvSyncObjWaitTimeout` with the opcode that is awaited, none in
`_SlDrvSyncObjWaitForever`. -/
structure Wait where
  obj : ℕ
  limit : Option (BitVec 32 × BitVec 32)
deriving DecidableEq

/-- What a wait returns. -/
inductive WaitResult
  | ok
  | apiAborted
deriving DecidableEq

/-- Who has called `_SlDrvHandleFatalError`: a wait that has run out returns
`SL_API_ABORTED` after it. -/
structure Caller where
  call : ErrorCall
  ranOut : Bool
deriving DecidableEq

/-- The statement in front of which a thread stands. -/
inductive Place
  | idle
  | testing (caller : Caller)
  | setting (caller : Caller)
  | signalling (caller : Caller) (next : ℕ)
  | notifying (caller : Caller)
  | waiting (wait : Wait)
  /-- The wait is over, the flag is not tested yet. -/
  | woken
deriving DecidableEq

/-- What is noted of a run. -/
inductive Output (T : Type*)
  /-- A call finds the flag clear. -/
  | passed (thread : T) (call : ErrorCall)
  | restartSet
  | reported (thread : T) (event : SlDeviceFatal)
  /-- A wait takes the signal of its object. -/
  | took (obj : ℕ)
  | returned (thread : T) (result : WaitResult)

structure FatalSys (T : Type*) where
  restartRequired : Bool
  syncObj : ℕ → Bool
  place : T → Place
  outputs : List (Output T)

inductive FatalAct (T : Type*)
  | raise (thread : T) (call : ErrorCall)
  | wait (thread : T) (wait : Wait)
  /-- The thread's next statement. -/
  | goes (thread : T)
  /-- The time of a wait is over. -/
  | expires (thread : T)
  /-- What a call waited for has arrived. -/
  | signal (obj : ℕ)

variable {T : Type*} [DecidableEq T]

def FatalSys.move (s : FatalSys T) (thread : T) (place : Place) : FatalSys T :=
  { s with place := Function.update s.place thread place }

omit [DecidableEq T] in
def FatalSys.emit (s : FatalSys T) (output : Output T) : FatalSys T :=
  { s with outputs := s.outputs ++ [output] }

/-- The end of `_SlDrvHandleFatalError`, and of the wait that has called it. -/
def leave (s : FatalSys T) (thread : T) (caller : Caller) : FatalSys T :=
  if caller.ranOut then (s.move thread .idle).emit (.returned thread .apiAborted)
  else s.move thread .idle

/-- The next statement of a thread; the pool has `maxConcurrentActions` objects. -/
def goes (maxConcurrentActions : ℕ) (s : FatalSys T) (thread : T) : Option (FatalSys T) :=
  match s.place thread with
  | .idle => none
  | .testing caller =>
      if s.restartRequired then some (leave s thread caller)
      else some ((s.move thread (.setting caller)).emit (.passed thread caller.call))
  | .setting caller =>
      some ({ s.move thread (.signalling caller 0) with restartRequired := true }.emit .restartSet)
  | .signalling caller next =>
      if next < maxConcurrentActions then
        some { s.move thread (.signalling caller (next + 1)) with
          syncObj := Function.update s.syncObj next true }
      else some (s.move thread (.notifying caller))
  | .notifying caller =>
      some (leave (s.emit (.reported thread (fatalEvent caller.call))) thread caller)
  | .waiting wait =>
      if s.syncObj wait.obj then
        some ({ s.move thread .woken with
          syncObj := Function.update s.syncObj wait.obj false }.emit (.took wait.obj))
      else none
  | .woken =>
      let result := if s.restartRequired then .apiAborted else .ok
      some ((s.move thread .idle).emit (.returned thread result))

def step (maxConcurrentActions : ℕ) (s : FatalSys T) : FatalAct T → Option (FatalSys T)
  | .raise thread call =>
      if s.place thread = .idle then some (s.move thread (.testing ⟨call, false⟩)) else none
  | .wait thread wait =>
      if s.place thread = .idle then some (s.move thread (.waiting wait)) else none
  | .goes thread => goes maxConcurrentActions s thread
  | .expires thread =>
      match s.place thread with
      | .waiting ⟨_, some (timeout, opcode)⟩ =>
          some (s.move thread (.testing ⟨⟨.cmdTimeout, opcode, timeout⟩, true⟩))
      | _ => none
  | .signal obj => some { s with syncObj := Function.update s.syncObj obj true }

/-- The device is started, and nobody is inside of the driver. -/
def beginning (syncObj : ℕ → Bool) : FatalSys T where
  restartRequired := false
  syncObj := syncObj
  place := fun _ => .idle
  outputs := []

end System

section Property

variable {T : Type*} [DecidableEq T]

/-- The calls of a thread that found the flag clear. -/
def passedBy (thread : T) (outputs : List (Output T)) : List ErrorCall :=
  outputs.filterMap fun
    | .passed other call => if other = thread then some call else none
    | _ => none

/-- The events that a thread has reported. -/
def reportedBy (thread : T) (outputs : List (Output T)) : List SlDeviceFatal :=
  outputs.filterMap fun
    | .reported other event => if other = thread then some event else none
    | _ => none

/-- The call whose event is still to be reported. -/
def underWay : Place → Option ErrorCall
  | .setting caller | .signalling caller _ | .notifying caller => some caller.call
  | _ => none

omit [DecidableEq T] in
/-- How many calls found the flag clear. -/
def passes (outputs : List (Output T)) : ℕ :=
  outputs.countP fun
    | .passed _ _ => true
    | _ => false

omit [DecidableEq T] in
/-- No thread tests the flag while another one is between its test and its store. -/
def TestsAlone (s : FatalSys T) (act : FatalAct T) : Prop :=
  ∀ thread caller, act = .goes thread → s.place thread = .testing caller →
    s.restartRequired = false → ∀ other held, s.place other ≠ .setting held

omit [DecidableEq T] in
/-- Whether the flag was set. -/
def flagSeen (flag : Bool) : Output T → Bool
  | .restartSet => true
  | _ => flag

omit [DecidableEq T] in
/-- A wait returns `SL_API_ABORTED` though the flag was not set, or another status though it
was. -/
def wrongStatus (flag : Bool) : Output T → Bool
  | .returned _ result => decide (result = .apiAborted) != flag
  | _ => false

omit [DecidableEq T] in
/-- A wait has taken the signal of the object since the flag was set. -/
def TakenSince (outputs : List (Output T)) (obj : ℕ) : Prop :=
  ∃ before after, outputs = before ++ .restartSet :: after ∧ .took obj ∈ after

end Property

section Steps

variable {T : Type*} [DecidableEq T] {n : ℕ} {s after : FatalSys T}

/-- What a step can do. -/
inductive StepCase (n : ℕ) (s : FatalSys T) : FatalAct T → FatalSys T → Prop
  /-- A call or a wait begins, or a wait runs out. -/
  | enters {act : FatalAct T} {thread : T} {place : Place} (hgoes : ∀ other, act ≠ .goes other)
      (hbefore : underWay (s.place thread) = none)
      (hplace : underWay place = none) : StepCase n s act (s.move thread place)
  | finds {thread : T} {caller : Caller} (hplace : s.place thread = .testing caller)
      (hflag : s.restartRequired = true) : StepCase n s (.goes thread) (leave s thread caller)
  | passes {thread : T} {caller : Caller} (hplace : s.place thread = .testing caller)
      (hflag : s.restartRequired = false) :
      StepCase n s (.goes thread)
        ((s.move thread (.setting caller)).emit (.passed thread caller.call))
  | sets {thread : T} {caller : Caller} (hplace : s.place thread = .setting caller) :
      StepCase n s (.goes thread)
        ({ s.move thread (.signalling caller 0) with restartRequired := true }.emit .restartSet)
  | signals {thread : T} {caller : Caller} {next : ℕ}
      (hplace : s.place thread = .signalling caller next) (hlt : next < n) :
      StepCase n s (.goes thread)
        { s.move thread (.signalling caller (next + 1)) with
          syncObj := Function.update s.syncObj next true }
  | allSignalled {thread : T} {caller : Caller} {next : ℕ}
      (hplace : s.place thread = .signalling caller next) (hge : n ≤ next) :
      StepCase n s (.goes thread) (s.move thread (.notifying caller))
  | notifies {thread : T} {caller : Caller} (hplace : s.place thread = .notifying caller) :
      StepCase n s (.goes thread)
        (leave (s.emit (.reported thread (fatalEvent caller.call))) thread caller)
  | takes {thread : T} {wait : Wait} (hplace : s.place thread = .waiting wait)
      (hsignal : s.syncObj wait.obj = true) :
      StepCase n s (.goes thread)
        ({ s.move thread .woken with
          syncObj := Function.update s.syncObj wait.obj false }.emit (.took wait.obj))
  | returns {thread : T} (hplace : s.place thread = .woken) :
      StepCase n s (.goes thread)
        ((s.move thread .idle).emit
          (.returned thread (if s.restartRequired then .apiAborted else .ok)))
  | signalled (obj : ℕ) :
      StepCase n s (.signal obj) { s with syncObj := Function.update s.syncObj obj true }

theorem stepCase_goes {thread : T} (hgoes : goes n s thread = some after) :
    StepCase n s (.goes thread) after := by
  cases hplace : s.place thread with
  | idle => simp [goes, hplace] at hgoes
  | testing caller =>
      by_cases hflag : s.restartRequired = true
      · simp only [goes, hplace, hflag, if_true, Option.some.injEq] at hgoes
        exact hgoes ▸ .finds hplace hflag
      · simp only [goes, hplace, hflag, Bool.false_eq_true, if_false, Option.some.injEq] at hgoes
        exact hgoes ▸ .passes hplace (Bool.eq_false_iff.mpr hflag)
  | setting caller =>
      simp only [goes, hplace, Option.some.injEq] at hgoes
      exact hgoes ▸ .sets hplace
  | signalling caller next =>
      by_cases hlt : next < n
      · simp only [goes, hplace, hlt, if_true, Option.some.injEq] at hgoes
        exact hgoes ▸ .signals hplace hlt
      · simp only [goes, hplace, hlt, if_false, Option.some.injEq] at hgoes
        exact hgoes ▸ .allSignalled hplace (not_lt.mp hlt)
  | notifying caller =>
      simp only [goes, hplace, Option.some.injEq] at hgoes
      exact hgoes ▸ .notifies hplace
  | waiting wait =>
      by_cases hsignal : s.syncObj wait.obj = true
      · simp only [goes, hplace, hsignal, if_true, Option.some.injEq] at hgoes
        exact hgoes ▸ .takes hplace hsignal
      · simp [goes, hplace, hsignal] at hgoes
  | woken =>
      simp only [goes, hplace, Option.some.injEq] at hgoes
      exact hgoes ▸ .returns hplace

theorem step_cases {act : FatalAct T} (hstep : step n s act = some after) :
    StepCase n s act after := by
  cases act with
  | raise thread call =>
      simp only [step, Option.ite_none_right_eq_some, Option.some.injEq] at hstep
      obtain ⟨hidle, rfl⟩ := hstep
      exact .enters (by simp) (by rw [hidle]; rfl) rfl
  | wait thread wait =>
      simp only [step, Option.ite_none_right_eq_some, Option.some.injEq] at hstep
      obtain ⟨hidle, rfl⟩ := hstep
      exact .enters (by simp) (by rw [hidle]; rfl) rfl
  | goes thread => exact stepCase_goes hstep
  | expires thread =>
      simp only [step] at hstep
      split at hstep
      · case h_1 obj timeout opcode hplace =>
          rw [Option.some.injEq] at hstep
          rw [← hstep]
          exact .enters (by simp) (by rw [hplace]; rfl) rfl
      · cases hstep
  | signal obj =>
      simp only [step, Option.some.injEq] at hstep
      exact hstep ▸ .signalled obj

end Steps

section Reports

variable {T : Type*} [DecidableEq T] {n : ℕ} {s after : FatalSys T}

@[simp]
theorem place_leave (s : FatalSys T) (thread : T) (caller : Caller) :
    (leave s thread caller).place = Function.update s.place thread .idle := by
  rw [leave]
  split <;> rfl

@[simp]
theorem restartRequired_leave (s : FatalSys T) (thread : T) (caller : Caller) :
    (leave s thread caller).restartRequired = s.restartRequired := by
  rw [leave]
  split <;> rfl

@[simp]
theorem syncObj_leave (s : FatalSys T) (thread : T) (caller : Caller) :
    (leave s thread caller).syncObj = s.syncObj := by
  rw [leave]
  split <;> rfl

theorem outputs_leave (s : FatalSys T) (thread : T) (caller : Caller) :
    (leave s thread caller).outputs =
      s.outputs ++ if caller.ranOut then [.returned thread .apiAborted] else [] := by
  rw [leave]
  split <;> simp [FatalSys.emit, FatalSys.move, *]

/-- What a thread has reported and what it is about to report are the events of its calls
that found the flag clear. -/
def Accounted (thread : T) (s : FatalSys T) : Prop :=
  (passedBy thread s.outputs).map fatalEvent =
    reportedBy thread s.outputs ++ (underWay (s.place thread)).toList.map fatalEvent

/-- A step of a thread that reports nothing and finds nothing. -/
theorem accounted_of_silent {thread : T} (haccounted : Accounted thread s)
    (hpassed : passedBy thread after.outputs = passedBy thread s.outputs)
    (hreported : reportedBy thread after.outputs = reportedBy thread s.outputs)
    (hplace : underWay (after.place thread) = underWay (s.place thread)) :
    Accounted thread after := by
  rw [Accounted, hpassed, hreported, hplace]
  exact haccounted

theorem underWay_update {place : T → Place} {thread : T} {next : Place}
    (hnext : underWay next = underWay (place thread)) (other : T) :
    underWay (Function.update place thread next other) = underWay (place other) := by
  by_cases heq : other = thread
  · rw [heq, Function.update_self, hnext]
  · rw [Function.update_of_ne heq]

@[simp]
theorem passedBy_leave (s : FatalSys T) (thread other : T) (caller : Caller) :
    passedBy other (leave s thread caller).outputs = passedBy other s.outputs := by
  rw [outputs_leave]
  split <;> simp [passedBy]

@[simp]
theorem reportedBy_leave (s : FatalSys T) (thread other : T) (caller : Caller) :
    reportedBy other (leave s thread caller).outputs = reportedBy other s.outputs := by
  rw [outputs_leave]
  split <;> simp [reportedBy]

theorem accounted_step {act : FatalAct T} {other : T} (haccounted : Accounted other s)
    (hstep : step n s act = some after) : Accounted other after := by
  cases step_cases hstep with
  | @enters act thread place hgoes hbefore hplace =>
      exact accounted_of_silent haccounted rfl rfl
        (underWay_update (hplace.trans hbefore.symm) other)
  | @finds thread caller hplace hflag =>
      refine accounted_of_silent haccounted (passedBy_leave ..) (reportedBy_leave ..) ?_
      rw [place_leave]
      exact underWay_update (by rw [hplace]; rfl) other
  | @passes thread caller hplace hflag =>
      by_cases heq : other = thread
      · subst other
        rw [Accounted, hplace] at haccounted
        simpa [Accounted, FatalSys.emit, FatalSys.move, passedBy, reportedBy, underWay]
          using haccounted
      · have hne : thread ≠ other := Ne.symm heq
        simpa [Accounted, FatalSys.emit, FatalSys.move, passedBy, reportedBy, hne,
          Function.update_of_ne heq] using haccounted
  | @sets thread caller hplace =>
      apply accounted_of_silent haccounted
      case hpassed => simp [FatalSys.emit, FatalSys.move, passedBy]
      case hreported => simp [FatalSys.emit, FatalSys.move, reportedBy]
      case hplace => exact underWay_update (by rw [hplace]; rfl) other
  | @signals thread caller next hplace hlt =>
      exact accounted_of_silent haccounted rfl rfl (underWay_update (by rw [hplace]; rfl) other)
  | @allSignalled thread caller next hplace hge =>
      exact accounted_of_silent haccounted rfl rfl (underWay_update (by rw [hplace]; rfl) other)
  | @notifies thread caller hplace =>
      rw [Accounted, passedBy_leave, reportedBy_leave, place_leave]
      by_cases heq : other = thread
      · subst other
        rw [Accounted, hplace] at haccounted
        simpa [FatalSys.emit, passedBy, reportedBy, underWay] using haccounted
      · have hne : thread ≠ other := Ne.symm heq
        simpa [Accounted, FatalSys.emit, passedBy, reportedBy, hne, Function.update_of_ne heq]
          using haccounted
  | @takes thread wait hplace hsignal =>
      apply accounted_of_silent haccounted
      case hpassed => simp [FatalSys.emit, FatalSys.move, passedBy]
      case hreported => simp [FatalSys.emit, FatalSys.move, reportedBy]
      case hplace => exact underWay_update (by rw [hplace]; rfl) other
  | @returns thread hplace =>
      apply accounted_of_silent haccounted
      case hpassed => simp [FatalSys.emit, FatalSys.move, passedBy]
      case hreported => simp [FatalSys.emit, FatalSys.move, reportedBy]
      case hplace => exact underWay_update (by rw [hplace]; rfl) other
  | signalled obj => exact haccounted

/-- As long as the flag is clear, a call that found it so is in front of its store. -/
def PassedWaits (s : FatalSys T) : Prop :=
  s.restartRequired = false →
    (passes s.outputs = 0 ↔ ∀ thread held, s.place thread ≠ .setting held)

theorem passes_leave (s : FatalSys T) (thread : T) (caller : Caller) :
    passes (leave s thread caller).outputs = passes s.outputs := by
  rw [outputs_leave]
  split <;> simp [passes]

/-- A move between two places none of which is the store. -/
theorem settles_update {place : T → Place} {thread : T} {next : Place}
    (hbefore : ∀ held, place thread ≠ .setting held) (hnext : ∀ held, next ≠ .setting held) :
    (∀ other held, Function.update place thread next other ≠ .setting held) ↔
      ∀ other held, place other ≠ .setting held := by
  apply forall_congr'
  intro other
  by_cases heq : other = thread
  · subst other
    rw [Function.update_self]
    exact ⟨fun _ => hbefore, fun _ => hnext⟩
  · rw [Function.update_of_ne heq]

theorem passedWaits_step {act : FatalAct T} (hwaits : PassedWaits s)
    (hstep : step n s act = some after) : PassedWaits after := by
  intro hclear
  cases step_cases hstep with
  | @enters act thread place hgoes hbefore hplace =>
      rw [FatalSys.move, settles_update]
      · exact hwaits hclear
      · intro held heq
        rw [heq] at hbefore
        cases hbefore
      · intro held heq
        rw [heq] at hplace
        cases hplace
  | @finds thread caller hplace hflag =>
      rw [restartRequired_leave, hflag] at hclear
      cases hclear
  | @passes thread caller hplace hflag =>
      constructor
      · intro hzero
        simp [FatalSys.emit, passes] at hzero
      · intro hnone
        exact absurd (by simp [FatalSys.emit, FatalSys.move]) (hnone thread caller)
  | sets => cases hclear
  | @signals thread caller next hplace hlt =>
      rw [FatalSys.move, settles_update (by simp [hplace]) (by simp)]
      exact hwaits hclear
  | @allSignalled thread caller next hplace hge =>
      rw [FatalSys.move, settles_update (by simp [hplace]) (by simp)]
      exact hwaits hclear
  | @notifies thread caller hplace =>
      rw [restartRequired_leave] at hclear
      rw [passes_leave, place_leave]
      rw [settles_update (by simp [FatalSys.emit, hplace]) (by simp)]
      simpa [FatalSys.emit, passes] using hwaits hclear
  | @takes thread wait hplace hsignal =>
      rw [FatalSys.emit, FatalSys.move, settles_update (by simp [hplace]) (by simp)]
      simpa [passes] using hwaits hclear
  | @returns thread hplace =>
      rw [FatalSys.emit, FatalSys.move, settles_update (by simp [hplace]) (by simp)]
      simpa [passes] using hwaits hclear
  | signalled obj => exact hwaits hclear

omit [DecidableEq T] in
/-- Only the test of a clear flag can be out of turn. -/
theorem testsAlone_of_not_tests {thread : T}
    (htests : ∀ caller, s.place thread = .testing caller → s.restartRequired = true) :
    TestsAlone s (.goes thread) := by
  intro other caller heq hplace hclear
  cases heq
  rw [htests caller hplace] at hclear
  cases hclear

/-- A step leaves at most one call that found the flag clear exactly if it tests alone. -/
theorem passes_le_one_step {act : FatalAct T} (hwaits : PassedWaits s)
    (hone : passes s.outputs ≤ 1) (hstep : step n s act = some after) :
    passes after.outputs ≤ 1 ↔ TestsAlone s act := by
  have hother (hpasses : passes after.outputs = passes s.outputs) (halone : TestsAlone s act) :
      passes after.outputs ≤ 1 ↔ TestsAlone s act :=
    ⟨fun _ => halone, fun _ => hpasses ▸ hone⟩
  cases step_cases hstep with
  | @enters act thread place hgoes hbefore hplace =>
      exact hother rfl fun other caller heq => absurd heq (hgoes other)
  | @finds thread caller hplace hflag =>
      exact hother (passes_leave ..) (testsAlone_of_not_tests fun _ _ => hflag)
  | @passes thread caller hplace hflag =>
      have hcount : passes ((s.move thread (.setting caller)).emit
          (.passed thread caller.call)).outputs = passes s.outputs + 1 := by
        simp [FatalSys.emit, FatalSys.move, passes]
      calc passes _ ≤ 1
          ↔ passes s.outputs = 0 := by omega
        _ ↔ ∀ other held, s.place other ≠ .setting held := hwaits hflag
        _ ↔ TestsAlone s (.goes thread) := by
            constructor
            · exact fun hnone _ _ _ _ _ => hnone
            · exact fun halone => halone thread caller rfl hplace hflag
  | @sets thread caller hplace =>
      exact hother (by simp [FatalSys.emit, FatalSys.move, passes])
        (testsAlone_of_not_tests (by simp [hplace]))
  | @signals thread caller next hplace hlt =>
      exact hother rfl (testsAlone_of_not_tests (by simp [hplace]))
  | @allSignalled thread caller next hplace hge =>
      exact hother rfl (testsAlone_of_not_tests (by simp [hplace]))
  | @notifies thread caller hplace =>
      exact hother (by rw [passes_leave]; simp [FatalSys.emit, passes])
        (testsAlone_of_not_tests (by simp [hplace]))
  | @takes thread wait hplace hsignal =>
      exact hother (by simp [FatalSys.emit, FatalSys.move, passes])
        (testsAlone_of_not_tests (by simp [hplace]))
  | @returns thread hplace =>
      exact hother (by simp [FatalSys.emit, FatalSys.move, passes])
        (testsAlone_of_not_tests (by simp [hplace]))
  | signalled obj =>
      exact hother rfl fun thread caller heq => by cases heq

/-- Each thread reports, in order, the events of its calls that found the flag clear, and no
more than one call in all finds it clear exactly if none tests the flag between the test of
another one and its store. -/
theorem reports_exactly (n : ℕ) (syncObj : ℕ → Bool) (acts : List (FatalAct T)) :
    StatesSatisfy (step n) (fun s => ∀ thread,
        (passedBy thread s.outputs).map fatalEvent =
          reportedBy thread s.outputs ++ (underWay (s.place thread)).toList.map fatalEvent)
      (beginning syncObj) acts ∧
    (StatesSatisfy (step n) (fun s => passes s.outputs ≤ 1) (beginning syncObj) acts ↔
      StepsSatisfy (step n) TestsAlone (beginning syncObj) acts) := by
  constructor
  · intro before _ reached hreached thread
    have hinit : Accounted thread (beginning syncObj) := rfl
    have haccounted : Accounted thread reached :=
      run_invariant (fun s act s' => accounted_step) hinit hreached
    exact haccounted
  · refine states_iff_steps (fun s act s' => passedWaits_step) ?_ ?_ (Nat.zero_le 1)
    · exact fun s act s' hwaits hone hstep => passes_le_one_step hwaits hone hstep
    · exact fun _ => ⟨fun _ _ _ => by simp [beginning], fun _ => rfl⟩

end Reports

section Waits

variable {T : Type*} [DecidableEq T] {n : ℕ} {s after : FatalSys T}

omit [DecidableEq T] in
theorem restartSet_mem {outputs : List (Output T)}
    (hseen : outputs.foldl flagSeen false = true) : .restartSet ∈ outputs := by
  induction outputs using List.reverseRecOn with
  | nil => cases hseen
  | append_singleton before last ih =>
      rw [List.foldl_append] at hseen
      cases last with
      | restartSet => simp
      | _ => exact List.mem_append_left _ (ih hseen)

omit [DecidableEq T] in
theorem takenSince_append {outputs : List (Output T)} {obj : ℕ}
    (htaken : TakenSince outputs obj) (more : List (Output T)) :
    TakenSince (outputs ++ more) obj := by
  obtain ⟨before, later, rfl, hmem⟩ := htaken
  exact ⟨before, later ++ more, by simp, List.mem_append_left _ hmem⟩

omit [DecidableEq T] in
theorem takenSince_took {outputs : List (Output T)} (obj : ℕ)
    (hset : .restartSet ∈ outputs) : TakenSince (outputs ++ [.took obj]) obj := by
  obtain ⟨before, later, rfl⟩ := List.append_of_mem hset
  exact ⟨before, later ++ [.took obj], by simp, by simp⟩

/-- The call has set the flag. -/
def pastStore : Place → Bool
  | .signalling _ _ | .notifying _ => true
  | _ => false

/-- What is noted agrees with the flag, and each wait has returned by it. -/
structure StatusRight (s : FatalSys T) : Prop where
  seen : s.outputs.foldl flagSeen false = s.restartRequired
  never : NeverBad flagSeen wrongStatus false s.outputs
  set_of_pastStore : ∀ thread, pastStore (s.place thread) = true → s.restartRequired = true

theorem pastStore_of_update {place : T → Place} {thread other : T} {next : Place}
    (hpast : pastStore (Function.update place thread next other) = true) :
    pastStore next = true ∨ pastStore (place other) = true := by
  by_cases heq : other = thread
  · rw [heq, Function.update_self] at hpast
    exact .inl hpast
  · rw [Function.update_of_ne heq] at hpast
    exact .inr hpast

/-- A step that keeps the flag and notes at most one thing. -/
theorem StatusRight.keep (hright : StatusRight s) {thread : T} {next : Place}
    {more : List (Output T)} (hflag : after.restartRequired = s.restartRequired)
    (houtputs : after.outputs = s.outputs ++ more)
    (hmore : more = [] ∨ ∃ output, more = [output] ∧ flagSeen s.restartRequired output =
      s.restartRequired ∧ wrongStatus s.restartRequired output = false)
    (hplace : after.place = Function.update s.place thread next)
    (hnext : pastStore next = true → s.restartRequired = true) : StatusRight after := by
  have hpast : ∀ other, pastStore (after.place other) = true → after.restartRequired = true := by
    intro other hother
    rw [hplace] at hother
    rw [hflag]
    exact (pastStore_of_update hother).elim hnext (hright.set_of_pastStore other)
  obtain rfl | ⟨output, rfl, hseen, hwrong⟩ := hmore
  · rw [List.append_nil] at houtputs
    exact ⟨by rw [houtputs, hflag, hright.seen], houtputs ▸ hright.never, hpast⟩
  · refine ⟨?_, ?_, hpast⟩
    · rw [houtputs, List.foldl_append, hright.seen, hflag]
      exact hseen
    · rw [houtputs, neverBad_concat, hright.seen]
      exact ⟨hright.never, hwrong⟩

theorem StatusRight.leave (hright : StatusRight s) (thread : T) (caller : Caller)
    (hflag : s.restartRequired = true) : StatusRight (leave s thread caller) := by
  refine hright.keep (restartRequired_leave ..) (outputs_leave ..) ?_ (place_leave ..)
    (by simp [pastStore])
  split
  · exact .inr ⟨_, rfl, rfl, by simp [wrongStatus, hflag]⟩
  · exact .inl rfl

theorem statusRight_step {act : FatalAct T} (hright : StatusRight s)
    (hstep : step n s act = some after) : StatusRight after := by
  cases step_cases hstep with
  | @enters act thread place hgoes hbefore hplace =>
      refine hright.keep rfl (List.append_nil _).symm (.inl rfl) rfl fun hpast => ?_
      cases place <;> cases hpast <;> cases hplace
  | @finds thread caller hplace hflag => exact hright.leave thread caller hflag
  | @passes thread caller hplace hflag =>
      exact hright.keep rfl rfl (.inr ⟨_, rfl, rfl, rfl⟩) rfl (by simp [pastStore])
  | @sets thread caller hplace =>
      constructor
      case seen => simp [FatalSys.emit, FatalSys.move, flagSeen]
      case never =>
        rw [FatalSys.emit, neverBad_concat]
        exact ⟨hright.never, rfl⟩
      case set_of_pastStore => exact fun _ _ => rfl
  | @signals thread caller next hplace hlt =>
      refine hright.keep rfl (List.append_nil _).symm (.inl rfl) rfl fun _ => ?_
      exact hright.set_of_pastStore thread (by rw [hplace]; rfl)
  | @allSignalled thread caller next hplace hge =>
      refine hright.keep rfl (List.append_nil _).symm (.inl rfl) rfl fun _ => ?_
      exact hright.set_of_pastStore thread (by rw [hplace]; rfl)
  | @notifies thread caller hplace =>
      have hflag := hright.set_of_pastStore thread (by rw [hplace]; rfl)
      have hkept : (s.emit (.reported thread (fatalEvent caller.call))).place =
          Function.update s.place thread (s.place thread) :=
        (Function.update_eq_self thread s.place).symm
      have hnoted : StatusRight (s.emit (.reported thread (fatalEvent caller.call))) :=
        hright.keep rfl rfl (.inr ⟨.reported thread (fatalEvent caller.call), rfl, rfl, rfl⟩)
          hkept fun _ => hflag
      exact hnoted.leave thread caller hflag
  | @takes thread wait hplace hsignal =>
      exact hright.keep rfl rfl (.inr ⟨_, rfl, rfl, rfl⟩) rfl (by simp [pastStore])
  | @returns thread hplace =>
      refine hright.keep rfl rfl (.inr ⟨_, rfl, rfl, ?_⟩) rfl (by simp [pastStore])
      cases hflag : s.restartRequired <;> rfl
  | signalled obj => exact ⟨hright.seen, hright.never, hright.set_of_pastStore⟩

/-- Since the flag was set each object of the pool was signalled, unless the signal is still
to come. -/
def Signalled (n : ℕ) (s : FatalSys T) : Prop :=
  s.restartRequired = true → ∀ obj < n, s.syncObj obj = true ∨ TakenSince s.outputs obj ∨
    ∃ thread caller next, s.place thread = .signalling caller next ∧ next ≤ obj

/-- A step of a thread that signals nothing. -/
theorem Signalled.keep (hsignalled : Signalled n s) {thread : T} {next : Place}
    {more : List (Output T)} (hflag : after.restartRequired = s.restartRequired)
    (hsyncObj : ∀ obj, s.syncObj obj = true → after.syncObj obj = true)
    (houtputs : after.outputs = s.outputs ++ more)
    (hplace : after.place = Function.update s.place thread next)
    (hthread : ∀ caller signal, s.place thread = .signalling caller signal → n ≤ signal) :
    Signalled n after := by
  intro hset obj hlt
  rw [hflag] at hset
  rcases hsignalled hset obj hlt with hsignal | htaken | ⟨other, caller, signal, hother, hle⟩
  · exact .inl (hsyncObj obj hsignal)
  · exact .inr (.inl (houtputs ▸ takenSince_append htaken more))
  · have hne : other ≠ thread := by
      rintro rfl
      have hge := hthread caller signal hother
      omega
    refine .inr (.inr ⟨other, caller, signal, ?_, hle⟩)
    rw [hplace, Function.update_of_ne hne, hother]

theorem signalled_step {act : FatalAct T} (hright : StatusRight s) (hsignalled : Signalled n s)
    (hstep : step n s act = some after) : Signalled n after := by
  cases step_cases hstep with
  | @enters act thread place hgoes hbefore hplace =>
      refine hsignalled.keep rfl (fun _ => id) (List.append_nil _).symm rfl ?_
      intro caller signal heq
      rw [heq] at hbefore
      cases hbefore
  | @finds thread caller hplace hflag =>
      exact hsignalled.keep (restartRequired_leave ..) (fun _ => by simp) (outputs_leave ..)
        (place_leave ..) (by simp [hplace])
  | @passes thread caller hplace hflag =>
      exact hsignalled.keep rfl (fun _ => id) rfl rfl (by simp [hplace])
  | @sets thread caller hplace =>
      intro _ obj _
      refine .inr (.inr ⟨thread, caller, 0, ?_, Nat.zero_le obj⟩)
      simp [FatalSys.emit, FatalSys.move]
  | @signals thread caller next hplace hlt =>
      intro hset obj hobj
      by_cases heq : obj = next
      · subst obj
        exact .inl (Function.update_self ..)
      · rcases hsignalled hset obj hobj with hsignal | htaken | ⟨other, held, signal, hother, hle⟩
        · left
          simpa [Function.update_of_ne heq] using hsignal
        · exact .inr (.inl htaken)
        · refine .inr (.inr ?_)
          by_cases hsame : other = thread
          · subst other
            rw [hplace, Place.signalling.injEq] at hother
            refine ⟨thread, caller, next + 1, ?_, by omega⟩
            simp [FatalSys.move]
          · refine ⟨other, held, signal, ?_, hle⟩
            simpa [FatalSys.move, Function.update_of_ne hsame] using hother
  | @allSignalled thread caller next hplace hge =>
      refine hsignalled.keep rfl (fun _ => id) (List.append_nil _).symm rfl ?_
      intro held signal hsignal
      rw [hplace, Place.signalling.injEq] at hsignal
      exact hsignal.2 ▸ hge
  | @notifies thread caller hplace =>
      refine hsignalled.keep (restartRequired_leave ..) (fun _ => by simp [FatalSys.emit])
        ((outputs_leave ..).trans (List.append_assoc ..)) (place_leave ..) (by simp [hplace])
  | @takes thread wait hplace hsignal =>
      intro hset obj hlt
      by_cases heq : obj = wait.obj
      · subst obj
        have hmem := restartSet_mem (hright.seen.trans hset)
        exact .inr (.inl (takenSince_took wait.obj hmem))
      · rcases hsignalled hset obj hlt with hsignal | htaken | ⟨other, held, signal, hother, hle⟩
        · left
          simpa [FatalSys.emit, Function.update_of_ne heq] using hsignal
        · exact .inr (.inl (takenSince_append htaken _))
        · refine .inr (.inr ⟨other, held, signal, ?_, hle⟩)
          have hne : other ≠ thread := by
            rintro rfl
            rw [hplace] at hother
            cases hother
          simpa [FatalSys.emit, FatalSys.move, Function.update_of_ne hne] using hother
  | @returns thread hplace =>
      exact hsignalled.keep rfl (fun _ => id) rfl rfl (by simp [hplace])
  | signalled obj =>
      intro hset other hlt
      by_cases heq : other = obj
      · subst other
        exact .inl (Function.update_self ..)
      · rcases hsignalled hset other hlt with hsignal | hrest
        · left
          simpa [Function.update_of_ne heq] using hsignal
        · exact .inr hrest

structure Woken (n : ℕ) (s : FatalSys T) : Prop where
  status : StatusRight s
  signalled : Signalled n s

theorem woken_step {act : FatalAct T} (hwoken : Woken n s) (hstep : step n s act = some after) :
    Woken n after :=
  ⟨statusRight_step hwoken.status hstep, signalled_step hwoken.status hwoken.signalled hstep⟩

omit [DecidableEq T] in
/-- Nobody is inside of the loop that signals the objects of the pool. -/
def LoopsDone (s : FatalSys T) : Prop :=
  ∀ thread caller next, s.place thread ≠ .signalling caller next

/-- Once the flag is set and the objects are signalled, a wait for an object of the pool can
end, unless another wait has taken the signal of the object meanwhile. -/
def WaitsCanEnd (n : ℕ) (s : FatalSys T) : Prop :=
  s.restartRequired = true → LoopsDone s → ∀ thread wait, s.place thread = .waiting wait →
    wait.obj < n → (goes n s thread).isSome ∨ TakenSince s.outputs wait.obj

theorem waitsCanEnd_of_signalled (hsignalled : Signalled n s) : WaitsCanEnd n s := by
  intro hset hdone thread wait hplace hlt
  rcases hsignalled hset wait.obj hlt with hsignal | htaken | ⟨other, caller, next, hother, -⟩
  · left
    simp [goes, hplace, hsignal]
  · exact .inr htaken
  · exact absurd hother (hdone other caller next)

/-- In every order of the threads' statements, a wait returns `SL_API_ABORTED` exactly if the
restart flag was set before it returned, and after a fatal error each wait for an object of
the pool can end whose signal no other wait has taken. -/
theorem waits_end (n : ℕ) (syncObj : ℕ → Bool) (acts : List (FatalAct T)) :
    StatesSatisfy (step n)
      (fun s => NeverBad flagSeen wrongStatus false s.outputs ∧ WaitsCanEnd n s)
      (beginning syncObj) acts := by
  intro before _ reached hreached
  have hinit : Woken n (beginning syncObj : FatalSys T) := by
    refine ⟨⟨rfl, neverBad_nil flagSeen wrongStatus false, ?_⟩, ?_⟩
    · intro thread hpast
      cases hpast
    · intro hset
      cases hset
  have hwoken : Woken n reached := run_invariant (fun s act s' => woken_step) hinit hreached
  exact ⟨hwoken.status.never, waitsCanEnd_of_signalled hwoken.signalled⟩

end Waits

section Alone

open Pool PoolSystem PoolFatalError

variable {T U : Type*} [DecidableEq T] {cfg : PoolConfig} {s : FatalSys T} {thread : T}
variable {caller : Caller}

/-- The flag and the sync objects are those of the pool. -/
def SameFlags (cfg : PoolConfig) (s : FatalSys T) (pool : PoolSys cfg U) : Prop :=
  s.restartRequired = pool.restartRequired ∧
    ∀ obj < cfg.maxConcurrentActions, s.syncObj obj = (pool.cb.objPool obj).syncObj

/-- The loop of one thread, with nobody in between. -/
theorem run_signalling (n count next : ℕ) (hcount : count + next = n) (s : FatalSys T)
    (hplace : s.place thread = .signalling caller next) :
    ∃ final, run (step n) s (List.replicate (count + 1) (.goes thread)) = some final ∧
      final.place thread = .notifying caller ∧ final.restartRequired = s.restartRequired ∧
      final.syncObj = fun obj => decide (next ≤ obj ∧ obj < n) || s.syncObj obj := by
  induction count generalizing next s with
  | zero =>
      have hge : ¬next < n := by omega
      refine ⟨s.move thread (.notifying caller), ?_, by simp [FatalSys.move], rfl, ?_⟩
      · simp [run_cons, step, goes, hplace, hge]
      · funext obj
        have hout : ¬(next ≤ obj ∧ obj < n) := by omega
        simp [FatalSys.move, hout]
  | succ count ih =>
      have hlt : next < n := by omega
      obtain ⟨final, hrun, hfinal, hflag, hobjs⟩ := ih (next + 1) (by omega)
        { s.move thread (.signalling caller (next + 1)) with
          syncObj := Function.update s.syncObj next true } (by simp [FatalSys.move])
      refine ⟨final, ?_, hfinal, hflag, ?_⟩
      · rw [List.replicate_succ, run_cons]
        simp only [step, goes, hplace, hlt, if_true, Option.bind_some]
        exact hrun
      · rw [hobjs]
        funext obj
        by_cases heq : obj = next
        · subst obj
          simp [hlt]
        · have hsame : next + 1 ≤ obj ∧ obj < n ↔ next ≤ obj ∧ obj < n := by omega
          simp only [Function.update_of_ne heq, hsame]

/-- A call that nobody interrupts does to the flag and to the objects of the pool what the
pool's own `slDrvHandleFatalError` does in one step. -/
theorem handler_alone (pool : PoolSys cfg U) (hsame : SameFlags cfg s pool)
    (hplace : s.place thread = .testing caller) :
    ∃ steps final, run (step cfg.maxConcurrentActions) s (List.replicate steps (.goes thread)) =
        some final ∧
      final.place thread = .idle ∧ SameFlags cfg final (slDrvHandleFatalError pool) := by
  obtain ⟨hflag, hobjs⟩ := hsame
  by_cases hset : pool.restartRequired = true
  · refine ⟨1, leave s thread caller, ?_, by simp, ?_, ?_⟩
    · simp [run_cons, step, goes, hplace, hflag, hset]
    · rw [restartRequired_leave, slDrvHandleFatalError, if_pos hset, hflag]
    · rw [syncObj_leave, slDrvHandleFatalError, if_pos hset]
      exact hobjs
  · have hclear := Bool.eq_false_iff.mpr hset
    let passed := (s.move thread (.setting caller)).emit (.passed thread caller.call)
    let stored := { passed.move thread (.signalling caller 0) with restartRequired := true }.emit
      .restartSet
    have hplaced : stored.place thread = .signalling caller 0 := by
      simp [stored, FatalSys.emit, FatalSys.move]
    obtain ⟨looped, hloop, hlooped, hloopedFlag, hloopedObjs⟩ :=
      run_signalling cfg.maxConcurrentActions cfg.maxConcurrentActions 0 (Nat.add_zero _) stored
        hplaced
    refine ⟨1 + (1 + (cfg.maxConcurrentActions + 1 + 1)),
      leave (looped.emit (.reported thread (fatalEvent caller.call))) thread caller, ?_, by simp,
      ?_, ?_⟩
    · have hpassed : step cfg.maxConcurrentActions s (.goes thread) = some passed := by
        simp [step, goes, hplace, hflag, hclear, passed]
      have hstored : step cfg.maxConcurrentActions passed (.goes thread) = some stored := by
        simp [step, goes, passed, stored, FatalSys.emit, FatalSys.move]
      have hnotified : step cfg.maxConcurrentActions looped (.goes thread) =
          some (leave (looped.emit (.reported thread (fatalEvent caller.call))) thread caller) := by
        simp [step, goes, hlooped]
      rw [List.replicate_add, run_append, List.replicate_one, run_singleton, hpassed,
        Option.bind_some, List.replicate_add, run_append, List.replicate_one, run_singleton,
        hstored, Option.bind_some, List.replicate_add, run_append, hloop, Option.bind_some,
        List.replicate_one, run_singleton, hnotified]
    · rw [restartRequired_leave, slDrvHandleFatalError, if_neg hset]
      exact hloopedFlag
    · intro obj hlt
      have hsignal := syncObj_afterFatalError hclear hlt
      rw [hsignal, syncObj_leave]
      simp [FatalSys.emit, hloopedObjs, hlt]

end Alone

end SimpleLinkHost.FatalReport
