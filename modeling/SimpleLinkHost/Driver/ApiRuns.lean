import Mathlib.Algebra.BigOperators.Group.Finset.Piecewise
import Mathlib.Algebra.Order.BigOperators.Group.Finset
import SimpleLinkHost.Driver.ApiCount
import SimpleLinkHost.Driver.PoolSystem

/-!
# The count over interleaved calls

Threads run driver calls and hold pool objects in any interleaving, while the
device flags change at any time.  A call is taken apart into the actions it takes;
a section of the pool functions and the update of `ApiInProgressCnt` behind it are
two steps.  Locks are left out of the interleaving, so that more runs are covered
than a build with locks has.
-/

namespace SimpleLinkHost.ApiRuns

open CallOutcome Calls GlobalLock MsgWrite RxMsg CmdOp CmdOpLocks DataOp DataOpLocks ApiCount
open Transition Pool PoolRelease PoolSystem

structure ApiConfig where
  rx : RxConfig
  data : DataConfig
  pool : PoolConfig

inductive ApiRequest
  | cmdOp (cmdCtrl : CmdCtrl) (pTxRxDescBuff : Option (ℕ → Byte)) (ext : Option CmdExt)
      (env : CmdEnv)
  | dataWriteOp (sd : Byte) (cmdCtrl : CmdCtrl) (ext : CmdExt)
      (pTxRxDescBuff : Option (ℕ → Byte)) (rounds : List WriteRound) (env : TakePackets)
  | msgReadSpawnCtx (env : SpawnEnv)

/-- A call with the interface and the control block as it finds them. -/
structure ApiCall where
  request : ApiRequest
  rx : List Byte
  writesLeft : ℕ
  cb : DriverCB

/-- The actions of a program from its start on. -/
def actsOf {α : Type} (program : DrvM α) (s : DrvState) : List DrvAct :=
  match program.run s with
  | .ok _ after => after.acts
  | .error _ after => after.acts

namespace ApiCall

variable (cfg : ApiConfig) (call : ApiCall)

def acts : List DrvAct :=
  let s := DrvState.start call.rx call.writesLeft call.cb
  match call.request with
  | .cmdOp cmdCtrl pTxRxDescBuff ext env =>
      actsOf (slDrvCmdOp cfg.rx cmdCtrl pTxRxDescBuff ext env) s
  | .dataWriteOp sd cmdCtrl ext pTxRxDescBuff rounds env =>
      actsOf (slDrvDataWriteOp cfg.data sd cmdCtrl ext pTxRxDescBuff rounds env) s
  | .msgReadSpawnCtx env => actsOf (slDrvMsgReadSpawnCtx cfg.rx env) s

/-- The call never returns with what it meets. -/
def waits : Bool :=
  match call.request with
  | .cmdOp cmdCtrl pTxRxDescBuff ext env =>
      cmdOpOutcome cfg.rx cmdCtrl pTxRxDescBuff ext env call.writesLeft call.cb.rxDoneCnt
        = .noReturn
  | .dataWriteOp sd _ ext _ rounds _ => writeOutcome cfg.data sd ext rounds = .noReturn
  | .msgReadSpawnCtx env => spawnOutcome cfg.rx env call.cb = .noReturn

def use : ApiUse :=
  match call.request with
  | .cmdOp cmdCtrl pTxRxDescBuff ext env =>
      cmdOpUse cfg.rx cmdCtrl pTxRxDescBuff ext env call.writesLeft call.cb.rxDoneCnt
  | .dataWriteOp sd _ ext _ rounds env => dataWriteUse cfg.data sd ext rounds env
  | .msgReadSpawnCtx env => spawnUse cfg.rx env call.cb

/-- The call lowers the count if and only if it raised it. -/
def KeepsCount : Prop := call.waits cfg = true ∨ (call.use cfg).counts = (call.use cfg).lowers

instance : Decidable (call.KeepsCount cfg) := inferInstanceAs (Decidable (_ ∨ _))

end ApiCall

section Changes

variable {α : Type} {program : DrvM α} {s : DrvState} {use : ApiUse} {waits : Bool}

theorem apiChanges_actsOf (hs : apiChanges s.acts = []) (huses : Uses program s use)
    (hwaits : Ends program s (fun _ _ => waits = false)
      fun ret _ => (ret = .noReturn ↔ waits = true)) :
    apiChanges (actsOf program s) = if waits then raised use.counts else use.changes := by
  rw [Uses, hs] at huses
  have hrun : Ends program s (fun value after => program.run s = .ok value after)
      fun ret after => program.run s = .error ret after := ends_run
  apply (hrun.and (huses.and hwaits)).elim
  · intro value after hafter
    obtain ⟨hrun, hchanges, hwaits⟩ := hafter
    rw [actsOf, hrun, hwaits]
    exact hchanges
  · intro ret after hafter
    obtain ⟨hrun, hchanges, hwaits⟩ := hafter
    rw [actsOf, hrun]
    by_cases hret : ret = .noReturn
    · rw [hwaits.mp hret, if_pos rfl]
      rwa [if_pos hret] at hchanges
    · rw [if_neg (mt hwaits.mpr hret)]
      rwa [if_neg hret] at hchanges

theorem noReturn_iff_of_returns {ret : RetCode} {after : DrvState} {outcome : CmdOutcome}
    (hreturns : Returns ret after outcome) : ret = .noReturn ↔ outcome = .noReturn := by
  cases outcome with
  | responded => exact hreturns.elim
  | clean | leaks => simpa using hreturns.1
  | noReturn => simpa using hreturns.1

variable (cfg : ApiConfig)

theorem ends_slDrvDataWriteOp_waits (sd : Byte) (cmdCtrl : CmdCtrl) (ext : CmdExt)
    (pTxRxDescBuff : Option (ℕ → Byte)) (rounds : List WriteRound) (env : TakePackets)
    (s : DrvState) :
    Ends (slDrvDataWriteOp cfg.data sd cmdCtrl ext pTxRxDescBuff rounds env) s
      (fun _ _ => writeOutcome cfg.data sd ext rounds ≠ .noReturn)
      fun ret _ => ret = .noReturn ↔ writeOutcome cfg.data sd ext rounds = .noReturn := by
  rw [slDrvDataWriteOp, ends_bind]
  apply (ends_writeFlowControl cfg.data sd ext rounds s).mono
  · intro alloc flowing hflowing
    have hproceeds : writeOutcome cfg.data sd ext rounds ≠ .noReturn := by
      rw [hflowing.1]
      decide
    rw [ends_bind]
    apply (ends_takeTxPackets_changes _ alloc env flowing).mono
    · intro _ taken _
      apply ((completes_sendData cfg.data cmdCtrl ext pTxRxDescBuff taken).mono _).ends
      exact fun _ _ _ => hproceeds
    · exact fun _ _ hafter => iff_of_false hafter.1 hproceeds
  · intro ret after hafter
    cases houtcome : writeOutcome cfg.data sd ext rounds <;> rw [houtcome] at hafter
    case proceeds => exact hafter.elim
    case returns => simpa using hafter.1
    case leaks => simpa using hafter.1
    case noReturn => exact iff_of_true hafter rfl

theorem apiChanges_acts (call : ApiCall) :
    apiChanges (call.acts cfg) =
      if call.waits cfg then raised (call.use cfg).counts else (call.use cfg).changes := by
  obtain ⟨request, rx, writesLeft, cb⟩ := call
  cases request with
  | cmdOp cmdCtrl pTxRxDescBuff ext env =>
      apply apiChanges_actsOf rfl (uses_slDrvCmdOp cfg.rx cmdCtrl pTxRxDescBuff ext env rfl)
      apply (ends_slDrvCmdOp cfg.rx cmdCtrl pTxRxDescBuff ext env rfl).mono
      · intro _ after hafter
        exact decide_eq_false (ne_of_eq_of_ne hafter.1 (by decide))
      · intro ret after hafter
        exact (noReturn_iff_of_returns hafter).trans decide_eq_true_iff.symm
  | dataWriteOp sd cmdCtrl ext pTxRxDescBuff rounds env =>
      apply apiChanges_actsOf rfl
        (uses_slDrvDataWriteOp cfg.data sd cmdCtrl ext pTxRxDescBuff rounds env _)
      apply (ends_slDrvDataWriteOp_waits cfg sd cmdCtrl ext pTxRxDescBuff rounds env _).mono
      · exact fun _ _ hafter => decide_eq_false hafter
      · exact fun _ _ hafter => hafter.trans decide_eq_true_iff.symm
  | msgReadSpawnCtx env =>
      apply apiChanges_actsOf rfl (uses_slDrvMsgReadSpawnCtx cfg.rx env rfl)
      apply (ends_slDrvMsgReadSpawnCtx cfg.rx env rfl).mono
      · intro _ after hafter
        exact decide_eq_false (ne_of_eq_of_ne hafter.1 (by decide))
      · intro ret after hafter
        exact (noReturn_iff_of_returns hafter).trans decide_eq_true_iff.symm

/-- A call that keeps the count has, at any point, counted itself at most once. -/
theorem sum_of_prefix {call : ApiCall} (hkeeps : call.KeepsCount cfg) {done : List DrvAct}
    (hbegun : done <+: call.acts cfg) :
    (apiChanges done).sum = 0 ∨ (apiChanges done).sum = 1 := by
  have hlist : apiChanges (call.acts cfg) <+: [1, -1] := by
    rw [apiChanges_acts]
    cases hwaits : call.waits cfg with
    | true =>
        rw [if_pos rfl]
        cases (call.use cfg).counts <;> decide
    | false =>
        have hsame := hkeeps.resolve_left (by simp [hwaits])
        rw [if_neg Bool.false_ne_true, ApiUse.changes, ← hsame]
        cases (call.use cfg).counts <;> decide
  have hdone : apiChanges done <+: [1, -1] := (List.IsPrefix.filterMap apiChange hbegun).trans hlist
  simp only [List.prefix_cons_iff, List.prefix_nil] at hdone
  rcases hdone with hnone | ⟨rest, hraised, hnone | ⟨last, hlowered, hnone⟩⟩
  · exact Or.inl (by rw [hnone]; rfl)
  · exact Or.inr (by rw [hraised, hnone]; rfl)
  · exact Or.inl (by rw [hraised, hlowered, hnone]; rfl)

/-- A call leaves the count as it found it exactly when it lowers the count if and only if
it raised it. -/
theorem sum_eq_zero_iff (call : ApiCall) :
    (call.waits cfg = false → (apiChanges (call.acts cfg)).sum = 0) ↔ call.KeepsCount cfg := by
  rw [ApiCall.KeepsCount, apiChanges_acts]
  cases hwaits : call.waits cfg with
  | true => simp
  | false => simp [ApiUse.sum_changes]

end Changes

section PoolCount

variable {cfg : PoolConfig} {cb cb' : PoolCB} {objIdx : ℕ}

theorem releaseBitOff_of_relinked (hrelinked : Relinked cb cb') :
    releaseBitOff cfg cb' objIdx = releaseBitOff cfg cb objIdx := by
  simp only [releaseBitOff, releasedBit, hrelinked.activeActionsBitmap]
  rw [hrelinked.obj]

/-- Without a stop, and with its bit set, a release lowers the count. -/
theorem apiInProgressCnt_release {ended : ReleaseExit}
    (hbit : releaseBitOff cfg cb objIdx = false)
    (hrelease : slDrvReleasePoolObj cfg false objIdx cb = some (ended, cb')) :
    cb'.apiInProgressCnt = cb.apiInProgressCnt - 1 := by
  rw [slDrvReleasePoolObj, if_neg Bool.false_ne_true, Option.bind_eq_bind,
    Option.bind_eq_some_iff] at hrelease
  obtain ⟨released, hpending, hrest⟩ := hrelease
  have hreleased := relinked_releasePending hpending
  rw [releaseBitOff_of_relinked hreleased, hbit, if_neg Bool.false_ne_true, Option.bind_eq_some_iff]
    at hrest
  obtain ⟨freed, hmove, hlast⟩ := hrest
  cases hlast
  rw [moveToFree, Option.bind_eq_bind, Option.bind_eq_some_iff] at hmove
  obtain ⟨⟨head, unlinked⟩, hremove, hmoved⟩ := hmove
  cases hmoved
  have hunlinked := (relinked_removeFromList hremove).apiInProgressCnt
  change unlinked.apiInProgressCnt - 1 = cb.apiInProgressCnt - 1
  rw [hunlinked, ← hreleased.apiInProgressCnt]
  rfl

/-- The objects that a thread in this state has, and counts. -/
def heldObjs {cfg : PoolConfig} : ThreadState cfg → ℤ
  | .active .. => 1
  | .outside | .failed _ | .blocked .. => 0

/-- A pass of the wait loop raises the count where it returns an object. -/
theorem apiInProgressCnt_loop (isSpawn : Bool) (call : PoolCall cfg) :
    (waitForPoolObjLoop isSpawn call objIdx cb).2.apiInProgressCnt =
      cb.apiInProgressCnt +
        BitVec.ofInt 8
          (heldObjs (waitState call (waitForPoolObjLoop isSpawn call objIdx cb).1)) := by
  rw [waitForPoolObjLoop]
  split
  · split
    · exact (BitVec.add_zero _).symm
    · exact (BitVec.add_zero _).symm
  · rfl

theorem apiInProgressCnt_enter (isSpawn : Bool) (call : PoolCall cfg) :
    (slDrvWaitForPoolObj isSpawn call cb).2.apiInProgressCnt =
      cb.apiInProgressCnt +
        BitVec.ofInt 8 (heldObjs (waitState call (slDrvWaitForPoolObj isSpawn call cb).1)) := by
  rw [slDrvWaitForPoolObj]
  cases htake : takeFreeObj call cb with
  | none => exact (BitVec.add_zero _).symm
  | some taken =>
      have hcount : taken.2.apiInProgressCnt = cb.apiInProgressCnt := by
        rw [takeFreeObj] at htake
        split at htake
        · cases htake
          split <;> split <;> rfl
        · cases htake
      rw [← hcount]
      exact apiInProgressCnt_loop isSpawn call

theorem apiInProgressCnt_resume (stopInProgress isSpawn : Bool) (waitStatus : SyncWait)
    (call : PoolCall cfg) :
    (waitForPoolObjResume stopInProgress isSpawn waitStatus call objIdx cb).2.apiInProgressCnt =
      cb.apiInProgressCnt + BitVec.ofInt 8 (heldObjs (waitState call
        (waitForPoolObjResume stopInProgress isSpawn waitStatus call objIdx cb).1)) := by
  cases stopInProgress with
  | true => exact (BitVec.add_zero _).symm
  | false => exact apiInProgressCnt_loop isSpawn call

section PoolStep

variable {T : Type*} [DecidableEq T] {isSpawn : T → Bool} {s s' : PoolSys cfg T} {thread : T}

/-- The thread of a pool action. -/
def actThread : PoolAct cfg T → T
  | .enter thread _ | .resume thread | .release thread => thread

/-- What a release needs to lower the count: no stop is in progress, and the bit of its
object is set. -/
def ReleasesCounted (s : PoolSys cfg T) : PoolAct cfg T → Prop
  | .release thread => ∀ call objIdx, s.thread thread = .active call objIdx →
      s.stopInProgress = false ∧ releaseBitOff cfg s.cb objIdx = false
  | .enter .. | .resume .. => True

/-- What a section adds to the count. -/
def countAdded (s s' : PoolSys cfg T) : ℤ :=
  (s'.cb.apiInProgressCnt - s.cb.apiInProgressCnt).toInt

/-- A section adds to the count what it adds to the objects of its thread. -/
structure CountsHeld (s s' : PoolSys cfg T) (thread : T) : Prop where
  others : ∀ other, other ≠ thread → s'.thread other = s.thread other
  count : countAdded s s' = heldObjs (s'.thread thread) - heldObjs (s.thread thread)

theorem countsHeld_update {state : ThreadState cfg} (change : ℤ)
    (hthread : s'.thread = Function.update s.thread thread state)
    (hchange : change = heldObjs state - heldObjs (s.thread thread))
    (hcount : s'.cb.apiInProgressCnt = s.cb.apiInProgressCnt + BitVec.ofInt 8 change) :
    CountsHeld s s' thread := by
  have hsmall : (BitVec.ofInt 8 change).toInt = change := by
    have hheld : ∀ state : ThreadState cfg, heldObjs state = 0 ∨ heldObjs state = 1 := by
      intro state
      cases state <;> simp [heldObjs]
    rcases hheld state with hafter | hafter <;>
      rcases hheld (s.thread thread) with hbefore | hbefore <;>
      rw [hchange, hafter, hbefore] <;> rfl
  constructor
  case others =>
    intro other hother
    rw [hthread, Function.update_of_ne hother]
  case count =>
    rw [countAdded, hcount, hthread, Function.update_self, ← hchange,
      BitVec.add_comm, BitVec.add_sub_cancel, hsmall]

theorem countsHeld_step {act : PoolAct cfg T} (hcounted : ReleasesCounted s act)
    (hstep : PoolSystem.step isSpawn s act = some s') : CountsHeld s s' (actThread act) := by
  cases act with
  | enter thread call =>
      obtain ⟨hstate, -, hresult⟩ := step_enter hstep
      have hheld : heldObjs (s.thread thread) = 0 := by
        cases hthread : s.thread thread with
        | active other place => exact absurd hthread (hstate other place).1
        | outside | failed | blocked => rfl
      rw [hresult]
      exact countsHeld_update _ rfl ((sub_zero _).symm.trans (congrArg _ hheld.symm))
        (apiInProgressCnt_enter (isSpawn thread) call)
  | resume thread =>
      obtain ⟨call, objIdx, hstate, -, -, hresult⟩ := step_resume hstep
      have hheld : heldObjs (s.thread thread) = 0 := by rw [hstate, heldObjs]
      rw [hresult]
      exact countsHeld_update _ rfl ((sub_zero _).symm.trans (congrArg _ hheld.symm))
        (apiInProgressCnt_resume s.stopInProgress (isSpawn thread) _ call)
  | release thread =>
      obtain ⟨call, objIdx, ⟨ended, cb⟩, hstate, -, hrelease, hresult⟩ := step_release hstep
      obtain ⟨hstop, hbit⟩ := hcounted call objIdx hstate
      rw [hstop] at hrelease
      have hheld : heldObjs (s.thread thread) = 1 := by rw [hstate, heldObjs]
      rw [hresult]
      exact countsHeld_update (-1) rfl (congrArg (heldObjs .outside - ·) hheld.symm)
        ((apiInProgressCnt_release hbit hrelease).trans (BitVec.sub_eq_add_neg ..))

end PoolStep

end PoolCount

/-- A message call under way: what it has done, and what is left. -/
structure InFlight where
  call : ApiCall
  done : List DrvAct
  rest : List DrvAct

structure ApiSys (cfg : ApiConfig) (T : Type*) where
  pool : PoolSys cfg.pool T
  apiInProgressCnt : BitVec 8
  /-- What a thread behind a section of the pool functions has yet to add. -/
  update : T → ℤ
  call : T → Option InFlight

inductive ApiAct (cfg : ApiConfig) (T : Type*)
  | setFlags (stopInProgress restartRequired : Bool)
  | pool (act : PoolAct cfg.pool T)
  | updateApiInProgress (thread : T)
  | begin (thread : T) (call : ApiCall)
  | advance (thread : T)
  | finish (thread : T)

variable {cfg : ApiConfig} {T : Type*} [DecidableEq T]

def initial (cfg : ApiConfig) (T : Type*) : ApiSys cfg T where
  pool := PoolSystem.initial cfg.pool T
  apiInProgressCnt := 0
  update _ := 0
  call _ := none

/-- Add to the count, an `_i8`. -/
def addToCount (s : ApiSys cfg T) (value : ℤ) : BitVec 8 :=
  s.apiInProgressCnt + BitVec.ofInt 8 value

def step (isSpawn : T → Bool) (s : ApiSys cfg T) : ApiAct cfg T → Option (ApiSys cfg T)
  | .setFlags stopInProgress restartRequired =>
      some { s with pool := { s.pool with stopInProgress, restartRequired } }
  | .pool act =>
      if s.update (actThread act) ≠ 0 then none
      else (PoolSystem.step isSpawn s.pool act).map fun pool =>
        { s with
          pool := pool
          update := Function.update s.update (actThread act) (countAdded s.pool pool) }
  | .updateApiInProgress thread =>
      some { s with
        apiInProgressCnt := addToCount s (s.update thread)
        update := Function.update s.update thread 0 }
  | .begin thread call =>
      match s.call thread with
      | none =>
          some { s with
            call := Function.update s.call thread
              (some { call, done := [], rest := call.acts cfg }) }
      | some _ => none
  | .advance thread =>
      match s.call thread with
      | some { call, done, rest := act :: rest } =>
          some { s with
            apiInProgressCnt := addToCount s ((apiChange act).getD 0)
            call := Function.update s.call thread (some { call, done := done ++ [act], rest }) }
      | _ => none
  | .finish thread =>
      match s.call thread with
      | some { call, done := _, rest := [] } =>
          if call.waits cfg then none
          else some { s with call := Function.update s.call thread none }
      | _ => none

/-- The pool object of a thread, from the count for it to the count back. -/
def poolShare (s : ApiSys cfg T) (thread : T) : ℤ :=
  heldObjs (s.pool.thread thread) - s.update thread

/-- The same for a message call. -/
def callShare : Option InFlight → ℤ
  | none => 0
  | some inFlight => (apiChanges inFlight.done).sum

/-- How many calls of a thread count themselves. -/
def share (s : ApiSys cfg T) (thread : T) : ℤ := poolShare s thread + callShare (s.call thread)

/-- The device stop can judge by the count: calls that returned have taken back what they
added, and with at most 127 calls counted at once the count is not negative, and zero
exactly when no call counts itself. -/
structure CountTracks (s : ApiSys cfg T) : Prop where
  returned : ∀ thread inFlight, s.call thread = some inFlight → inFlight.rest = [] →
    inFlight.call.waits cfg = false → (apiChanges inFlight.done).sum = 0
  count : (∀ threads : Finset T, ∑ thread ∈ threads, share s thread ≤ 127) →
    0 ≤ s.apiInProgressCnt.toInt ∧ (s.apiInProgressCnt = 0 ↔ ∀ thread, ¬0 < share s thread)

/-- The condition of one step. -/
def KeepsCount (s : ApiSys cfg T) : ApiAct cfg T → Prop
  | .begin _ call => call.KeepsCount cfg
  | .pool act => ReleasesCounted s.pool act
  | _ => True

/-- The count is the sum of what the calls count. -/
structure Counted (s : ApiSys cfg T) : Prop where
  pool : ∀ thread, poolShare s thread = 0 ∨ poolShare s thread = 1
  calls : ∀ thread inFlight, s.call thread = some inFlight →
    inFlight.call.KeepsCount cfg ∧ inFlight.done ++ inFlight.rest = inFlight.call.acts cfg
  count : ∃ threads : Finset T, (∀ thread, thread ∉ threads → share s thread = 0) ∧
    s.apiInProgressCnt = BitVec.ofInt 8 (∑ thread ∈ threads, share s thread)

section Invariant

variable {isSpawn : T → Bool} {s s' : ApiSys cfg T} {thread : T}

omit [DecidableEq T] in
theorem share_cases (hcounted : Counted s) (thread : T) : 0 ≤ share s thread := by
  have hcall : 0 ≤ callShare (s.call thread) := by
    cases hflight : s.call thread with
    | none => exact le_refl 0
    | some inFlight =>
        obtain ⟨hkeeps, hacts⟩ := hcounted.calls thread inFlight hflight
        have hsum := sum_of_prefix cfg hkeeps ⟨inFlight.rest, hacts⟩
        rw [callShare]
        omega
  have hpool := hcounted.pool thread
  rw [share]
  omega

/-- One thread changes what it counts, and the count follows. -/
theorem count_update (change : ℤ)
    (hcount : ∃ threads : Finset T, (∀ thread, thread ∉ threads → share s thread = 0) ∧
      s.apiInProgressCnt = BitVec.ofInt 8 (∑ thread ∈ threads, share s thread))
    (hothers : ∀ other, other ≠ thread → share s' other = share s other)
    (hshare : share s' thread = share s thread + change)
    (hadd : s'.apiInProgressCnt = addToCount s change) :
    ∃ threads : Finset T, (∀ thread, thread ∉ threads → share s' thread = 0) ∧
      s'.apiInProgressCnt = BitVec.ofInt 8 (∑ thread ∈ threads, share s' thread) := by
  obtain ⟨threads, hnone, hsum⟩ := hcount
  have hall : ∀ other, share s' other = share s other + if thread = other then change else 0 := by
    intro other
    by_cases hother : thread = other
    · rw [if_pos hother, ← hother, hshare]
    · rw [if_neg hother, hothers other (Ne.symm hother), add_zero]
  refine ⟨insert thread threads, ?_, ?_⟩
  · intro other hother
    rw [Finset.mem_insert, not_or] at hother
    rw [hothers other hother.1, hnone other hother.2]
  · have hinsert : ∑ other ∈ insert thread threads, share s other =
        ∑ other ∈ threads, share s other :=
      Finset.sum_insert_of_eq_zero_if_notMem (hnone thread)
    rw [hadd, addToCount, hsum, ← BitVec.ofInt_add]
    congr 1
    calc ∑ other ∈ threads, share s other + change
        = ∑ other ∈ insert thread threads, share s other
            + ∑ other ∈ insert thread threads, if thread = other then change else 0 := by
          rw [hinsert, Finset.sum_ite_eq, if_pos (Finset.mem_insert_self ..)]
      _ = ∑ other ∈ insert thread threads, share s' other := by
          rw [← Finset.sum_add_distrib]
          exact Finset.sum_congr rfl fun other _ => (hall other).symm

omit [DecidableEq T] in
theorem countTracks_of_counted (hcounted : Counted s) : CountTracks s := by
  constructor
  case returned =>
    intro thread inFlight hflight hrest hreturns
    obtain ⟨hkeeps, hacts⟩ := hcounted.calls thread inFlight hflight
    rw [hrest, List.append_nil] at hacts
    rw [hacts]
    exact (sum_eq_zero_iff cfg _).mpr hkeeps hreturns
  case count =>
    intro hfew
    obtain ⟨threads, hnone, hsum⟩ := hcounted.count
    have hle := hfew threads
    have hnonneg : 0 ≤ ∑ thread ∈ threads, share s thread :=
      Finset.sum_nonneg fun thread _ => share_cases hcounted thread
    have htoInt : s.apiInProgressCnt.toInt = ∑ thread ∈ threads, share s thread := by
      rw [hsum]
      exact BitVec.toInt_ofInt_eq_self (by decide) (by omega) (by omega)
    refine ⟨by rwa [htoInt], ?_⟩
    have hzero : s.apiInProgressCnt = 0 ↔ ∑ thread ∈ threads, share s thread = 0 := by
      rw [← htoInt]
      exact BitVec.toInt_inj.symm
    rw [hzero, Finset.sum_eq_zero_iff_of_nonneg fun thread _ => share_cases hcounted thread]
    constructor
    · intro hshares thread
      by_cases hthread : thread ∈ threads
      · rw [hshares thread hthread]
        exact lt_irrefl 0
      · rw [hnone thread hthread]
        exact lt_irrefl 0
    · intro hshares thread _
      exact le_antisymm (not_lt.mp (hshares thread)) (share_cases hcounted thread)

theorem counted_pool (hcounted : Counted s) {thread : T} (hidle : s.update thread = 0)
    (hholds : CountsHeld s.pool s'.pool thread)
    (hupdate : s'.update = Function.update s.update thread (countAdded s.pool s'.pool))
    (hcall : s'.call = s.call) (hcnt : s'.apiInProgressCnt = s.apiInProgressCnt) :
    Counted s' := by
  have hpool : ∀ other, poolShare s' other = poolShare s other := by
    intro other
    by_cases hother : other = thread
    · rw [poolShare, poolShare, hupdate, hother, Function.update_self, hholds.count, hidle]
      omega
    · rw [poolShare, poolShare, hupdate, Function.update_of_ne hother,
        hholds.others other hother]
  have hshare : ∀ other, share s' other = share s other := by
    intro other
    rw [share, share, hpool, hcall]
  constructor
  case pool =>
    intro other
    rw [hpool]
    exact hcounted.pool other
  case calls =>
    rw [hcall]
    exact hcounted.calls
  case count =>
    obtain ⟨threads, hnone, hsum⟩ := hcounted.count
    refine ⟨threads, fun other hother => (hshare other).trans (hnone other hother), ?_⟩
    rw [hcnt, hsum, Finset.sum_congr rfl fun other _ => hshare other]

theorem counted_updateApiInProgress (hcounted : Counted s) {thread : T}
    (hpool : s'.pool = s.pool) (hupdate : s'.update = Function.update s.update thread 0)
    (hcall : s'.call = s.call)
    (hcnt : s'.apiInProgressCnt = addToCount s (s.update thread)) : Counted s' := by
  have hself : poolShare s' thread = heldObjs (s.pool.thread thread) := by
    rw [poolShare, hpool, hupdate, Function.update_self, sub_zero]
  have hothers : ∀ other, other ≠ thread → poolShare s' other = poolShare s other := by
    intro other hother
    rw [poolShare, poolShare, hpool, hupdate, Function.update_of_ne hother]
  constructor
  case pool =>
    intro other
    by_cases hother : other = thread
    · rw [hother, hself]
      cases s.pool.thread thread <;> simp [heldObjs]
    · rw [hothers other hother]
      exact hcounted.pool other
  case calls =>
    rw [hcall]
    exact hcounted.calls
  case count =>
    apply count_update (s.update thread) hcounted.count
    · intro other hother
      rw [share, share, hothers other hother, hcall]
    · rw [share, share, hself, hcall, poolShare]
      omega
    · exact hcnt

theorem counted_call (hcounted : Counted s) {thread : T} {state : Option InFlight} (change : ℤ)
    (hstate : ∀ inFlight, state = some inFlight → inFlight.call.KeepsCount cfg ∧
      inFlight.done ++ inFlight.rest = inFlight.call.acts cfg)
    (hchange : callShare state = callShare (s.call thread) + change)
    (hpool : s'.pool = s.pool) (hupdate : s'.update = s.update)
    (hcall : s'.call = Function.update s.call thread state)
    (hcnt : s'.apiInProgressCnt = addToCount s change) : Counted s' := by
  have hshare : ∀ other, poolShare s' other = poolShare s other := by
    intro other
    rw [poolShare, poolShare, hpool, hupdate]
  constructor
  case pool =>
    intro other
    rw [hshare]
    exact hcounted.pool other
  case calls =>
    intro other inFlight hflight
    rw [hcall] at hflight
    by_cases hother : other = thread
    · rw [hother, Function.update_self] at hflight
      exact hstate inFlight hflight
    · rw [Function.update_of_ne hother] at hflight
      exact hcounted.calls other inFlight hflight
  case count =>
    apply count_update change hcounted.count
    · intro other hother
      rw [share, share, hshare, hcall, Function.update_of_ne hother]
    · rw [share, share, hshare, hcall, Function.update_self, hchange, add_assoc]
    · exact hcnt

theorem counted_step (hcounted : Counted s) {act : ApiAct cfg T} (hkeeps : KeepsCount s act)
    (hstep : step isSpawn s act = some s') : Counted s' := by
  cases act with
  | setFlags stopInProgress restartRequired =>
      cases hstep
      exact ⟨hcounted.pool, hcounted.calls, hcounted.count⟩
  | pool act =>
      rw [step] at hstep
      split at hstep
      · cases hstep
      · rename_i hidle
        rw [Option.map_eq_some_iff] at hstep
        obtain ⟨pool, hpool, hresult⟩ := hstep
        cases hresult
        exact counted_pool hcounted (not_not.mp hidle) (countsHeld_step hkeeps hpool) rfl rfl rfl
  | updateApiInProgress thread =>
      cases hstep
      exact counted_updateApiInProgress hcounted rfl rfl rfl rfl
  | begin thread call =>
      rw [step] at hstep
      split at hstep
      · rename_i hnone
        cases hstep
        refine counted_call hcounted 0 ?_ ?_ rfl rfl rfl (BitVec.add_zero _).symm
        · intro inFlight hflight
          cases hflight
          exact ⟨hkeeps, rfl⟩
        · rw [hnone]
          rfl
      · cases hstep
  | advance thread =>
      rw [step] at hstep
      split at hstep
      · rename_i call done act rest hflight
        cases hstep
        obtain ⟨hkeep, hacts⟩ := hcounted.calls thread _ hflight
        refine counted_call hcounted ((apiChange act).getD 0) ?_ ?_ rfl rfl rfl rfl
        · intro inFlight hafter
          cases hafter
          exact ⟨hkeep, (List.append_assoc ..).trans hacts⟩
        · rw [hflight, callShare, callShare, apiChanges, List.filterMap_append, List.sum_append]
          cases hact : apiChange act <;> simp [hact, apiChanges]
      · cases hstep
  | finish thread =>
      rw [step] at hstep
      split at hstep
      · rename_i call done hflight
        split at hstep
        · cases hstep
        · rename_i hreturns
          cases hstep
          have hsum := (countTracks_of_counted hcounted).returned thread _ hflight rfl
            (by simpa using hreturns)
          refine counted_call hcounted 0 ?_ ?_ rfl rfl rfl (BitVec.add_zero _).symm
          · intro inFlight hafter
            cases hafter
          · rw [hflight, callShare, callShare, hsum]
            rfl
      · cases hstep

end Invariant

omit [DecidableEq T] in
theorem counted_initial : Counted (initial cfg T) := by
  constructor
  case pool => exact fun _ => Or.inl rfl
  case calls => exact fun _ _ hflight => nomatch hflight
  case count => exact ⟨∅, fun _ _ => rfl, rfl⟩

/-- In a run whose calls lower the count exactly if they raised it, and whose releases come
without a stop and with their bit set, the count tracks the calls. -/
theorem countTracks_of_keepsCount (isSpawn : T → Bool) (acts : List (ApiAct cfg T))
    (hsteps : StepsSatisfy (step isSpawn) KeepsCount (initial cfg T) acts) :
    StatesSatisfy (step isSpawn) CountTracks (initial cfg T) acts := by
  have hcounted : StatesSatisfy (step isSpawn) Counted (initial cfg T) acts :=
    states_of_steps (fun _ _ _ hcounted hkeeps hstep => counted_step hcounted hkeeps hstep)
      counted_initial hsteps
  intro before hbefore reached hreached
  exact countTracks_of_counted (hcounted before hbefore reached hreached)

section Stopping

def smallApiConfig : ApiConfig where
  rx := smallRxConfig
  data := smallDataConfig
  pool := smallConfig

/-- The response of `shortResponse`, with its descriptor. -/
def wholeRound : CmdRound :=
  { shortRound with message := { shortResponse with rx := [0, 0, 0, 0] } }

/-- The stop command, with its response, as the wrapper lets it pass in a device status. -/
def stopCommand (status : DevFlags) : ApiCall where
  request := .cmdOp { opcode := 0x8473, txDescLen := 0, rxDescLen := 4 } none none
    { shortCmdEnv with
      globalLock := { freeGlobalLock with after := status }
      rounds := [wholeRound] }
  rx := []
  writesLeft := 10
  cb := messageCBInit 1

/-- A call from its beginning to its last action. -/
def wholeCall (call : ApiCall) : List (ApiAct smallApiConfig Unit) :=
  .begin () call :: List.replicate (call.acts smallApiConfig).length (.advance ())

def recvCall : PoolCall smallConfig where
  actionID := 26
  socketID := 0
  actionID_ge := by decide
  actionID_lt := by decide
  socketID_le := by decide

/-- A command of a started device, and then a pool object taken and released. -/
def commandAndObj : List (ApiAct smallApiConfig Unit) :=
  wholeCall (stopCommand startedFlags) ++
    [.finish (), .pool (.enter () recvCall), .updateApiInProgress (), .pool (.release ()),
      .updateApiInProgress ()]

/-- `KeepsCount` by evaluation. -/
def keepsCount (s : ApiSys smallApiConfig Unit) : ApiAct smallApiConfig Unit → Bool
  | .begin _ call => decide (call.KeepsCount smallApiConfig)
  | .pool (.release thread) =>
      match s.pool.thread thread with
      | .active _ objIdx =>
          !s.pool.stopInProgress && !releaseBitOff smallConfig s.pool.cb objIdx
      | _ => true
  | _ => true

theorem keepsCount_sound (s : ApiSys smallApiConfig Unit) (act : ApiAct smallApiConfig Unit)
    (hact : keepsCount s act = true) : KeepsCount s act := by
  cases act with
  | begin thread call =>
      have hkeeps : call.KeepsCount smallApiConfig := of_decide_eq_true hact
      exact hkeeps
  | pool act =>
      cases act with
      | enter | resume => trivial
      | release thread =>
          intro call objIdx hstate
          simp only [keepsCount, hstate] at hact
          rwa [Bool.and_eq_true, Bool.not_eq_true', Bool.not_eq_true'] at hact
  | _ => trivial

theorem countTracks_commandAndObj :
    StatesSatisfy (step fun _ => false) CountTracks (initial smallApiConfig Unit)
      commandAndObj := by
  apply countTracks_of_keepsCount
  exact stepsSatisfy_of_check keepsCount keepsCount_sound (by decide)

omit [DecidableEq T] in
theorem not_countTracks_of_neg {s : ApiSys cfg T} (hneg : s.apiInProgressCnt.toInt < 0)
    (hshare : ∀ thread, share s thread ≤ 0) : ¬CountTracks s := by
  intro htracks
  have hfew : ∀ threads : Finset T, ∑ thread ∈ threads, share s thread ≤ 127 := by
    intro threads
    have hsum : ∑ thread ∈ threads, share s thread ≤ 0 :=
      Finset.sum_nonpos fun thread _ => hshare thread
    omega
  exact absurd (htracks.count hfew).1 (not_le.mpr hneg)

/-- While a stop is in progress the wrapper counts no call, and the stop command itself
leaves the count at -1. -/
theorem not_countTracks_stopping :
    ¬StatesSatisfy (step fun _ => false) CountTracks (initial smallApiConfig Unit)
      (wholeCall (stopCommand { startedFlags with deviceStopInProgress := true })) := by
  apply not_statesSatisfy_of_any fun s =>
    decide (s.apiInProgressCnt.toInt < 0) && decide (share s () ≤ 0)
  · intro s hfails
    rw [Bool.and_eq_true, decide_eq_true_iff, decide_eq_true_iff] at hfails
    exact not_countTracks_of_neg hfails.1 fun _ => hfails.2
  · decide

end Stopping

end SimpleLinkHost.ApiRuns
