import SimpleLinkHost.Driver.DataOpLocks
import SimpleLinkHost.Driver.TxFlow

/-!
# Runs of the TX flow control

`TxLockObj` keeps all data operations but one away from the count, so that its holder
knows what has happened to the count since its last test: nothing, or headers.
-/

namespace SimpleLinkHost.TxFlow

open Calls DataOp Transition
open DataOpLocks (smallDataConfig)
open RxMsg (RespHeader)

section Thread

variable (cfg : DataConfig) {T : Type*} [DecidableEq T] {s s' : FlowSys T} {thread : T}
  {pos : FlowPos} {flow : Flow} {found : Byte}

theorem goto_self : (s.goto thread pos).thread thread = pos := Function.update_self ..

theorem goto_of_ne {other : T} (hne : other ≠ thread) :
    (s.goto thread pos).thread other = s.thread other := Function.update_of_ne hne ..

theorem knows_goto {other : FlowPos} :
    Knows cfg (s.goto thread pos) other ↔ Knows cfg s other := by
  cases other <;> rfl

variable {cfg}

omit [DecidableEq T] in
theorem FlowKnows.knows_at (hknows : FlowKnows cfg s) (hthread : s.thread thread = pos) :
    Knows cfg s pos := hthread ▸ hknows.knows thread

omit [DecidableEq T] in
/-- The holder of `TxLockObj` is alone with the count. -/
theorem FlowKnows.alone (hknows : FlowKnows cfg s) (hholds : (s.thread thread).holdsLock = true) :
    ∀ other, other ≠ thread → (s.thread other).holdsLock = false := by
  intro other hne
  by_contra hother
  have hlock := hknows.lock other (Bool.eq_true_of_not_eq_false hother)
  rw [hknows.lock thread hholds, Option.some.injEq] at hlock
  exact hne hlock.symm

/-- A step of a thread while no other one has the lock. -/
theorem FlowKnows.goto (hthreads : s'.thread = s.thread)
    (halone : ∀ other, other ≠ thread → (s.thread other).holdsLock = false)
    (hlock : pos.holdsLock = true → s'.txLockObj = some thread) (hpos : Knows cfg s' pos) :
    FlowKnows cfg (s'.goto thread pos) := by
  constructor
  case lock =>
    intro other hother
    by_cases hne : other = thread
    · rw [hne, goto_self] at hother
      rw [hne]
      exact hlock hother
    · rw [goto_of_ne hne, hthreads, halone other hne] at hother
      cases hother
  case knows =>
    intro other
    rw [knows_goto]
    by_cases hne : other = thread
    · rw [hne, goto_self]
      exact hpos
    · rw [goto_of_ne hne, hthreads]
      exact knows_of_not_holdsLock cfg (halone other hne)

/-- A step of the holder of the lock. -/
theorem FlowKnows.holder {next : FlowPos} (hknows : FlowKnows cfg s)
    (hthread : s.thread thread = pos) (hholds : pos.holdsLock = true)
    (hthreads : s'.thread = s.thread) (hlock : s'.txLockObj = s.txLockObj)
    (hnext : Knows cfg s' next) :
    FlowKnows cfg (s'.goto thread next) := by
  rw [← hthread] at hholds
  exact FlowKnows.goto hthreads (hknows.alone hholds)
    (fun _ => hlock.trans (hknows.lock thread hholds)) hnext

omit [DecidableEq T] in
theorem knows_afterWait (hformed : flow.Formed) (hcount : s.CountIs found) :
    Knows cfg s (afterWait flow found) := by
  rw [afterWait]
  split
  · rename_i hop
    exact ⟨hformed, hcount, Or.inl hop⟩
  · exact hformed

omit [DecidableEq T] in
/-- What is known behind a test of the count. -/
theorem knows_test {enough short : FlowPos} (s : FlowSys T)
    (henough : flow.threshold cfg < s.txPoolCnt.toNat →
      Knows cfg { s with sinceTest := none } enough)
    (hshort : s.txPoolCnt.toNat ≤ flow.threshold cfg →
      Knows cfg { s with sinceTest := none } short) :
    Knows cfg { s with sinceTest := none }
      (if s.txPoolCnt.toNat ≤ flow.threshold cfg then short else enough) := by
  split
  · rename_i hle
    exact hshort hle
  · rename_i hlt
    exact henough (Nat.lt_of_not_le hlt)

theorem FlowKnows.of_threadStep (hknows : FlowKnows cfg s)
    (hstep : threadStep cfg s thread = some s') : FlowKnows cfg s' := by
  cases hthread : s.thread thread with
  | idle => simp [threadStep, hthread] at hstep
  | locking op =>
      simp only [threadStep, hthread, Option.ite_none_right_eq_some, Option.some.injEq,
        Option.isNone_iff_eq_none] at hstep
      obtain ⟨hfree, rfl⟩ := hstep
      refine FlowKnows.goto rfl (fun other _ => ?_) (fun _ => rfl) trivial
      by_contra hother
      have hlock := hknows.lock other (Bool.eq_true_of_not_eq_false hother)
      rw [hfree] at hlock
      cases hlock
  | clearing op =>
      cases op with
      | read =>
          simp only [threadStep, hthread, Option.some.injEq] at hstep
          subst hstep
          exact hknows.holder hthread rfl rfl rfl fun _ => rfl
      | write sd len =>
          simp only [threadStep, hthread, Option.some.injEq] at hstep
          subst hstep
          exact hknows.holder hthread rfl rfl rfl trivial
  | computing sd len =>
      simp only [threadStep, hthread, Option.ite_none_left_eq_some, Option.some.injEq] at hstep
      obtain ⟨-, rfl⟩ := hstep
      exact hknows.holder hthread rfl rfl rfl fun hop => by cases hop
  | checking flow =>
      have hformed : flow.Formed := hknows.knows_at hthread
      simp only [threadStep, hthread] at hstep
      split at hstep
      · cases hstep
      · cases hstep
        refine hknows.holder hthread rfl rfl rfl ?_
        split
        · trivial
        · exact hformed
  | testing flow =>
      have hformed : flow.Formed := hknows.knows_at hthread
      simp only [threadStep, hthread] at hstep
      split at hstep
      · rename_i hop
        cases hstep
        refine hknows.holder hthread rfl rfl rfl (knows_test s (fun _ => ?_) fun hle => ?_)
        · exact ⟨hformed, rfl, Or.inl hop⟩
        · exact ⟨hformed, rfl, Or.inl hle⟩
      · cases hstep
        refine hknows.holder hthread rfl rfl rfl (knows_test s (fun _ => hformed) fun hle => ?_)
        exact ⟨hformed, rfl, Or.inl hle⟩
  | refused flow found =>
      have hrefused : Knows cfg s (.refused flow found) := hknows.knows_at hthread
      simp only [threadStep, hthread] at hstep
      split at hstep
      · cases hstep
      · cases hstep
        refine hknows.holder hthread rfl rfl rfl ?_
        split
        · trivial
        · exact hrefused
  | waiting flow found =>
      have hwaits : Knows cfg s (.waiting flow found) := hknows.knows_at hthread
      simp only [threadStep, hthread, Option.ite_none_right_eq_some, Option.some.injEq] at hstep
      obtain ⟨-, rfl⟩ := hstep
      exact hknows.holder hthread rfl rfl rfl ⟨hwaits.1, hwaits.2.1⟩
  | woken flow found =>
      have hwoken : Knows cfg s (.woken flow found) := hknows.knows_at hthread
      simp only [threadStep, hthread, Option.some.injEq] at hstep
      subst hstep
      refine hknows.holder hthread rfl rfl rfl ?_
      split
      · trivial
      · exact knows_afterWait hwoken.1 hwoken.2
  | retesting flow =>
      have hformed : flow.Formed := hknows.knows_at hthread
      simp only [threadStep, hthread, Option.some.injEq] at hstep
      subst hstep
      exact hknows.holder hthread rfl rfl rfl
        (knows_test s (fun hlt => ⟨hformed, rfl, Or.inr hlt⟩) fun _ => trivial)
  | granting flow found =>
      have hgrant : Knows cfg s (.granting flow found) := hknows.knows_at hthread
      simp only [threadStep, hthread, Option.some.injEq] at hstep
      subst hstep
      exact hknows.holder hthread rfl rfl rfl hgrant
  | granted flow found =>
      have hgranted : Knows cfg s (.granted flow found) := hknows.knows_at hthread
      simp only [threadStep, hthread, Option.some.injEq] at hstep
      subst hstep
      refine hknows.holder hthread rfl rfl rfl ?_
      split
      · trivial
      · exact hgranted
  | verifying flow found =>
      have hverified : Knows cfg s (.verifying flow found) := hknows.knows_at hthread
      simp only [threadStep, hthread, Option.some.injEq] at hstep
      subst hstep
      exact hknows.holder hthread rfl rfl rfl hverified
  | taking flow found =>
      simp only [threadStep, hthread, Option.some.injEq] at hstep
      subst hstep
      exact hknows.holder hthread rfl rfl rfl trivial
  | unlocking next =>
      have hholds : (s.thread thread).holdsLock = true := by rw [hthread]; rfl
      cases next with
      | none =>
          simp only [threadStep, hthread, Option.some.injEq] at hstep
          subst hstep
          exact FlowKnows.goto rfl (hknows.alone hholds) (fun hpos => by cases hpos) trivial
      | some op =>
          simp only [threadStep, hthread, Option.some.injEq] at hstep
          subst hstep
          exact FlowKnows.goto rfl (hknows.alone hholds) (fun hpos => by cases hpos) trivial

end Thread

section Update

variable {cfg : DataConfig} {T : Type*} {s s' : FlowSys T} {flow : Flow}

/-- A step of the update, of which the threads only notice what it does to the count. -/
theorem FlowKnows.of_frame (hknows : FlowKnows cfg s) (hthread : s'.thread = s.thread)
    (hlock : s'.txLockObj = s.txLockObj)
    (hcount : ∀ found, s.CountIs found → s'.CountIs found)
    (hawaited : ∀ flow, Awaited cfg s flow → Awaited cfg s' flow) : FlowKnows cfg s' := by
  constructor
  case lock =>
    rw [hthread, hlock]
    exact hknows.lock
  case knows =>
    intro thread
    rw [hthread]
    have hpos := hknows.knows thread
    revert hpos
    cases s.thread thread with
    | refused flow found | waiting flow found =>
        exact fun hpos => ⟨hpos.1, hcount found hpos.2.1, hawaited flow hpos.2.2⟩
    | woken flow found => exact fun hpos => ⟨hpos.1, hcount found hpos.2⟩
    | granting flow found | granted flow found | verifying flow found | taking flow found =>
        exact fun hpos => ⟨hpos.1, hcount found hpos.2.1, hpos.2.2⟩
    | idle | locking _ | clearing _ | computing _ _ | unlocking _ => exact fun _ => trivial
    | checking flow | testing flow | retesting flow => exact fun hpos => hpos

/-- The update either goes on to the signal, or has no reason for one. -/
theorem awaited_updateStep (hstep : updateStep cfg s = some s') (hawaited : Awaited cfg s flow) :
    Awaited cfg s' flow := by
  cases hupdate : s.update with
  | idle => simp [updateStep, hupdate] at hstep
  | storingNonBlocking header | storingTXFailure header | storingMinPayload header =>
      simp only [updateStep, hupdate, Option.some.injEq] at hstep
      subst hstep
      exact Or.inr (Or.inr rfl)
  | testing =>
      simp only [updateStep, hupdate, Option.some.injEq] at hstep
      subst hstep
      by_cases hmany : cfg.flowContMin < s.txPoolCnt.toNat
      · right
        right
        simp only [if_pos hmany]
        rfl
      · left
        exact (Nat.le_of_not_lt hmany).trans (flowContMin_le_threshold cfg flow)
  | counting =>
      simp only [updateStep, hupdate, Option.some.injEq] at hstep
      subst hstep
      right
      cases hcount : s.txSyncObj with
      | zero => exact Or.inr rfl
      | succ count => exact Or.inl (Nat.succ_pos count)
  | counted count =>
      simp only [updateStep, hupdate, Option.some.injEq] at hstep
      subst hstep
      cases count with
      | zero => exact Or.inr (Or.inl (Nat.succ_pos _))
      | succ count =>
          rcases hawaited with hfew | hsignal | hpending
          · exact Or.inl hfew
          · exact Or.inr (Or.inl hsignal)
          · rw [hupdate] at hpending
            cases hpending

theorem updateStep_frame (hstep : updateStep cfg s = some s') :
    s'.thread = s.thread ∧ s'.txLockObj = s.txLockObj ∧ s'.txPoolCnt = s.txPoolCnt ∧
      s'.sinceTest = s.sinceTest := by
  rw [updateStep] at hstep
  split at hstep <;> cases hstep <;> exact ⟨rfl, rfl, rfl, rfl⟩

theorem FlowKnows.of_updateStep (hknows : FlowKnows cfg s) (hstep : updateStep cfg s = some s') :
    FlowKnows cfg s' := by
  obtain ⟨hthread, hlock, hpool, hsince⟩ := updateStep_frame hstep
  refine hknows.of_frame hthread hlock (fun found hcount => ?_)
    fun flow => awaited_updateStep hstep
  rw [FlowSys.CountIs, hpool, hsince]
  exact hcount

end Update

section Runs

variable {cfg : DataConfig} {T : Type*} [DecidableEq T] {s s' : FlowSys T} {act : FlowAct T}

theorem FlowKnows.step (hknows : FlowKnows cfg s) (hstep : step cfg s act = some s') :
    FlowKnows cfg s' := by
  cases act with
  | header header =>
      simp only [TxFlow.step] at hstep
      split at hstep
      · cases hstep
        exact hknows.of_frame rfl rfl (fun _ _ => rfl) fun _ _ => Or.inr (Or.inr rfl)
      · cases hstep
  | update => exact hknows.of_updateStep hstep
  | restart required =>
      cases hstep
      exact hknows.of_frame rfl rfl (fun _ => id) fun _ => id
  | call thread op =>
      simp only [TxFlow.step] at hstep
      split at hstep
      · rename_i hthread
        cases hstep
        constructor
        · intro other hother
          by_cases hne : other = thread
          · rw [hne, goto_self] at hother
            cases hother
          · rw [goto_of_ne hne] at hother
            exact hknows.lock other hother
        · intro other
          rw [knows_goto]
          by_cases hne : other = thread
          · rw [hne, goto_self]
            trivial
          · rw [goto_of_ne hne]
            exact hknows.knows other
      · cases hstep
  | statement thread => exact hknows.of_threadStep hstep
  | spawnWoken thread =>
      simp only [TxFlow.step] at hstep
      split at hstep
      · rename_i flow found hthread
        rw [Option.ite_none_right_eq_some, Option.some.injEq] at hstep
        obtain ⟨-, rfl⟩ := hstep
        have hwaits : Knows cfg s (.waiting flow found) := hknows.knows_at hthread
        exact hknows.holder hthread rfl rfl rfl (knows_afterWait hwaits.1 hwaits.2.1)
      · cases hstep
  | refuse thread =>
      simp only [TxFlow.step] at hstep
      split at hstep
      · rename_i hthread
        cases hstep
        exact hknows.holder hthread rfl rfl rfl trivial
      · rename_i hthread
        cases hstep
        exact hknows.holder hthread rfl rfl rfl trivial
      · cases hstep

theorem flowKnows_run {acts : List (FlowAct T)} {reached : FlowSys T}
    (hrun : run (step cfg) (initial cfg T) acts = some reached) : FlowKnows cfg reached :=
  run_invariant (fun _ _ _ hknows hstep => FlowKnows.step hknows hstep) (initial_flowKnows cfg)
    hrun

/-- However data operations and status updates are interleaved, an operation is not left
waiting for packets that are there. -/
theorem noLostWakeUp_always (cfg : DataConfig) (acts : List (FlowAct T)) :
    StatesSatisfy (step cfg) (NoLostWakeUp cfg) (initial cfg T) acts := by
  intro before _ reached hreached thread flow found hthread hsignal hupdate
  have hwaits : Knows cfg reached (.waiting flow found) :=
    (flowKnows_run hreached).knows_at hthread
  rcases hwaits.2.2 with hfew | hpositive | hpending
  · exact hfew
  · omega
  · rw [hupdate] at hpending
    cases hpending

end Runs

section Packets

variable {cfg : DataConfig} {T : Type*} {s s' : FlowSys T} {flow : Flow} {found : Byte}

theorem toNat_amount_le (flow : Flow) : flow.amount.toNat ≤ flow.allocTxPoolPkts := by
  rw [Flow.amount, BitVec.toNat_ofNat]
  exact Nat.mod_le _ _

theorem toNat_amount_of_read (hformed : flow.Formed) (hop : flow.op = .read) :
    flow.amount.toNat = 1 := by
  rw [Flow.amount, hformed hop]
  rfl

/-- A send that has found more packets than its threshold has found what it takes. -/
theorem amount_le_found (hop : flow.op ≠ .read) (henough : flow.Enough cfg found) :
    flow.amount.toNat ≤ found.toNat := by
  have hfound : flow.threshold cfg < found.toNat := henough.resolve_left hop
  have hthreshold : flow.allocTxPoolPkts ≤ flow.threshold cfg := by
    rw [Flow.threshold]
    split
    · contradiction
    · omega
  calc flow.amount.toNat ≤ flow.allocTxPoolPkts := toNat_amount_le flow
    _ ≤ flow.threshold cfg := hthreshold
    _ ≤ found.toNat := hfound.le

theorem amount_le_iff_covered (hknows : Knows cfg s (.taking flow found)) :
    flow.amount.toNat ≤ s.txPoolCnt.toNat ↔ Covered s flow found := by
  obtain ⟨hformed, hcount, henough⟩ := hknows
  rw [hcount, Covered]
  cases hsince : s.sinceTest with
  | some header => rfl
  | none =>
      change flow.amount.toNat ≤ found.toNat ↔ _
      by_cases hop : flow.op = .read
      · rw [toNat_amount_of_read hformed hop]
        constructor
        · rintro hone - rfl
          simp at hone
        · intro hfound
          have hne : found.toNat ≠ 0 := fun hzero => hfound hop (BitVec.eq_of_toNat_eq hzero)
          omega
      · exact ⟨fun _ hread => absurd hread hop, fun _ => amount_le_found hop henough⟩

variable [DecidableEq T]

/-- A header as the NWP sends it with `txPoolCnt` packets free. -/
def headerWith (txPoolCnt : Byte) (minMaxPayload : BitVec 16) : RespHeader where
  opcode := 0
  len := 0
  txPoolCnt := txPoolCnt
  devStatus := 0
  minMaxPayload := minMaxPayload
  socketTXFailure := 0
  socketNonBlocking := 0

/-- One whole status update. -/
def headerUpdate (T : Type*) (header : RespHeader) (statements : ℕ) : List (FlowAct T) :=
  .header header :: List.replicate statements .update

/-- A send finds five packets and is about to take one when a header says that there is
none left. -/
def overtakenSend : List (FlowAct Unit) :=
  headerUpdate Unit (headerWith 5 1536) 6 ++ [.call () (.write 0 100)]
    ++ List.replicate 6 (.statement ()) ++ headerUpdate Unit (headerWith 0 1536) 4
    ++ List.replicate 3 (.statement ())

theorem overtakenSend_underflows :
    ¬StepsSatisfy (step smallDataConfig) TakesWhatIsThere (initial smallDataConfig Unit)
      (overtakenSend ++ [.statement ()]) :=
  not_stepsSatisfy_of_any
    (fun s => match s.thread () with
      | .taking flow _ => decide (s.txPoolCnt.toNat < flow.amount.toNat)
      | _ => false)
    (fun s hfails htakes => by
      split at hfails
      · rename_i flow found hthread
        exact Nat.not_lt.mpr (htakes () flow found rfl hthread) (of_decide_eq_true hfails)
      · cases hfails)
    (by decide +kernel)

/-- The count wraps around. -/
example :
    ((run (step smallDataConfig) (initial smallDataConfig Unit)
      (overtakenSend ++ [.statement ()])).map fun s => (s.txPoolCnt, s.restartRequired))
    = some (255, true) := by decide +kernel

/-- No subtraction takes more than the count has, exactly as long as every subtraction is
covered by the last header since the operation's last test or, without one, by what that
test has found. -/
theorem takesWhatIsThere_iff (cfg : DataConfig) (acts : List (FlowAct T)) :
    StepsSatisfy (step cfg) TakesWhatIsThere (initial cfg T) acts ↔
      StepsSatisfy (step cfg) TakesCovered (initial cfg T) acts := by
  refine stepsSatisfy_congr (fun _ _ _ hknows hstep => FlowKnows.step hknows hstep)
    (initial_flowKnows cfg) fun s act _ hknows _ => ?_
  constructor
  · intro htakes thread flow found hact hthread
    exact (amount_le_iff_covered (hknows.knows_at hthread)).mp
      (htakes thread flow found hact hthread)
  · intro hcovered thread flow found hact hthread
    exact (amount_le_iff_covered (hknows.knows_at hthread)).mpr
      (hcovered thread flow found hact hthread)

end Packets

section Divisor

variable {cfg : DataConfig} {T : Type*} [DecidableEq T] {s s' : FlowSys T} {act : FlowAct T}

theorem txPoolPkts_of_pos {txPayload1Len minTxPayloadSize : BitVec 16}
    (hlen : 1 ≤ txPayload1Len.toNat) :
    txPoolPkts txPayload1Len minTxPayloadSize =
      (txPayload1Len.toNat - 1) / minTxPayloadSize.toNat + 1 := by
  have hsub : (txPayload1Len.toNat : ℤ) - 1 = ((txPayload1Len.toNat - 1 : ℕ) : ℤ) := by omega
  rw [txPoolPkts, hsub, ← Int.ofNat_tdiv, add_comm]
  rfl

/-- What `1 + (len - 1) / size` computes is the quotient rounded up. -/
theorem succ_pred_div_eq_ceil {len size : ℕ} (hlen : 1 ≤ len) (hsize : 0 < size) :
    (len - 1) / size + 1 = ⌈(len : ℚ) / size⌉₊ := by
  have hcast : (0 : ℚ) < size := by exact_mod_cast hsize
  symm
  rw [Nat.ceil_eq_iff (Nat.succ_ne_zero _)]
  constructor
  · rw [lt_div_iff₀ hcast]
    have hbelow : (len - 1) / size * size < len := by
      have hle := Nat.div_mul_le_self (len - 1) size
      omega
    exact_mod_cast hbelow
  · rw [div_le_iff₀ hcast]
    have habove : len ≤ ((len - 1) / size + 1) * size := by
      have hlt := Nat.lt_mul_div_succ (len - 1) hsize
      rw [mul_comm] at hlt
      omega
    exact_mod_cast habove

theorem txPoolPkts_eq_ceil {txPayload1Len minTxPayloadSize : BitVec 16}
    (hsize : minTxPayloadSize ≠ 0) (hlen : 1 ≤ txPayload1Len.toNat) :
    txPoolPkts txPayload1Len minTxPayloadSize =
      ⌈(txPayload1Len.toNat : ℚ) / minTxPayloadSize.toNat⌉₊ := by
  have hpos : 0 < minTxPayloadSize.toNat :=
    Nat.pos_of_ne_zero fun hzero => hsize (BitVec.eq_of_toNat_eq hzero)
  rw [txPoolPkts_of_pos hlen, succ_pred_div_eq_ceil hlen hpos]

/-- The divisor is what the last header has announced, or that of `_SlDrvDriverCBInit`. -/
def PayloadIs (s : FlowSys T) : Prop :=
  s.minTxPayloadSize = (s.lastPayload.map RespHeader.minMaxPayload).getD 1536

theorem payload_of_threadStep {thread : T} (hstep : threadStep cfg s thread = some s') :
    s'.minTxPayloadSize = s.minTxPayloadSize ∧ s'.lastPayload = s.lastPayload := by
  rw [threadStep] at hstep
  split at hstep <;> (repeat' split at hstep) <;> cases hstep <;> exact ⟨rfl, rfl⟩

theorem payloadIs_step (hpayload : PayloadIs s) (hstep : step cfg s act = some s') :
    PayloadIs s' := by
  cases act with
  | header header =>
      simp only [step] at hstep
      split at hstep
      · cases hstep
        exact hpayload
      · cases hstep
  | update =>
      simp only [step, updateStep] at hstep
      split at hstep <;> cases hstep <;> first | exact hpayload | rfl
  | restart required =>
      cases hstep
      exact hpayload
  | call thread op | refuse thread =>
      simp only [step] at hstep
      split at hstep <;> cases hstep <;> exact hpayload
  | spawnWoken thread =>
      simp only [step] at hstep
      split at hstep
      · rw [Option.ite_none_right_eq_some, Option.some.injEq] at hstep
        obtain ⟨-, rfl⟩ := hstep
        exact hpayload
      · cases hstep
  | statement thread =>
      obtain ⟨hsize, hlast⟩ := payload_of_threadStep hstep
      rw [PayloadIs, hsize, hlast]
      exact hpayload

/-- A header announces payloads of length zero, and a send comes. -/
theorem zeroPayload_divides :
    ¬AttemptsSatisfy (step smallDataConfig) ComputesPackets (initial smallDataConfig Unit)
      (headerUpdate Unit (headerWith 5 0) 6 ++ [.call () (.write 0 100), .statement (),
        .statement ()] ++ [.statement ()]) :=
  not_attemptsSatisfy_of_any
    (fun s => match s.thread () with
      | .computing _ _ => s.minTxPayloadSize == 0
      | _ => false)
    (fun s hfails hcomputes => by
      split at hfails
      · rename_i sd len hthread
        exact (hcomputes () sd len rfl hthread).1 (eq_of_beq hfails)
      · cases hfails)
    (by decide +kernel)

/-- A send's computation is right, with no division by zero, exactly as long as none is
made while the last header has announced a payload size of zero. -/
theorem computesPackets_iff (cfg : DataConfig) (acts : List (FlowAct T)) :
    AttemptsSatisfy (step cfg) ComputesPackets (initial cfg T) acts ↔
      AttemptsSatisfy (step cfg) PayloadAnnounced (initial cfg T) acts := by
  refine attemptsSatisfy_congr (fun _ _ _ hpayload hstep => payloadIs_step hpayload hstep) rfl
    fun s act hpayload => ?_
  constructor
  · intro hcomputes thread sd len header hact hthread hlast
    have hsize := (hcomputes thread sd len hact hthread).1
    rwa [hpayload, hlast] at hsize
  · intro hannounced thread sd len hact hthread
    have hsize : s.minTxPayloadSize ≠ 0 := by
      rw [hpayload]
      cases hlast : s.lastPayload with
      | none => exact by decide
      | some header => exact hannounced thread sd len header hact hthread hlast
    exact ⟨hsize, txPoolPkts_eq_ceil hsize⟩

end Divisor

/-! ## The statements against the functions -/

section Source

open CallOutcome GlobalLock MsgRead
open RxMsg (RxConfig)

variable {cfg : DataConfig} {T : Type*} [DecidableEq T] {s : FlowSys T} {thread : T}
  {flow : Flow} {found : Byte}

/-- The first test of a send in the loop of `_SlDrvDataWriteOp`. -/
theorem short_eq (sd : Byte) (ext : CmdExt) (round : WriteRound) :
    round.short cfg ext = decide (round.txPoolCnt.toNat ≤ Flow.threshold cfg
      ⟨.write sd ext.txPayload1Len, txPoolPkts ext.txPayload1Len round.minTxPayloadSize⟩) := rfl

/-- The second test. -/
theorem enough_eq (sd : Byte) (ext : CmdExt) (round : WriteRound) :
    round.enough cfg ext = decide (Flow.threshold cfg
      ⟨.write sd ext.txPayload1Len, txPoolPkts ext.txPayload1Len round.minTxPayloadSize⟩
        < round.txPoolCntAfter.toNat) := rfl

/-- The signals that a status update gives. -/
def signalsFor (cfg : DataConfig) (header : RespHeader) (txSyncObj : ℕ) : ℕ :=
  if cfg.flowContMin < header.txPoolCnt.toNat ∧ txSyncObj = 0 then 1 else 0

/-- The flow control behind a status update. -/
def FlowSys.updated (cfg : DataConfig) (s : FlowSys T) (header : RespHeader) : FlowSys T :=
  { s with
    txPoolCnt := header.txPoolCnt
    socketNonBlocking := header.socketNonBlocking
    socketTXFailure := header.socketTXFailure
    minTxPayloadSize := header.minMaxPayload
    txSyncObj := s.txSyncObj + signalsFor cfg header s.txSyncObj
    sinceTest := some header
    lastPayload := some header }

/-- The statements of an update that nobody disturbs. -/
theorem run_headerUpdate (hidle : s.update = .idle) (header : RespHeader) :
    ∃ statements, run (step cfg) s (headerUpdate T header statements) =
      some (s.updated cfg header) := by
  by_cases hmany : cfg.flowContMin < header.txPoolCnt.toNat
  · refine ⟨6, ?_⟩
    by_cases hcount : s.txSyncObj = 0 <;>
      simp [headerUpdate, run_cons, step, updateStep, hidle, hmany, hcount, FlowSys.updated,
        signalsFor]
  · refine ⟨4, ?_⟩
    simp [headerUpdate, run_cons, step, updateStep, hidle, hmany, FlowSys.updated, signalsFor]

omit [DecidableEq T] in
/-- `updateNwpStatus` does the same to the control block. -/
theorem completes_updateNwpStatus_flow (rxCfg : RxConfig)
    (hmin : rxCfg.flowContMin = cfg.flowContMin) (header : RespHeader) (call : DrvState) :
    Completes (updateNwpStatus rxCfg header s.txSyncObj) call fun _ after =>
      after.cb.txPoolCnt = (s.updated cfg header).txPoolCnt ∧
        after.cb.socketNonBlocking = (s.updated cfg header).socketNonBlocking ∧
        after.cb.socketTXFailure = (s.updated cfg header).socketTXFailure ∧
        after.cb.minTxPayloadSize = (s.updated cfg header).minTxPayloadSize ∧
        after.acts = call.acts ++ .setDeviceStatus header.devStatus ::
          List.replicate (signalsFor cfg header s.txSyncObj) (.syncSignal .txSyncObj) := by
  rw [Completes, updateNwpStatus, ends_bind, ends_modifyCB, ends_bind, ends_emit, ends_runIf,
    hmin, signalsFor]
  split
  · exact ⟨rfl, rfl, rfl, rfl, by simp [DrvState.after, DrvState.changeCB]⟩
  · exact ⟨rfl, rfl, rfl, rfl, by simp [DrvState.after, DrvState.changeCB]⟩

/-- The last statements of a data operation that nobody disturbs. -/
theorem run_granted (hthread : s.thread thread = .granted flow found)
    (hrestart : s.restartRequired = false) :
    run (step cfg) s (List.replicate 4 (.statement thread)) =
      some ({ s with
        txPoolCnt := s.txPoolCnt - flow.amount
        restartRequired := decide (s.txPoolCnt.toNat < flow.threshold cfg)
        txLockObj := none }.goto thread .idle) := by
  simp [run_cons, List.replicate_succ, step, threadStep, hthread, hrestart, FlowSys.goto]

omit [DecidableEq T] in
/-- `takeTxPackets` does the same, with the global lock. -/
theorem completes_takeTxPackets_flow (env : TakePackets) (hgranted : env.granted = true)
    (hcount : env.txPoolCnt = s.txPoolCnt) (call : DrvState) :
    Completes (takeTxPackets (flow.threshold cfg) flow.allocTxPoolPkts env) call fun _ after =>
      ∃ front, after.acts = front ++
        (if s.txPoolCnt.toNat < flow.threshold cfg then [.fatalError .driverAbort] else []) ++
        [.setTxPoolCnt (s.txPoolCnt - flow.amount), .unlock .txLockObj] := by
  rw [TakePackets.granted, Bool.and_eq_true, Bool.not_eq_true'] at hgranted
  rw [takeTxPackets]
  rw [Completes, ends_bind]
  apply (ends_lockGlobalLockForever dataLockFlags env.globalLock call).mono
  · rintro - locked -
    rw [ends_bind, ends_runIf, hgranted.2, if_neg Bool.false_ne_true, ends_bind, verifyProtocol,
      hcount]
    by_cases hfew : s.txPoolCnt.toNat < flow.threshold cfg
    · rw [if_neg (by simpa using hfew), if_pos hfew]
      exact ⟨locked.acts, by simp [DrvState.after, Flow.amount]⟩
    · rw [if_pos (by simpa using hfew), if_neg hfew]
      exact ⟨locked.acts, by simp [DrvState.after, Flow.amount]⟩
  · rintro ret after ⟨hrefused, -⟩
    exact absurd hgranted.1 hrefused

end Source

end SimpleLinkHost.TxFlow
