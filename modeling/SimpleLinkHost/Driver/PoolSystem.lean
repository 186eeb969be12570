import SimpleLinkHost.Core.Transition
import SimpleLinkHost.Driver.PoolRelease

/-!
# Threads that share the pool

Any number of threads enter `_SlDrvWaitForPoolObj`, wait, resume and release
their object in any order; each action is one section under the protection
lock.  `Consistent` ties the states of the threads to the slots of the pool, and
one theorem for each action says how the slots move.
-/

namespace SimpleLinkHost.PoolSystem

open Pool PoolSlots PoolRelease IndexList KeyedExclusion

/-- Where a thread is with respect to the pool. -/
inductive ThreadState (cfg : PoolConfig)
  | outside
  /-- `_SlDrvWaitForPoolObj` returned an error. -/
  | failed (error : PoolError)
  /-- In `_SlDrvSyncObjWaitForever` on the sync object of `objIdx`. -/
  | blocked (call : PoolCall cfg) (objIdx : ℕ)
  /-- `_SlDrvWaitForPoolObj` returned `objIdx`. -/
  | active (call : PoolCall cfg) (objIdx : ℕ)
deriving DecidableEq

structure PoolSys (cfg : PoolConfig) (T : Type*) where
  cb : PoolCB
  thread : T → ThreadState cfg
  stopInProgress : Bool
  restartRequired : Bool
  /-- The protection lock was left taken by a thread that has returned. -/
  protectionLocked : Bool

inductive PoolAct (cfg : PoolConfig) (T : Type*)
  | enter (thread : T) (call : PoolCall cfg)
  | resume (thread : T)
  | release (thread : T)

variable {cfg : PoolConfig} {T : Type*} [DecidableEq T]

/-- The driver after `_SlDrvDriverCBInit`, with no call under way. -/
def initial (cfg : PoolConfig) (T : Type*) : PoolSys cfg T where
  cb := slDrvDriverCBInit cfg
  thread _ := .outside
  stopInProgress := false
  restartRequired := false
  protectionLocked := false

/-- The thread's state after a section of `_SlDrvWaitForPoolObj`. -/
def waitState (call : PoolCall cfg) : PoolWait → ThreadState cfg
  | .obj objIdx => .active call objIdx
  | .wait objIdx => .blocked call objIdx
  | .error error => .failed error

def afterWait (s : PoolSys cfg T) (thread : T) (call : PoolCall cfg)
    (result : PoolWait × PoolCB) : PoolSys cfg T :=
  { s with
    cb := result.2
    thread := Function.update s.thread thread (waitState call result.1) }

/-- One section of one thread.  A thread resumes only after its sync object was
signalled, and the signal is consumed; a section that needs the protection lock
never runs while the lock was left taken. -/
def step (isSpawn : T → Bool) (s : PoolSys cfg T) : PoolAct cfg T → Option (PoolSys cfg T)
  | .enter thread call =>
      match s.thread thread with
      | .outside | .failed _ =>
          if s.protectionLocked then none
          else some (afterWait s thread call
            (slDrvWaitForPoolObj (isSpawn thread) call s.cb))
      | _ => none
  | .resume thread =>
      match s.thread thread with
      | .blocked call objIdx =>
          if s.protectionLocked || !(s.cb.objPool objIdx).syncObj then none
          else
            let waitStatus := slDrvSyncObjWaitForever s.restartRequired
            let cb := s.cb.modify objIdx fun obj => { obj with syncObj := false }
            some (afterWait s thread call
              (waitForPoolObjResume s.stopInProgress (isSpawn thread) waitStatus call objIdx cb))
      | _ => none
  | .release thread =>
      match s.thread thread with
      | .active _ objIdx =>
          if s.protectionLocked then none
          else (slDrvReleasePoolObj cfg s.stopInProgress objIdx s.cb).map fun result =>
            { s with
              cb := result.2
              thread := Function.update s.thread thread .outside
              protectionLocked := result.1 == .bitOff }
      | _ => none

/-- The pool part of `_SlDrvHandleFatalError`. -/
def slDrvHandleFatalError (s : PoolSys cfg T) : PoolSys cfg T :=
  if s.restartRequired then s
  else
    { s with
      restartRequired := true
      cb := (List.range cfg.maxConcurrentActions).foldl PoolCB.signal s.cb }

/-- One thread and one slot agree on whether the thread holds the object. -/
def Agree (thread : T) (state : ThreadState cfg) (index : ℕ)
    (slot : Slot (T × PoolCall cfg)) : Prop :=
  ∀ call,
    (state = .active call index ↔ slot = .active (thread, call)) ∧
    (state = .blocked call index ↔ slot = .pending (thread, call) ∨ slot = .woken (thread, call))

/-- The threads and the slots of the pool fit together. -/
structure Settled (isSpawn : T → Bool) (s : PoolSys cfg T)
    (slots : ℕ → Slot (T × PoolCall cfg)) : Prop where
  represents : Represents s.cb slots
  exclusive : Exclusive slotKey (Shared cfg) slots
  waiters : WaitersExclusive slotKey (Shared cfg) slots
  agree : ∀ thread index, Agree thread (s.thread thread) index (slots index)
  notSpawn : ∀ thread call index, s.thread thread = .blocked call index →
    isSpawn thread = false
  unlocked : s.protectionLocked = false

/-- The state of a driver without a fatal error: only the sync objects of woken
slots are signalled. -/
structure Consistent (isSpawn : T → Bool) (s : PoolSys cfg T)
    (slots : ℕ → Slot (T × PoolCall cfg)) : Prop extends Settled isSpawn s slots where
  signalled : ∀ index, (s.cb.objPool index).syncObj = true ↔ ∃ held, slots index = .woken held

variable {isSpawn : T → Bool} {s s' : PoolSys cfg T}
variable {slots : ℕ → Slot (T × PoolCall cfg)} {thread : T} {index : ℕ} {call : PoolCall cfg}

/-- The thread holds no object other than `index`, and nobody else holds
`index`. -/
structure OnlyHolds (thread : T) (state : ThreadState cfg) (index : ℕ)
    (slot : Slot (T × PoolCall cfg)) : Prop where
  state_elsewhere : ∀ call other, other ≠ index →
    state ≠ .active call other ∧ state ≠ .blocked call other
  slot_others : ∀ other call, other ≠ thread →
    slot ≠ .active (other, call) ∧ slot ≠ .pending (other, call) ∧ slot ≠ .woken (other, call)

/-- A thread moves on with one object and the slot of that object follows. -/
theorem agree_update
    (hagree : ∀ thread index, Agree thread (s.thread thread) index (slots index))
    {state : ThreadState cfg} {slot : Slot (T × PoolCall cfg)}
    (hbefore : OnlyHolds thread (s.thread thread) index (slots index))
    (hafter : OnlyHolds thread state index slot) (hnew : Agree thread state index slot) :
    ∀ other place, Agree other (Function.update s.thread thread state other) place
      (Function.update slots index slot place) := by
  intro other place
  by_cases hother : other = thread
  · subst other
    rw [Function.update_self]
    by_cases hplace : place = index
    · subst place
      rwa [Function.update_self]
    · rw [Function.update_of_ne hplace]
      intro call
      have hold := hagree thread place call
      have hleft := hbefore.state_elsewhere call place hplace
      have hright := hafter.state_elsewhere call place hplace
      rw [← hold.1, ← hold.2]
      simp [hleft.1, hleft.2, hright.1, hright.2]
  · rw [Function.update_of_ne hother]
    by_cases hplace : place = index
    · subst place
      rw [Function.update_self]
      intro call
      have hold := hagree other index call
      have hleft := hbefore.slot_others other call hother
      have hright := hafter.slot_others other call hother
      rw [hold.1, hold.2]
      simp [hleft.1, hleft.2.1, hleft.2.2, hright.1, hright.2.1, hright.2.2]
    · rw [Function.update_of_ne hplace]
      exact hagree other place

omit [DecidableEq T] in
/-- Threads do not see which pending slots are woken. -/
theorem agree_wake
    (hagree : ∀ thread index, Agree thread (s.thread thread) index (slots index))
    (choice : Option ℕ) :
    ∀ other place, Agree other (s.thread other) place (wake slots choice place) := by
  intro other place
  cases hslot : slots place with
  | pending held =>
      by_cases hchoice : choice = some place
      · subst choice
        rw [wake_of_pending hslot, Function.update_self]
        intro call
        have hold := hagree other place call
        rw [hslot] at hold
        rw [hold.1, hold.2]
        simp
      · rw [wake_of_ne hchoice]
        exact hagree other place
  | free =>
      rw [wake_of_not_pending (by simp [hslot])]
      exact hagree other place
  | woken held =>
      rw [wake_of_not_pending (by simp [hslot])]
      exact hagree other place
  | active held =>
      rw [wake_of_not_pending (by simp [hslot])]
      exact hagree other place

omit [DecidableEq T] in
theorem onlyHolds_of_free {state : ThreadState cfg}
    (hstate : ∀ call other, state ≠ .active call other ∧ state ≠ .blocked call other) :
    OnlyHolds thread state index (.free : Slot (T × PoolCall cfg)) := by
  constructor
  · exact fun call other _ => hstate call other
  · simp

omit [DecidableEq T] in
theorem onlyHolds_of_eq {state : ThreadState cfg} {slot : Slot (T × PoolCall cfg)}
    (hstate : state = .active call index ∨ state = .blocked call index)
    (hslot : slot = .active (thread, call) ∨ slot = .pending (thread, call) ∨
      slot = .woken (thread, call)) : OnlyHolds thread state index slot := by
  constructor
  · intro call other hother
    rcases hstate with rfl | rfl <;> simp [Ne.symm hother]
  · intro other call hother
    rcases hslot with rfl | rfl | rfl <;> simp [Ne.symm hother]

theorem notSpawn_update
    (hnotSpawn : ∀ thread call index, s.thread thread = .blocked call index →
      isSpawn thread = false) {state : ThreadState cfg}
    (hstate : ∀ call index, state = .blocked call index → isSpawn thread = false) :
    ∀ other call index, Function.update s.thread thread state other = .blocked call index →
      isSpawn other = false := by
  intro other call index hother
  by_cases heq : other = thread
  · subst other
    rw [Function.update_self] at hother
    exact hstate call index hother
  · rw [Function.update_of_ne heq] at hother
    exact hnotSpawn other call index hother

theorem initial_free_list {count : ℕ} (hcount : count ≤ cfg.maxConcurrentActions) :
    Linked (slDrvDriverCBInit cfg).next cfg.maxConcurrentActions
      (cfg.maxConcurrentActions - count)
      (List.range' (cfg.maxConcurrentActions - count) count) := by
  induction count with
  | zero => simp
  | succ count ih =>
      have hsucc : cfg.maxConcurrentActions - (count + 1) + 1 =
          cfg.maxConcurrentActions - count := by omega
      have hlink : (slDrvDriverCBInit cfg).next (cfg.maxConcurrentActions - (count + 1)) =
          cfg.maxConcurrentActions - count := hsucc
      rw [List.range'_succ, hsucc]
      refine ⟨rfl, by omega, ?_⟩
      rw [hlink]
      exact ih (by omega)

omit [DecidableEq T] in
/-- The pool is empty and consistent at the start. -/
theorem initial_consistent : Consistent isSpawn (initial cfg T) fun _ => .free := by
  have hrep : Represents (initial cfg T).cb fun _ => (.free : Slot (T × PoolCall cfg)) := by
    constructor
    case free =>
      have hall := initial_free_list (Nat.le_refl cfg.maxConcurrentActions)
      rw [Nat.sub_self] at hall
      exact ⟨_, hall, by simp [List.mem_range']⟩
    case active => exact ⟨[], rfl, by simp⟩
    case pending => exact ⟨[], rfl, by simp⟩
    case free_of_ge => simp
    case holds => exact fun _ => rfl
    case busy_of_bit => simp [initial, slDrvDriverCBInit]
    case bit_of_busy => simp [Busy]
  constructor
  · exact ⟨hrep, by simp [Exclusive], by simp [WaitersExclusive], by simp [Agree, initial],
      by simp [initial], rfl⟩
  · simp [initial, slDrvDriverCBInit]

/-- The slots after one pass of the wait loop by a thread that held `index`. -/
theorem consistent_afterWait (hconsistent : Consistent isSpawn s slots)
    (hslot : slots index = .free ∨ slots index = .woken (thread, call))
    (hbefore : OnlyHolds thread (s.thread thread) index (slots index))
    {cb : PoolCB} (hrep : Represents cb (Function.update slots index (.woken (thread, call))))
    (hsignalled : ∀ place, (cb.objPool place).syncObj = true ↔
      place ≠ index ∧ ∃ held, slots place = .woken held)
    (hlink : isSpawn thread = true → cb.next index = cb.freePoolIdx) :
    ∃ slots', Consistent isSpawn
        (afterWait s thread call (waitForPoolObjLoop (isSpawn thread) call index cb)) slots' ∧
      (Advance slotKey (Shared cfg) slots slots' ∨
        (isSpawn thread = true ∧ slots' = Function.update slots index .free)) := by
  obtain ⟨result, after, slots', hloop, hresult, hafter, hsame⟩ :=
    hrep.waitForPoolObjLoop (Function.update_self ..) hlink
  have hinactive : ∀ held, slots index ≠ .active held := by
    rcases hslot with hslot | hslot <;> simp [hslot]
  have hbusy : ∀ bit,
      Busy slotKey (Function.update slots index (.woken (thread, call))) bit ↔
        Busy slotKey slots bit := fun bit => busy_update_iff hinactive (by simp)
  have hplaces : ∀ slot : Slot (T × PoolCall cfg), (∀ held, slot ≠ .woken held) →
      ∀ place, (after.objPool place).syncObj = true ↔
        ∃ held, Function.update slots index slot place = .woken held := by
    intro slot hslot place
    rw [hsame, hsignalled]
    by_cases hplace : place = index
    · subst place
      simpa using hslot
    · simp [hplace]
  rw [hloop]
  cases hresult with
  | start hidle =>
      rw [Function.update_idem] at hafter
      rw [hbusy] at hidle
      have hadvance : Advance slotKey (Shared cfg) slots
          (Function.update slots index (.active (thread, call))) := .start hslot hidle
      refine ⟨_, ⟨?_, hplaces _ (by simp)⟩, Or.inl hadvance⟩
      constructor
      case represents => exact hafter
      case exclusive => exact hconsistent.exclusive.advance hadvance
      case waiters => exact hconsistent.waiters.advance hadvance
      case agree =>
        apply agree_update hconsistent.agree hbefore
        · exact onlyHolds_of_eq (Or.inl rfl) (Or.inl rfl)
        · simp [Agree, waitState]
      case notSpawn => exact notSpawn_update hconsistent.notSpawn (by simp [waitState])
      case unlocked => exact hconsistent.unlocked
  | wait hspawn hshared hbusyKey =>
      rw [Function.update_idem] at hafter
      rw [hbusy] at hbusyKey
      have hadvance : Advance slotKey (Shared cfg) slots
          (Function.update slots index (.pending (thread, call))) :=
        .park hslot hshared hbusyKey
      refine ⟨_, ⟨?_, hplaces _ (by simp)⟩, Or.inl hadvance⟩
      constructor
      case represents => exact hafter
      case exclusive => exact hconsistent.exclusive.advance hadvance
      case waiters => exact hconsistent.waiters.advance hadvance
      case agree =>
        apply agree_update hconsistent.agree hbefore
        · exact onlyHolds_of_eq (Or.inr rfl) (Or.inr (Or.inl rfl))
        · simp [Agree, waitState]
      case notSpawn => exact notSpawn_update hconsistent.notSpawn fun _ _ _ => hspawn
      case unlocked => exact hconsistent.unlocked
  | refuse hspawn =>
      rw [Function.update_idem] at hafter
      refine ⟨_, ⟨?_, hplaces _ (by simp)⟩, Or.inr ⟨hspawn, rfl⟩⟩
      have hstill : ∀ place held, Function.update slots index .free place = .active held ↔
          slots place = .active held := by
        intro place held
        by_cases hplace : place = index
        · subst place
          simp [hinactive held]
        · rw [Function.update_of_ne hplace]
      constructor
      case represents => exact hafter
      case exclusive =>
        exact hconsistent.exclusive.of_active fun place held => (hstill place held).mp
      case waiters =>
        intro place held hplace
        by_cases heq : place = index
        · subst place
          simp at hplace
        · rw [Function.update_of_ne heq] at hplace
          exact hconsistent.waiters place held hplace
      case agree =>
        apply agree_update hconsistent.agree hbefore
        · exact onlyHolds_of_free (by simp [waitState])
        · simp [Agree, waitState]
      case notSpawn => exact notSpawn_update hconsistent.notSpawn (by simp [waitState])
      case unlocked => exact hconsistent.unlocked

/-- What an `enter` action does. -/
theorem step_enter (hstep : step isSpawn s (.enter thread call) = some s') :
    (∀ other place, s.thread thread ≠ .active other place ∧
      s.thread thread ≠ .blocked other place) ∧
    s.protectionLocked = false ∧
    s' = afterWait s thread call (slDrvWaitForPoolObj (isSpawn thread) call s.cb) := by
  rw [step] at hstep
  cases hthread : s.thread thread with
  | outside => simp_all
  | failed error => simp_all
  | blocked other place => simp [hthread] at hstep
  | active other place => simp [hthread] at hstep

/-- What a `resume` action does. -/
theorem step_resume (hstep : step isSpawn s (.resume thread) = some s') :
    ∃ call index, s.thread thread = .blocked call index ∧
      (s.cb.objPool index).syncObj = true ∧ s.protectionLocked = false ∧
      s' = afterWait s thread call
        (waitForPoolObjResume s.stopInProgress (isSpawn thread)
          (slDrvSyncObjWaitForever s.restartRequired) call index
          (s.cb.modify index fun obj => { obj with syncObj := false })) := by
  rw [step] at hstep
  cases hthread : s.thread thread with
  | outside => simp [hthread] at hstep
  | failed error => simp [hthread] at hstep
  | active other place => simp [hthread] at hstep
  | blocked call index =>
      simp only [hthread, Option.ite_none_left_eq_some, Bool.or_eq_true, not_or,
        Bool.not_eq_true, Bool.not_eq_false', Option.some.injEq] at hstep
      obtain ⟨⟨hunlocked, hsignalled⟩, heq⟩ := hstep
      exact ⟨call, index, rfl, hsignalled, hunlocked, heq.symm⟩

/-- What a `release` action does. -/
theorem step_release (hstep : step isSpawn s (.release thread) = some s') :
    ∃ call index result, s.thread thread = .active call index ∧
      s.protectionLocked = false ∧
      slDrvReleasePoolObj cfg s.stopInProgress index s.cb = some result ∧
      s' = { s with
        cb := result.2
        thread := Function.update s.thread thread .outside
        protectionLocked := result.1 == .bitOff } := by
  rw [step] at hstep
  cases hthread : s.thread thread with
  | outside => simp [hthread] at hstep
  | failed error => simp [hthread] at hstep
  | blocked call index => simp [hthread] at hstep
  | active call index =>
      simp only [hthread, Option.ite_none_left_eq_some, Bool.not_eq_true,
        Option.map_eq_some_iff] at hstep
      obtain ⟨hunlocked, result, hrelease, heq⟩ := hstep
      exact ⟨call, index, result, rfl, hunlocked, hrelease, heq.symm⟩

/-- A call that enters is refused, starts, or parks because its bit is in use. -/
theorem Consistent.enter (hconsistent : Consistent isSpawn s slots)
    (hstep : step isSpawn s (.enter thread call) = some s') :
    ∃ slots', Consistent isSpawn s' slots' ∧
      (slots' = slots ∨ Advance slotKey (Shared cfg) slots slots') := by
  obtain ⟨hthread, -, rfl⟩ := step_enter hstep
  by_cases hlt : s.cb.freePoolIdx < cfg.maxConcurrentActions
  · obtain ⟨taken, htake, hfree, hrep, hlink, hsame⟩ :=
      hconsistent.represents.takeFreeObj_spec thread call hlt
    have hsignalled : ∀ place, (taken.objPool place).syncObj = true ↔
        place ≠ s.cb.freePoolIdx ∧ ∃ held, slots place = .woken held := by
      intro place
      rw [hsame, hconsistent.signalled]
      constructor
      · rintro ⟨held, hheld⟩
        refine ⟨fun heq => ?_, held, hheld⟩
        rw [heq, hfree] at hheld
        simp at hheld
      · exact And.right
    have hbefore : OnlyHolds thread (s.thread thread) s.cb.freePoolIdx
        (slots s.cb.freePoolIdx) := by
      rw [hfree]
      exact onlyHolds_of_free hthread
    have hwait : slDrvWaitForPoolObj (isSpawn thread) call s.cb =
        waitForPoolObjLoop (isSpawn thread) call s.cb.freePoolIdx taken := by
      simp only [slDrvWaitForPoolObj, htake]
    rw [hwait]
    obtain ⟨slots', hafter, hmove⟩ :=
      consistent_afterWait hconsistent (Or.inl hfree) hbefore hrep hsignalled fun _ => hlink
    refine ⟨slots', hafter, hmove.symm.imp_left fun ⟨_, hrefused⟩ => ?_⟩
    rw [hrefused, ← hfree]
    exact Function.update_eq_self ..
  · have hwait : slDrvWaitForPoolObj (isSpawn thread) call s.cb = (.error .noObj, s.cb) := by
      simp [slDrvWaitForPoolObj, takeFreeObj, hlt]
    rw [hwait]
    refine ⟨slots, ?_, Or.inl rfl⟩
    have hagree : ∀ other place, Agree other
        (Function.update s.thread thread (.failed .noObj) other) place (slots place) := by
      intro other place
      by_cases hother : other = thread
      · subst other
        intro called
        have hold := hconsistent.agree thread place called
        rw [Function.update_self, ← hold.1, ← hold.2]
        simp [(hthread called place).1, (hthread called place).2]
      · rw [Function.update_of_ne hother]
        exact hconsistent.agree other place
    exact ⟨⟨hconsistent.represents, hconsistent.exclusive, hconsistent.waiters, hagree,
      notSpawn_update hconsistent.notSpawn (by simp [waitState]), hconsistent.unlocked⟩,
      hconsistent.signalled⟩

/-- A woken call starts, or parks again because its bit is in use. -/
theorem Consistent.resume (hconsistent : Consistent isSpawn s slots)
    (hstop : s.stopInProgress = false)
    (hstep : step isSpawn s (.resume thread) = some s') :
    ∃ slots', Consistent isSpawn s' slots' ∧ Advance slotKey (Shared cfg) slots slots' := by
  obtain ⟨call, index, hthread, hsignal, -, rfl⟩ := step_resume hstep
  obtain ⟨held, hwoken⟩ := (hconsistent.signalled index).mp hsignal
  have hslot : slots index = .woken (thread, call) := by
    rcases ((hconsistent.agree thread index call).2.mp hthread) with hpending | hslot
    · rw [hwoken] at hpending
      simp at hpending
    · exact hslot
  have hrep : Represents (s.cb.modify index fun obj => { obj with syncObj := false })
      (Function.update slots index (.woken (thread, call))) := by
    rw [← hslot, Function.update_eq_self]
    exact hconsistent.represents.modify (fun _ => rfl) (fun _ => rfl) fun _ => rfl
  have hsignalled : ∀ place,
      ((s.cb.modify index fun obj => { obj with syncObj := false }).objPool place).syncObj =
        true ↔ place ≠ index ∧ ∃ held, slots place = .woken held := by
    intro place
    by_cases hplace : place = index
    · subst place
      simp
    · rw [PoolCB.objPool_modify_of_ne hplace, hconsistent.signalled]
      simp [hplace]
  have hbefore : OnlyHolds thread (s.thread thread) index (slots index) := by
    rw [hthread, hslot]
    exact onlyHolds_of_eq (Or.inr rfl) (Or.inr (Or.inr rfl))
  have hspawn := hconsistent.notSpawn thread call index hthread
  simp only [waitForPoolObjResume, hstop, Bool.false_eq_true, if_false]
  obtain ⟨slots', hafter, hmove⟩ := consistent_afterWait hconsistent (Or.inr hslot) hbefore
    hrep hsignalled (by simp [hspawn])
  refine ⟨slots', hafter, hmove.resolve_right ?_⟩
  simp [hspawn]

/-- A release ends the call of the thread and wakes the first pending object
that passes the test. -/
theorem Settled.release (hsettled : Settled isSpawn s slots)
    (hstop : s.stopInProgress = false)
    (hthread : s.thread thread = .active call index) {items : List ℕ}
    (hitems : Linked s.cb.next cfg.maxConcurrentActions s.cb.pendingPoolIdx items)
    {choice : Option ℕ} (hchoice : items.find? (releasesPending cfg s.cb index) = choice) :
    ∃ after, slDrvReleasePoolObj cfg false index s.cb = some (.done, after) ∧
      step isSpawn s (.release thread) = some
        { s with cb := after, thread := Function.update s.thread thread .outside } ∧
      Settled isSpawn
        { s with cb := after, thread := Function.update s.thread thread .outside }
        (finish slots index choice) ∧
      ∀ place, (after.objPool place).syncObj =
        ((s.cb.objPool place).syncObj || choice == some place) := by
  have hactive := (hsettled.agree thread index call).1.mp hthread
  obtain ⟨after, hrelease, hrep, hsignal⟩ :=
    slDrvReleasePoolObj_spec hsettled.represents hsettled.exclusive hactive hitems hchoice
  have hstep : step isSpawn s (.release thread) = some
      { s with cb := after, thread := Function.update s.thread thread .outside } := by
    simp only [step, hthread, hsettled.unlocked, hstop, hrelease]
    rfl
  refine ⟨after, hrelease, hstep, ?_, hsignal⟩
  constructor
  case represents => exact hrep
  case exclusive => exact hsettled.exclusive.finish index choice
  case waiters => exact hsettled.waiters.finish hactive choice
  case agree =>
    apply agree_update (agree_wake hsettled.agree choice)
    · rw [hthread, wake_eq_active_iff.mpr hactive]
      exact onlyHolds_of_eq (Or.inl rfl) (Or.inl rfl)
    · exact onlyHolds_of_free (by simp)
    · simp [Agree]
  case notSpawn => exact notSpawn_update hsettled.notSpawn (by simp)
  case unlocked => exact hsettled.unlocked

theorem Consistent.release (hconsistent : Consistent isSpawn s slots)
    (hstop : s.stopInProgress = false)
    (hthread : s.thread thread = .active call index) {items : List ℕ}
    (hitems : Linked s.cb.next cfg.maxConcurrentActions s.cb.pendingPoolIdx items)
    {choice : Option ℕ} (hchoice : items.find? (releasesPending cfg s.cb index) = choice)
    (hstep : step isSpawn s (.release thread) = some s') :
    Consistent isSpawn s' (finish slots index choice) := by
  have hactive := (hconsistent.agree thread index call).1.mp hthread
  obtain ⟨after, -, hdone, hsettled, hsignal⟩ :=
    hconsistent.toSettled.release hstop hthread hitems hchoice
  rw [hstep, Option.some.injEq] at hdone
  subst hdone
  refine ⟨hsettled, fun place => ?_⟩
  rw [hsignal, Bool.or_eq_true, hconsistent.signalled]
  constructor
  · rintro (⟨held, hheld⟩ | hchosen)
    · exact ⟨held, (finish_eq_woken_iff hactive).mpr (Or.inl hheld)⟩
    · have hchosen : choice = some place := by simpa using hchosen
      rw [hchosen] at hchoice
      obtain ⟨held, hheld⟩ :=
        hconsistent.represents.pending_of_mem hitems (List.mem_of_find?_eq_some hchoice)
      exact ⟨held, (finish_eq_woken_iff hactive).mpr (Or.inr ⟨hchosen, hheld⟩)⟩
  · rintro ⟨held, hheld⟩
    rcases (finish_eq_woken_iff hactive).mp hheld with hheld | ⟨hchosen, -⟩
    · exact Or.inl ⟨held, hheld⟩
    · exact Or.inr (by simp [hchosen])

theorem step_stopInProgress {act : PoolAct cfg T} (hstep : step isSpawn s act = some s') :
    s'.stopInProgress = s.stopInProgress := by
  cases act with
  | enter thread call =>
      obtain ⟨-, -, rfl⟩ := step_enter hstep
      rfl
  | resume thread =>
      obtain ⟨call, index, -, -, -, rfl⟩ := step_resume hstep
      rfl
  | release thread =>
      obtain ⟨call, index, result, -, -, -, rfl⟩ := step_release hstep
      rfl

/-- What every action keeps as long as the device is not stopped. -/
def Running (isSpawn : T → Bool) (s : PoolSys cfg T) : Prop :=
  s.stopInProgress = false ∧ ∃ slots, Consistent isSpawn s slots

omit [DecidableEq T] in
theorem initial_running : Running isSpawn (initial cfg T) :=
  ⟨rfl, _, initial_consistent⟩

theorem Running.step (hrunning : Running isSpawn s) {act : PoolAct cfg T}
    (hstep : step isSpawn s act = some s') : Running isSpawn s' := by
  obtain ⟨hstop, slots, hconsistent⟩ := hrunning
  refine ⟨(step_stopInProgress hstep).trans hstop, ?_⟩
  cases act with
  | enter thread call =>
      obtain ⟨slots', hafter, -⟩ := hconsistent.enter hstep
      exact ⟨slots', hafter⟩
  | resume thread =>
      obtain ⟨slots', hafter, -⟩ := hconsistent.resume hstop hstep
      exact ⟨slots', hafter⟩
  | release thread =>
      obtain ⟨call, index, result, hthread, -⟩ := step_release hstep
      obtain ⟨items, hitems, -⟩ := hconsistent.represents.pending
      exact ⟨_, hconsistent.release hstop hthread hitems rfl hstep⟩

end SimpleLinkHost.PoolSystem
