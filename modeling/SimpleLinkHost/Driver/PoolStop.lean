import Mathlib.Algebra.BigOperators.Group.Finset.Piecewise
import Mathlib.Algebra.Order.BigOperators.Group.Finset
import SimpleLinkHost.Driver.PoolFatalError

/-!
# A device stop and the pool

`_SlDrvReleaseAllActivePendingPoolObj` deletes the sync objects on the free list
and leaves the others to the threads that use them, which test the stop flag
outside the protection lock.  Here each test of the flag and each section under
the lock is a step of its own.
-/

namespace SimpleLinkHost.PoolStop

open Pool PoolSlots PoolRelease IndexList KeyedExclusion Transition

variable {cfg : PoolConfig} {T : Type*}
variable {cb : PoolCB} {slots : ℕ → Slot (T × PoolCall cfg)} {index : ℕ}

section ReleaseAll

variable (cfg)

/-- A loop over an index list that visits each object before it reads the link.
`none` is an endless walk. -/
def walkList (visit : PoolCB → ℕ → PoolCB) : ℕ → ℕ → PoolCB → Option PoolCB
  | 0, index, cb => if index < cfg.maxConcurrentActions then none else some cb
  | fuel + 1, index, cb =>
      if index < cfg.maxConcurrentActions then
        walkList visit fuel ((visit cb index).next index) (visit cb index)
      else some cb

/-- `_SlDrvReleaseAllActivePendingPoolObj` in the build without a trigger-select
handler.  The status it writes into the response buffers of active calls is not
part of the pool. -/
def slDrvReleaseAllActivePendingPoolObj (cb : PoolCB) : Option PoolCB := do
  let cb ← walkList cfg PoolCB.signal cfg.maxConcurrentActions cb.activePoolIdx cb
  let cb ← walkList cfg PoolCB.signal cfg.maxConcurrentActions cb.pendingPoolIdx cb
  walkList cfg PoolCB.deleteSyncObj cfg.maxConcurrentActions cb.freePoolIdx cb

variable {cfg}

/-- A walk that writes no link visits what a walk over the links alone meets. -/
theorem walkList_eq_members {visit : PoolCB → ℕ → PoolCB}
    (hvisit : ∀ cb index, (visit cb index).next = cb.next) (fuel head : ℕ) :
    walkList cfg visit fuel head cb =
      (members? cb.next cfg.maxConcurrentActions fuel head).map fun items =>
        items.foldl visit cb := by
  induction fuel generalizing head cb with
  | zero =>
      rw [walkList, members?]
      split <;> rfl
  | succ fuel ih =>
      rw [walkList, members?]
      split
      · rw [ih, hvisit, Option.map_map]
        rfl
      · rfl

theorem walkList_eq {visit : PoolCB → ℕ → PoolCB}
    (hvisit : ∀ cb index, (visit cb index).next = cb.next) {items : List ℕ} {fuel head : ℕ}
    (hitems : Linked cb.next cfg.maxConcurrentActions head items) (hfuel : items.length ≤ fuel) :
    walkList cfg visit fuel head cb = some (items.foldl visit cb) := by
  rw [walkList_eq_members hvisit, hitems.members?_eq hfuel, Option.map_some]

theorem next_signal (cb : PoolCB) (index : ℕ) : (cb.signal index).next = cb.next :=
  PoolCB.next_modify_of_keep fun _ => rfl

theorem next_deleteSyncObj (cb : PoolCB) (index : ℕ) : (cb.deleteSyncObj index).next = cb.next := by
  change (cb.modify index fun obj =>
    { obj with syncObjDeletes := obj.syncObjDeletes + 1 }).next = cb.next
  exact PoolCB.next_modify_of_keep fun _ => rfl

end ReleaseAll

section Deletes

/-- How often the sync object of one pool object was deleted. -/
def deletes (cb : PoolCB) (index : ℕ) : ℕ := (cb.objPool index).syncObjDeletes

/-- `NumOfDeletedSyncObj` counts the deletions. -/
def DeletesCounted (cfg : PoolConfig) (cb : PoolCB) : Prop :=
  cb.numOfDeletedSyncObj = ∑ index ∈ Finset.range cfg.maxConcurrentActions, deletes cb index

/-- No sync object is deleted. -/
structure SameDeletes (before after : PoolCB) : Prop where
  deletes : deletes after = deletes before
  numOfDeletedSyncObj : after.numOfDeletedSyncObj = before.numOfDeletedSyncObj

theorem SameDeletes.refl : SameDeletes cb cb := ⟨rfl, rfl⟩

theorem SameDeletes.trans {before middle after : PoolCB} (hfirst : SameDeletes before middle)
    (hsecond : SameDeletes middle after) : SameDeletes before after :=
  ⟨hsecond.deletes.trans hfirst.deletes,
    hsecond.numOfDeletedSyncObj.trans hfirst.numOfDeletedSyncObj⟩

theorem SameDeletes.counted {after : PoolCB} (hsame : SameDeletes cb after)
    (hcounted : DeletesCounted cfg cb) : DeletesCounted cfg after := by
  rw [DeletesCounted, hsame.numOfDeletedSyncObj, hsame.deletes]
  exact hcounted

theorem SameDeletes.modify {after : PoolCB} (hsame : SameDeletes cb after)
    {change : PoolObj → PoolObj}
    (hchange : ∀ obj, (change obj).syncObjDeletes = obj.syncObjDeletes) :
    SameDeletes cb (after.modify index change) := by
  constructor
  case deletes =>
    rw [← hsame.deletes]
    funext place
    by_cases hplace : place = index
    · rw [hplace, PoolStop.deletes, PoolCB.objPool_modify_self, hchange]
      rfl
    · rw [PoolStop.deletes, PoolCB.objPool_modify_of_ne hplace]
      rfl
  case numOfDeletedSyncObj => exact hsame.numOfDeletedSyncObj

theorem sameDeletes_of_relinked {after : PoolCB} (hrelinked : Relinked cb after) :
    SameDeletes cb after := by
  constructor
  case deletes =>
    funext place
    rw [deletes, hrelinked.obj]
    rfl
  case numOfDeletedSyncObj => exact hrelinked.numOfDeletedSyncObj

theorem sameDeletes_signalAll (items : List ℕ) :
    SameDeletes cb (items.foldl PoolCB.signal cb) := by
  induction items generalizing cb with
  | nil => exact .refl
  | cons first rest ih =>
      have hfirst : SameDeletes cb (cb.signal first) := by
        exact SameDeletes.refl.modify fun _ => rfl
      exact hfirst.trans ih

theorem sameDeletes_takeFreeObj {call : PoolCall cfg} {taken : PoolCB}
    (htake : takeFreeObj call cb = some (index, taken)) : SameDeletes cb taken := by
  rw [takeFreeObj] at htake
  split at htake
  · simp only [Option.some.injEq, Prod.mk.injEq] at htake
    obtain ⟨-, rfl⟩ := htake
    have hhead : SameDeletes cb
        (if cb.next cb.freePoolIdx < cfg.maxConcurrentActions then
          { cb with freePoolIdx := cb.next cb.freePoolIdx }
        else { cb with freePoolIdx := cfg.maxConcurrentActions }) := by
      split <;> exact ⟨rfl, rfl⟩
    have haction : SameDeletes cb _ :=
      @SameDeletes.modify _ cb.freePoolIdx _ hhead
        (fun obj => { obj with actionID := call.actionID }) fun _ => rfl
    split
    · exact haction.modify fun _ => rfl
    · exact haction
  · cases htake

theorem sameDeletes_waitForPoolObjLoop (isSpawn : Bool) (call : PoolCall cfg) :
    SameDeletes cb (waitForPoolObjLoop isSpawn call index cb).2 := by
  have hmodify : ∀ change : PoolObj → PoolObj,
      (∀ obj, (change obj).syncObjDeletes = obj.syncObjDeletes) →
        SameDeletes cb (cb.modify index change) := fun _ => SameDeletes.refl.modify
  rw [waitForPoolObjLoop]
  split
  · split
    · have hsame := hmodify (fun obj =>
        { obj with actionID := 0, additionalData := cfg.slMaxSockets }) fun _ => rfl
      exact ⟨hsame.deletes, hsame.numOfDeletedSyncObj⟩
    · have hsame := hmodify (fun obj => { obj with nextIndex := cb.pendingPoolIdx }) fun _ => rfl
      exact ⟨hsame.deletes, hsame.numOfDeletedSyncObj⟩
  · have hsame := hmodify (fun obj => { obj with nextIndex := cb.activePoolIdx }) fun _ => rfl
    exact ⟨hsame.deletes, hsame.numOfDeletedSyncObj⟩

theorem sameDeletes_slDrvReleasePoolObj {result : ReleaseExit × PoolCB}
    (hrelease : slDrvReleasePoolObj cfg false index cb = some result) :
    SameDeletes cb result.2 := by
  simp only [slDrvReleasePoolObj, Bool.false_eq_true, if_false, Option.bind_eq_bind,
    Option.bind_eq_some_iff] at hrelease
  obtain ⟨woken, hwoken, hrest⟩ := hrelease
  have hwake := sameDeletes_of_relinked (relinked_releasePending hwoken)
  split at hrest
  · cases hrest
    exact hwake
  · rw [Option.bind_eq_some_iff] at hrest
    obtain ⟨after, hmove, hresult⟩ := hrest
    cases hresult
    rw [moveToFree, Option.bind_eq_bind, Option.bind_eq_some_iff] at hmove
    obtain ⟨⟨head, unlinked⟩, hremove, hafter⟩ := hmove
    cases hafter
    have hclear : SameDeletes woken (clearCall cfg index woken) := by
      have hsame : SameDeletes woken (woken.modify index fun obj =>
          { obj with pRespArgs := none, actionID := 0, additionalData := cfg.slMaxSockets }) :=
        SameDeletes.refl.modify fun _ => rfl
      exact ⟨hsame.deletes, hsame.numOfDeletedSyncObj⟩
    have hunlinked := sameDeletes_of_relinked (relinked_removeFromList hremove)
    have hpush : SameDeletes unlinked (unlinked.modify index fun obj =>
        { obj with nextIndex := unlinked.freePoolIdx }) := SameDeletes.refl.modify fun _ => rfl
    have hall := ((hwake.trans hclear).trans hunlinked).trans hpush
    exact ⟨hall.deletes, hall.numOfDeletedSyncObj⟩

theorem deletes_deleteSyncObj (cb : PoolCB) (index : ℕ) :
    deletes (cb.deleteSyncObj index) =
      Function.update (deletes cb) index (deletes cb index + 1) := by
  funext place
  by_cases hplace : place = index
  · rw [hplace, Function.update_self]
    simp [deletes, PoolCB.deleteSyncObj]
  · rw [Function.update_of_ne hplace]
    simp [deletes, PoolCB.deleteSyncObj, PoolCB.objPool_modify_of_ne hplace]

theorem counted_deleteSyncObj (hcounted : DeletesCounted cfg cb)
    (hlt : index < cfg.maxConcurrentActions) : DeletesCounted cfg (cb.deleteSyncObj index) := by
  have hmem : index ∈ Finset.range cfg.maxConcurrentActions := Finset.mem_range.mpr hlt
  have hsum := Finset.add_sum_erase _ (deletes cb) hmem
  have hrest := Finset.sum_update_of_mem hmem (deletes cb) (deletes cb index + 1)
  rw [← Finset.erase_eq] at hrest
  rw [DeletesCounted, deletes_deleteSyncObj, hrest]
  change cb.numOfDeletedSyncObj + 1 = _
  rw [hcounted, ← hsum]
  omega

theorem counted_deleteAll {items : List ℕ} (hcounted : DeletesCounted cfg cb)
    (hitems : ∀ item ∈ items, item < cfg.maxConcurrentActions) :
    DeletesCounted cfg (items.foldl PoolCB.deleteSyncObj cb) := by
  induction items generalizing cb with
  | nil => exact hcounted
  | cons first rest ih =>
      apply ih
      · exact counted_deleteSyncObj hcounted (hitems first (List.mem_cons_self ..))
      · exact fun item hitem => hitems item (List.mem_cons_of_mem _ hitem)

theorem deletes_deleteAll {items : List ℕ} (hnodup : items.Nodup) (place : ℕ) :
    deletes (items.foldl PoolCB.deleteSyncObj cb) place =
      deletes cb place + if place ∈ items then 1 else 0 := by
  induction items generalizing cb with
  | nil => simp
  | cons first rest ih =>
      obtain ⟨hfirst, hrest⟩ := List.nodup_cons.mp hnodup
      rw [List.foldl_cons, ih hrest, deletes_deleteSyncObj]
      by_cases hplace : place = first
      · subst place
        simp [hfirst]
      · simp [hplace]

end Deletes

/-- What the release of all objects does to the sync objects: those on the active
and the pending list are signalled, those on the free list are deleted. -/
structure ReleasedAll (cb : PoolCB) (slots : ℕ → Slot (T × PoolCall cfg)) (after : PoolCB) :
    Prop where
  represents : Represents after slots
  counted : DeletesCounted cfg cb → DeletesCounted cfg after
  deletes_free : ∀ index < cfg.maxConcurrentActions, slots index = .free →
    deletes after index = deletes cb index + 1
  deletes_used : ∀ index, slots index ≠ .free → deletes after index = deletes cb index
  signals_pending : ∀ index held, slots index = .pending held →
    (after.objPool index).syncObj = true
  signals_woken : ∀ index held, slots index = .woken held →
    (after.objPool index).syncObj = (cb.objPool index).syncObj

theorem represents_deleteAll (hrep : Represents cb slots) (items : List ℕ) :
    Represents (items.foldl PoolCB.deleteSyncObj cb) slots := by
  induction items generalizing cb with
  | nil => exact hrep
  | cons first rest ih => exact ih (PoolFatalError.represents_deleteSyncObj hrep first)

theorem syncObj_deleteAll (items : List ℕ) (place : ℕ) :
    ((items.foldl PoolCB.deleteSyncObj cb).objPool place).syncObj =
      (cb.objPool place).syncObj := by
  induction items generalizing cb with
  | nil => rfl
  | cons first rest ih => exact ih.trans (PoolFatalError.syncObj_deleteSyncObj cb first place)

theorem lists_signalAll (items : List ℕ) :
    (items.foldl PoolCB.signal cb).next = cb.next ∧
      (items.foldl PoolCB.signal cb).pendingPoolIdx = cb.pendingPoolIdx ∧
      (items.foldl PoolCB.signal cb).freePoolIdx = cb.freePoolIdx := by
  induction items generalizing cb with
  | nil => exact ⟨rfl, rfl, rfl⟩
  | cons first rest ih =>
      obtain ⟨hnext, hpending, hfree⟩ := @ih (cb.signal first)
      exact ⟨hnext.trans (next_signal cb first), hpending, hfree⟩

/-- None of the three walks is endless. -/
theorem slDrvReleaseAllActivePendingPoolObj_spec (hrep : Represents cb slots) :
    ∃ after, slDrvReleaseAllActivePendingPoolObj cfg cb = some after ∧
      ReleasedAll cb slots after := by
  obtain ⟨active, hactive, hactiveMem⟩ := hrep.active
  obtain ⟨pending, hpending, hpendingMem⟩ := hrep.pending
  obtain ⟨free, hfree, hfreeMem⟩ := hrep.free
  let first := active.foldl PoolCB.signal cb
  let second := pending.foldl PoolCB.signal first
  let third := free.foldl PoolCB.deleteSyncObj second
  obtain ⟨hnextFirst, hpendingIdx, hfreeIdx⟩ := @lists_signalAll cb active
  obtain ⟨hnextSecond, -, hfreeIdx'⟩ := @lists_signalAll first pending
  have hpending' : Linked first.next cfg.maxConcurrentActions first.pendingPoolIdx pending := by
    rwa [hnextFirst, hpendingIdx]
  have hfree' : Linked second.next cfg.maxConcurrentActions second.freePoolIdx free := by
    rwa [hnextSecond, hnextFirst, hfreeIdx', hfreeIdx]
  have hresult : slDrvReleaseAllActivePendingPoolObj cfg cb = some third := by
    rw [slDrvReleaseAllActivePendingPoolObj, walkList_eq next_signal hactive hactive.length_le]
    change (walkList cfg PoolCB.signal cfg.maxConcurrentActions first.pendingPoolIdx first).bind _
      = _
    rw [walkList_eq next_signal hpending' hpending'.length_le]
    exact walkList_eq next_deleteSyncObj hfree' hfree'.length_le
  have hsame : SameDeletes cb second :=
    (sameDeletes_signalAll active).trans (sameDeletes_signalAll pending)
  have hsecond : Represents second slots :=
    PoolFatalError.represents_signalAll (PoolFatalError.represents_signalAll hrep active) pending
  have hsignals : ∀ place, (third.objPool place).syncObj =
      (decide (place ∈ pending) || (decide (place ∈ active) || (cb.objPool place).syncObj)) := by
    intro place
    rw [syncObj_deleteAll, PoolFatalError.syncObj_signalAll, PoolFatalError.syncObj_signalAll]
  have hdeletes : ∀ place,
      deletes third place = deletes cb place + if place ∈ free then 1 else 0 := by
    intro place
    rw [deletes_deleteAll hfree.nodup, hsame.deletes]
  refine ⟨third, hresult, ?_⟩
  constructor
  case represents => exact represents_deleteAll hsecond free
  case counted => exact fun hcounted => counted_deleteAll (hsame.counted hcounted) hfree.lt
  case deletes_free =>
    intro index hlt hslot
    rw [hdeletes, if_pos ((hfreeMem index).mpr ⟨hlt, hslot⟩)]
  case deletes_used =>
    intro index hslot
    rw [hdeletes, if_neg fun hmem => hslot ((hfreeMem index).mp hmem).2, Nat.add_zero]
  case signals_pending =>
    intro index held hslot
    rw [hsignals]
    simp [(hpendingMem index).mpr ⟨held, hslot⟩]
  case signals_woken =>
    intro index held hslot
    have hnotActive : index ∉ active := by
      intro hmem
      obtain ⟨other, hother⟩ := (hactiveMem index).mp hmem
      simp [hslot] at hother
    have hnotPending : index ∉ pending := by
      intro hmem
      obtain ⟨other, hother⟩ := (hpendingMem index).mp hmem
      simp [hslot] at hother
    rw [hsignals]
    simp [hnotActive, hnotPending]

section System

/-- Where a thread is with respect to the pool. -/
inductive StopThread (cfg : PoolConfig)
  | outside
  /-- `_SlDrvWaitForPoolObj` returned an error. -/
  | failed (error : PoolError)
  /-- In `_SlDrvSyncObjWaitForever` on the sync object of `objIdx`. -/
  | blocked (call : PoolCall cfg) (objIdx : ℕ)
  /-- Behind the wait; no stop was in progress when it looked. -/
  | resuming (call : PoolCall cfg) (objIdx : ℕ)
  /-- `_SlDrvWaitForPoolObj` returned `objIdx`. -/
  | active (call : PoolCall cfg) (objIdx : ℕ)
  /-- In `_SlDrvReleasePoolObj`; no stop was in progress when it looked. -/
  | releasing (call : PoolCall cfg) (objIdx : ℕ)
  /-- About to delete the sync object, because it saw the stop in
  `_SlDrvWaitForPoolObj` or in `_SlDrvReleasePoolObj`. -/
  | deleting (objIdx : ℕ) (fromWait : Bool)
deriving DecidableEq

/-- The pool object that a thread uses. -/
def StopThread.objIdx : StopThread cfg → Option ℕ
  | .outside | .failed _ => none
  | .blocked _ objIdx | .resuming _ objIdx | .active _ objIdx | .releasing _ objIdx
  | .deleting objIdx _ => some objIdx

structure StopSys (cfg : PoolConfig) (T : Type*) where
  cb : PoolCB
  thread : T → StopThread cfg
  stopInProgress : Bool
  releasedAll : Bool
  /-- The protection lock was left taken by a thread that has returned. -/
  protectionLocked : Bool

/-- The tests of the stop flag and the sections under the protection lock. -/
inductive StopAct (cfg : PoolConfig) (T : Type*)
  /-- `_SlDrvWaitForPoolObj` up to its return or its wait. -/
  | enter (thread : T) (call : PoolCall cfg)
  /-- The end of the wait and the test of the flag behind it. -/
  | wake (thread : T)
  /-- `_SlDrvWaitForPoolObj` from the lock behind the wait on. -/
  | resume (thread : T)
  /-- The test of the flag at the start of `_SlDrvReleasePoolObj`. -/
  | beginRelease (thread : T)
  /-- `_SlDrvReleasePoolObj` from its lock on. -/
  | release (thread : T)
  /-- The deletion behind either test. -/
  | delete (thread : T)
  | setStop
  | releaseAll

/-- The driver after `_SlDrvDriverCBInit`, with no call under way. -/
def initial (cfg : PoolConfig) (T : Type*) : StopSys cfg T where
  cb := slDrvDriverCBInit cfg
  thread _ := .outside
  stopInProgress := false
  releasedAll := false
  protectionLocked := false

/-- The thread's state after a section of `_SlDrvWaitForPoolObj`. -/
def waitState (call : PoolCall cfg) : PoolWait → StopThread cfg
  | .obj objIdx => .active call objIdx
  | .wait objIdx => .blocked call objIdx
  | .error error => .failed error

/-- The thread's state after it deleted its sync object. -/
def deletedState : Bool → StopThread cfg
  | true => .failed .stopInProgress
  | false => .outside

variable [DecidableEq T]

namespace StopSys

/-- One thread moves on and leaves a new control block. -/
def advance (s : StopSys cfg T) (thread : T) (state : StopThread cfg) (cb : PoolCB) :
    StopSys cfg T :=
  { s with cb := cb, thread := Function.update s.thread thread state }

end StopSys

def step (isSpawn : T → Bool) (s : StopSys cfg T) : StopAct cfg T → Option (StopSys cfg T)
  | .enter thread call =>
      match s.thread thread with
      | .outside | .failed _ =>
          if s.protectionLocked then none
          else
            let result := slDrvWaitForPoolObj (isSpawn thread) call s.cb
            some (s.advance thread (waitState call result.1) result.2)
      | _ => none
  | .wake thread =>
      match s.thread thread with
      | .blocked call objIdx =>
          if (s.cb.objPool objIdx).syncObj then
            let cb := s.cb.modify objIdx fun obj => { obj with syncObj := false }
            some (s.advance thread
              (if s.stopInProgress then .deleting objIdx true else .resuming call objIdx) cb)
          else none
      | _ => none
  | .resume thread =>
      match s.thread thread with
      | .resuming call objIdx =>
          if s.protectionLocked then none
          else
            let result := waitForPoolObjLoop (isSpawn thread) call objIdx s.cb
            some (s.advance thread (waitState call result.1) result.2)
      | _ => none
  | .beginRelease thread =>
      match s.thread thread with
      | .active call objIdx =>
          some (s.advance thread
            (if s.stopInProgress then .deleting objIdx false else .releasing call objIdx) s.cb)
      | _ => none
  | .release thread =>
      match s.thread thread with
      | .releasing _ objIdx =>
          if s.protectionLocked then none
          else (slDrvReleasePoolObj cfg false objIdx s.cb).map fun result =>
            { s.advance thread .outside result.2 with protectionLocked := result.1 == .bitOff }
      | _ => none
  | .delete thread =>
      match s.thread thread with
      | .deleting objIdx fromWait =>
          if s.protectionLocked then none
          else some (s.advance thread (deletedState fromWait) (s.cb.deleteSyncObj objIdx))
      | _ => none
  | .setStop => if s.stopInProgress then none else some { s with stopInProgress := true }
  | .releaseAll =>
      if s.stopInProgress && !s.releasedAll && !s.protectionLocked then
        (slDrvReleaseAllActivePendingPoolObj cfg s.cb).map fun cb =>
          { s with cb := cb, releasedAll := true }
      else none

section Steps

variable {isSpawn : T → Bool} {s s' : StopSys cfg T} {thread : T} {call : PoolCall cfg}

theorem step_enter (hstep : step isSpawn s (.enter thread call) = some s') :
    (s.thread thread).objIdx = none ∧
      s' = s.advance thread (waitState call (slDrvWaitForPoolObj (isSpawn thread) call s.cb).1)
        (slDrvWaitForPoolObj (isSpawn thread) call s.cb).2 := by
  rw [step] at hstep
  cases hthread : s.thread thread <;> simp_all [StopThread.objIdx]

theorem step_wake (hstep : step isSpawn s (.wake thread) = some s') :
    ∃ call index, s.thread thread = .blocked call index ∧
      (s.cb.objPool index).syncObj = true ∧
      s' = s.advance thread
        (if s.stopInProgress then .deleting index true else .resuming call index)
        (s.cb.modify index fun obj => { obj with syncObj := false }) := by
  rw [step] at hstep
  split at hstep
  · rename_i call index hthread
    rw [Option.ite_none_right_eq_some, Option.some.injEq] at hstep
    exact ⟨call, index, hthread, hstep.1, hstep.2.symm⟩
  · cases hstep

theorem step_resume (hstep : step isSpawn s (.resume thread) = some s') :
    ∃ call index, s.thread thread = .resuming call index ∧
      s' = s.advance thread
        (waitState call (waitForPoolObjLoop (isSpawn thread) call index s.cb).1)
        (waitForPoolObjLoop (isSpawn thread) call index s.cb).2 := by
  rw [step] at hstep
  split at hstep
  · rename_i call index hthread
    rw [Option.ite_none_left_eq_some, Option.some.injEq] at hstep
    exact ⟨call, index, hthread, hstep.2.symm⟩
  · cases hstep

theorem step_beginRelease (hstep : step isSpawn s (.beginRelease thread) = some s') :
    ∃ call index, s.thread thread = .active call index ∧
      s' = s.advance thread
        (if s.stopInProgress then .deleting index false else .releasing call index) s.cb := by
  rw [step] at hstep
  split at hstep
  · rename_i call index hthread
    rw [Option.some.injEq] at hstep
    exact ⟨call, index, hthread, hstep.symm⟩
  · cases hstep

theorem step_release (hstep : step isSpawn s (.release thread) = some s') :
    ∃ call index result, s.thread thread = .releasing call index ∧
      slDrvReleasePoolObj cfg false index s.cb = some result ∧
      s' = { s.advance thread .outside result.2 with
        protectionLocked := result.1 == .bitOff } := by
  rw [step] at hstep
  split at hstep
  · rename_i call index hthread
    rw [Option.ite_none_left_eq_some, Option.map_eq_some_iff] at hstep
    obtain ⟨-, result, hrelease, hresult⟩ := hstep
    exact ⟨call, index, result, hthread, hrelease, hresult.symm⟩
  · cases hstep

theorem step_delete (hstep : step isSpawn s (.delete thread) = some s') :
    ∃ index fromWait, s.thread thread = .deleting index fromWait ∧
      s' = s.advance thread (deletedState fromWait) (s.cb.deleteSyncObj index) := by
  rw [step] at hstep
  split at hstep
  · rename_i index fromWait hthread
    rw [Option.ite_none_left_eq_some, Option.some.injEq] at hstep
    exact ⟨index, fromWait, hthread, hstep.2.symm⟩
  · cases hstep

theorem step_setStop (hstep : step isSpawn s .setStop = some s') :
    s.stopInProgress = false ∧ s' = { s with stopInProgress := true } := by
  rw [step, Option.ite_none_left_eq_some, Option.some.injEq] at hstep
  exact ⟨Bool.eq_false_of_not_eq_true hstep.1, hstep.2.symm⟩

theorem step_releaseAll (hstep : step isSpawn s .releaseAll = some s') :
    s.stopInProgress = true ∧ s.releasedAll = false ∧ s.protectionLocked = false ∧
      ∃ cb, slDrvReleaseAllActivePendingPoolObj cfg s.cb = some cb ∧
        s' = { s with cb := cb, releasedAll := true } := by
  simp only [step, Option.ite_none_right_eq_some, Option.map_eq_some_iff, Bool.and_eq_true,
    Bool.not_eq_true'] at hstep
  obtain ⟨⟨⟨hstop, hreleased⟩, hunlocked⟩, cb, hcb, hresult⟩ := hstep
  exact ⟨hstop, hreleased, hunlocked, cb, hcb, hresult.symm⟩

end Steps

end System

section Tracks

/-- The slot belongs to a call of the thread. -/
def HeldBy (thread : T) (slot : Slot (T × PoolCall cfg)) : Prop :=
  ∃ call, slot = .pending (thread, call) ∨ slot = .woken (thread, call) ∨
    slot = .active (thread, call)

/-- The slot of a pool object fits the thread that uses it.  Once the thread saw
the stop, its object stays on the list where it was. -/
def FitsSlot (thread : T) : StopThread cfg → Slot (T × PoolCall cfg) → Prop
  | .outside, _ | .failed _, _ => True
  | .blocked call _, slot => slot = .pending (thread, call) ∨ slot = .woken (thread, call)
  | .resuming call _, slot => slot = .woken (thread, call)
  | .active call _, slot | .releasing call _, slot => slot = .active (thread, call)
  | .deleting _ _, slot => HeldBy thread slot

/-- What holds of one pool object.  Before the release of all objects, only woken
waiters find their sync object signalled; afterwards all waiters do. -/
structure ObjectTracks (releasedAll : Bool) (threads : T → StopThread cfg) (index : ℕ)
    (slot : Slot (T × PoolCall cfg)) (obj : PoolObj) : Prop where
  fits : ∀ thread, (threads thread).objIdx = some index → FitsSlot thread (threads thread) slot
  fresh : ∀ thread, (threads thread).objIdx = some index → obj.syncObjDeletes = 0
  free : index < cfg.maxConcurrentActions → slot = .free →
    obj.syncObjDeletes = if releasedAll then 1 else 0
  left : slot ≠ .free → (∀ thread, (threads thread).objIdx ≠ some index) →
    obj.syncObjDeletes = 1
  onlyWoken : releasedAll = false → obj.syncObj = true → ∃ held, slot = .woken held
  consumed : ∀ thread call, threads thread = .resuming call index → obj.syncObj = false
  signalled : ∀ thread call, threads thread = .blocked call index →
    releasedAll = true ∨ slot = .woken (thread, call) → obj.syncObj = true

/-- The pool, its threads and the deletions fit together. -/
structure Tracks (isSpawn : T → Bool) (s : StopSys cfg T)
    (slots : ℕ → Slot (T × PoolCall cfg)) : Prop where
  represents : Represents s.cb slots
  exclusive : Exclusive slotKey (Shared cfg) slots
  unlocked : s.protectionLocked = false
  counted : DeletesCounted cfg s.cb
  stopped : s.releasedAll = true → s.stopInProgress = true
  notSpawn : ∀ thread call index,
    s.thread thread = .blocked call index ∨ s.thread thread = .resuming call index →
      isSpawn thread = false
  object : ∀ index, ObjectTracks s.releasedAll s.thread index (slots index) (s.cb.objPool index)

variable {thread other : T} {state : StopThread cfg} {slot : Slot (T × PoolCall cfg)}
variable {threads : T → StopThread cfg} {releasedAll : Bool} {obj obj' : PoolObj}

theorem HeldBy.unique (hleft : HeldBy thread slot) (hright : HeldBy other slot) :
    other = thread := by
  obtain ⟨call, rfl | rfl | rfl⟩ := hleft <;> simpa [HeldBy, eq_comm] using hright

theorem HeldBy.not_free (hheld : HeldBy thread slot) : slot ≠ .free := by
  obtain ⟨call, rfl | rfl | rfl⟩ := hheld <;> simp

theorem FitsSlot.heldBy (hfits : FitsSlot thread state slot) (hobj : state.objIdx = some index) :
    HeldBy thread slot := by
  cases state with
  | outside => cases hobj
  | failed error => cases hobj
  | blocked call place => exact ⟨call, hfits.imp_right Or.inl⟩
  | resuming call place => exact ⟨call, .inr (.inl hfits)⟩
  | active call place => exact ⟨call, .inr (.inr hfits)⟩
  | releasing call place => exact ⟨call, .inr (.inr hfits)⟩
  | deleting place fromWait => exact hfits

namespace ObjectTracks

theorem nobody_of_free (hobject : ObjectTracks releasedAll threads index slot obj)
    (hslot : slot = .free) : ∀ thread, (threads thread).objIdx ≠ some index :=
  fun thread hthread => ((hobject.fits thread hthread).heldBy hthread).not_free hslot

theorem others_of_heldBy (hobject : ObjectTracks releasedAll threads index slot obj)
    (hheld : HeldBy thread slot) : ∀ other, other ≠ thread → (threads other).objIdx ≠ some index :=
  fun other hne hother => hne (hheld.unique ((hobject.fits other hother).heldBy hother))

variable [DecidableEq T]

/-- A thread that uses the object neither before nor after its step. -/
theorem frame (hobject : ObjectTracks releasedAll threads index slot obj)
    (hbefore : (threads thread).objIdx ≠ some index) (hafter : state.objIdx ≠ some index)
    (hsyncObj : obj'.syncObj = obj.syncObj) (hdeletes : obj'.syncObjDeletes = obj.syncObjDeletes) :
    ObjectTracks releasedAll (Function.update threads thread state) index slot obj' := by
  have huser : ∀ other, (Function.update threads thread state other).objIdx = some index →
      Function.update threads thread state other = threads other := by
    intro other hother
    apply Function.update_of_ne
    intro heq
    rw [heq, Function.update_self] at hother
    exact hafter hother
  have hback : ∀ other, (threads other).objIdx = some index →
      Function.update threads thread state other = threads other := by
    intro other hother
    apply Function.update_of_ne
    intro heq
    exact hbefore (heq ▸ hother)
  constructor
  case fits =>
    intro other hother
    have hsame := huser other hother
    rw [hsame] at hother ⊢
    exact hobject.fits other hother
  case fresh =>
    intro other hother
    rw [huser other hother] at hother
    rw [hdeletes]
    exact hobject.fresh other hother
  case free =>
    rw [hdeletes]
    exact hobject.free
  case left =>
    intro hslot hnobody
    rw [hdeletes]
    apply hobject.left hslot
    intro other hother
    apply hnobody other
    rw [hback other hother]
    exact hother
  case onlyWoken =>
    rw [hsyncObj]
    exact hobject.onlyWoken
  case consumed =>
    intro other call hother
    rw [huser other (by rw [hother]; rfl)] at hother
    rw [hsyncObj]
    exact hobject.consumed other call hother
  case signalled =>
    intro other call hother
    rw [huser other (by rw [hother]; rfl)] at hother
    rw [hsyncObj]
    exact hobject.signalled other call hother

/-- The object of a thread that goes on with it. -/
theorem keep (hothers : ∀ other, other ≠ thread → (threads other).objIdx ≠ some index)
    (hstate : state.objIdx = some index) (hfits : FitsSlot thread state slot)
    (hdeletes : obj.syncObjDeletes = 0)
    (honlyWoken : releasedAll = false → obj.syncObj = true → ∃ held, slot = .woken held)
    (hconsumed : ∀ call, state = .resuming call index → obj.syncObj = false)
    (hsignalled : ∀ call, state = .blocked call index →
      releasedAll = true ∨ slot = .woken (thread, call) → obj.syncObj = true) :
    ObjectTracks releasedAll (Function.update threads thread state) index slot obj := by
  have honly : ∀ other, (Function.update threads thread state other).objIdx = some index →
      other = thread := by
    intro other hother
    by_contra hne
    rw [Function.update_of_ne hne] at hother
    exact hothers other hne hother
  constructor
  case fits =>
    intro other hother
    rw [honly other hother, Function.update_self]
    exact hfits
  case fresh => exact fun _ _ => hdeletes
  case free => exact fun _ hslot => absurd hslot (hfits.heldBy hstate).not_free
  case left =>
    intro _ hnobody
    have hself := hnobody thread
    rw [Function.update_self] at hself
    exact absurd hstate hself
  case onlyWoken => exact honlyWoken
  case consumed =>
    intro other call hother
    have heq := honly other (by rw [hother]; rfl)
    rw [heq, Function.update_self] at hother
    exact hconsumed call hother
  case signalled =>
    intro other call hother
    have heq := honly other (by rw [hother]; rfl)
    rw [heq, Function.update_self] at hother
    rw [heq]
    exact hsignalled call hother

/-- The object of a thread that leaves it. -/
theorem leave (hothers : ∀ other, other ≠ thread → (threads other).objIdx ≠ some index)
    (hstate : state.objIdx = none)
    (hfree : slot = .free → obj.syncObjDeletes = if releasedAll then 1 else 0)
    (hleft : slot ≠ .free → obj.syncObjDeletes = 1)
    (honlyWoken : releasedAll = false → obj.syncObj = true → ∃ held, slot = .woken held) :
    ObjectTracks releasedAll (Function.update threads thread state) index slot obj := by
  have hnobody : ∀ other, (Function.update threads thread state other).objIdx ≠ some index := by
    intro other
    by_cases hother : other = thread
    · rw [hother, Function.update_self, hstate]
      simp
    · rw [Function.update_of_ne hother]
      exact hothers other hother
  constructor
  case fits => exact fun other hother => absurd hother (hnobody other)
  case fresh => exact fun other hother => absurd hother (hnobody other)
  case free => exact fun _ => hfree
  case left => exact fun hslot _ => hleft hslot
  case onlyWoken => exact honlyWoken
  case consumed =>
    intro other call hother
    exact absurd (by rw [hother]; rfl) (hnobody other)
  case signalled =>
    intro other call hother
    exact absurd (by rw [hother]; rfl) (hnobody other)

omit [DecidableEq T] in
/-- A release takes the object of a waiter from the pending list and signals it. -/
theorem woken {held : T × PoolCall cfg}
    (hobject : ObjectTracks releasedAll threads index (.pending held) obj)
    (hsyncObj : obj'.syncObj = true) (hdeletes : obj'.syncObjDeletes = obj.syncObjDeletes) :
    ObjectTracks releasedAll threads index (.woken held) obj' := by
  constructor
  case fits =>
    intro other hother
    have hfits := hobject.fits other hother
    cases hthread : threads other with
    | outside => trivial
    | failed error => trivial
    | blocked call place =>
        rw [hthread] at hfits
        simp only [FitsSlot, Slot.pending.injEq, reduceCtorEq, or_false] at hfits
        exact .inr (congrArg _ hfits)
    | resuming call place =>
        rw [hthread] at hfits
        simp [FitsSlot] at hfits
    | active call place =>
        rw [hthread] at hfits
        simp [FitsSlot] at hfits
    | releasing call place =>
        rw [hthread] at hfits
        simp [FitsSlot] at hfits
    | deleting place fromWait =>
        rw [hthread] at hfits
        simp only [FitsSlot, HeldBy, Slot.pending.injEq, reduceCtorEq, or_false] at hfits
        obtain ⟨call, hcall⟩ := hfits
        exact ⟨call, .inr (.inl (congrArg _ hcall))⟩
  case fresh =>
    intro other hother
    rw [hdeletes]
    exact hobject.fresh other hother
  case free => simp
  case left =>
    intro _ hnobody
    rw [hdeletes]
    exact hobject.left (by simp) hnobody
  case onlyWoken => exact fun _ _ => ⟨held, rfl⟩
  case consumed =>
    intro other call hother
    have hfits := hobject.fits other (by rw [hother]; rfl)
    rw [hother] at hfits
    simp [FitsSlot] at hfits
  case signalled => exact fun _ _ _ _ => hsyncObj

end ObjectTracks

end Tracks

end SimpleLinkHost.PoolStop
