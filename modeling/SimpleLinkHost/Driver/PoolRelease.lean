import SimpleLinkHost.Driver.PoolSlots

/-!
# Releasing a pool object

`_SlDrvReleasePoolObj` on the slots that a control block stands for: it wakes
the first pending call that passes its test, and the released object becomes
free.  Its two early returns need a bit that is off, which the slots of active
calls exclude.
-/

namespace SimpleLinkHost.PoolRelease

open Pool PoolSlots IndexList KeyedExclusion

variable {cfg : PoolConfig} {T : Type*}
variable {cb : PoolCB} {slots : ℕ → Slot (T × PoolCall cfg)} {index other : ℕ}
variable {thread waiter : T} {call waiting : PoolCall cfg}

/-- The wake test of `_SlDrvReleasePoolObj` in terms of the two calls. -/
def Releases (released waiting : PoolCall cfg) : Prop :=
  waiting.actionID = released.actionID ∧
    (cfg.slMaxSockets = waiting.socketID ∨
      (released.socketID < cfg.slMaxSockets ∧ waiting.socketID = released.socketID))

theorem releasesPending_iff (hrep : Represents cb slots)
    (hactive : slots index = .active (thread, call))
    (hpending : slots other = .pending (waiter, waiting)) :
    releasesPending cfg cb index other = true ↔ Releases call waiting := by
  have hheld := hrep.holds index
  have hwaiting := hrep.holds other
  rw [hactive] at hheld
  rw [hpending] at hwaiting
  simp only [releasesPending, hheld.1, hheld.2, hwaiting.1, hwaiting.2,
    cfg.and_socketIdMask _ call.socketID_le, cfg.and_socketIdMask _ waiting.socketID_le,
    Bool.and_eq_true, Bool.or_eq_true, beq_iff_eq, decide_eq_true_eq, Releases]

theorem releasedBit_eq (hrep : Represents cb slots)
    (hactive : slots index = .active (thread, call)) :
    releasedBit cfg cb index = call.key := by
  have hheld := hrep.holds index
  rw [hactive] at hheld
  simp only [releasedBit, PoolCall.key, hheld.1, hheld.2,
    cfg.and_socketIdMask _ call.socketID_le]

/-- The bit of an active call is set, or the call is one of several SELECTs, so
neither early return is taken. -/
theorem releaseBitOff_eq_false (hrep : Represents cb slots)
    (hactive : slots index = .active (thread, call)) :
    releaseBitOff cfg cb index = false := by
  have hheld := hrep.holds index
  rw [hactive] at hheld
  have hkey := releasedBit_eq hrep hactive
  by_cases hshared : Shared cfg call.key
  · have hselect := hshared.2
    have hge := cfg.selectId_ge
    have hnoSocket : ¬ call.socketID < cfg.slMaxSockets := by
      intro hsocket
      rw [PoolCall.key, if_pos hsocket] at hselect
      omega
    have hsame : cfg.selectId = call.actionID := by
      rw [PoolCall.key, if_neg hnoSocket] at hselect
      exact hselect.symm
    simp [releaseBitOff, hheld.1, hheld.2, cfg.and_socketIdMask _ call.socketID_le,
      hnoSocket, hsame]
  · have hbusy : Busy slotKey slots call.key := ⟨index, _, hactive, rfl⟩
    have hset := hrep.bit_of_busy _ hshared hbusy
    rw [← and_twoPow_bne_zero _ call.key_lt] at hset
    rw [releaseBitOff]
    rw [hkey]
    have hclear : (cb.activeActionsBitmap &&& BitVec.twoPow 32 call.key == 0) = false := by
      simpa using hset
    rw [hclear, Bool.false_and]

/-- The bits after the bit of an active call was cleared. -/
theorem getLsbD_clear (bitmap : BitVec 32) {cleared bit : ℕ} (hcleared : cleared < 32) :
    (bitmap &&& ~~~ BitVec.twoPow 32 cleared).getLsbD bit = true ↔
      bitmap.getLsbD bit = true ∧ cleared ≠ bit := by
  by_cases hbit : bit < 32
  · simp only [BitVec.getLsbD_and, BitVec.getLsbD_not, BitVec.getLsbD_twoPow, hbit, hcleared,
      decide_true, Bool.true_and, Bool.and_eq_true, Bool.not_eq_true', decide_eq_false_iff_not]
  · simp [BitVec.getLsbD_of_ge _ _ (Nat.le_of_not_lt hbit)]

/-- The wake loop ends; it unlinks and signals the first pending object that
passes the test. -/
theorem releasePending_spec (hrep : Represents cb slots) {items : List ℕ}
    (hitems : Linked cb.next cfg.maxConcurrentActions cb.pendingPoolIdx items)
    {choice : Option ℕ} (hchoice : items.find? (releasesPending cfg cb index) = choice) :
    ∃ after, releasePending cfg index cb = some after ∧
      Represents after (wake slots choice) ∧
      ∀ place, (after.objPool place).syncObj =
        ((cb.objPool place).syncObj || choice == some place) := by
  have hwalk : find? cb.next cfg.maxConcurrentActions (releasesPending cfg cb index)
      cfg.maxConcurrentActions cb.pendingPoolIdx = some choice := by
    rw [hitems.find?_eq hitems.length_le, hchoice]
  cases choice with
  | none =>
      have hsame : releasePending cfg index cb = some cb := by
        simp [releasePending, hwalk]
      exact ⟨cb, hsame, hrep, fun place => by simp⟩
  | some chosen =>
      obtain ⟨held, hheld⟩ := hrep.pending_of_mem hitems (List.mem_of_find?_eq_some hchoice)
      obtain ⟨head, links, hremove, hafter⟩ := hrep.wakePending hheld
      have hwoken : releasePending cfg index cb =
          some ({ cb.relink links with pendingPoolIdx := head }.signal chosen) := by
        simp [releasePending, hwalk, hremove]
      refine ⟨_, hwoken, by rwa [wake_of_pending hheld], fun place => ?_⟩
      by_cases hplace : place = chosen
      · subst place
        simp [PoolCB.signal]
      · rw [PoolCB.signal, PoolCB.objPool_modify_of_ne hplace]
        simp [Ne.symm hplace, PoolCB.relink]

/-- The last part of a release: the object leaves the active list, its bit is
cleared and it becomes free. -/
theorem moveToFree_spec (hrep : Represents cb slots)
    (hexclusive : Exclusive slotKey (Shared cfg) slots)
    (hactive : slots index = .active (thread, call)) :
    ∃ after, moveToFree cfg index (clearCall cfg index cb) = some after ∧
      Represents after (Function.update slots index .free) ∧ SameSignals cb after := by
  have hlt : index < cfg.maxConcurrentActions := hrep.lt_of_not_free (by simp [hactive])
  have hkey := releasedBit_eq hrep hactive
  let bitmap := cb.activeActionsBitmap &&& ~~~ BitVec.twoPow 32 call.key
  let cleared := { cb with activeActionsBitmap := bitmap }.modify index fun obj =>
    { obj with pRespArgs := none, actionID := 0, additionalData := cfg.slMaxSockets }
  have hcleared : clearCall cfg index cb = cleared := by
    simp only [clearCall, hkey, cleared, bitmap]
  have hnext : cleared.next = cb.next := PoolCB.next_modify_of_keep fun _ => rfl
  obtain ⟨head, links, hremove, hlist, hframe⟩ :=
    lists_remove OnActiveList (show Lists cleared.next _ _ _ from hnext ▸ hrep.active) ⟨_, hactive⟩
      (show ¬ OnActiveList index (Slot.woken (thread, call)) by simp)
  rw [hnext] at hframe
  -- between the two list operations the object is on no list
  have hunlisted : Represents
      { cb.relink links with
        activePoolIdx := head
        activeActionsBitmap := bitmap
        apiInProgressCnt := cb.apiInProgressCnt - 1 }
      (Function.update slots index (.woken (thread, call))) := by
    constructor
    case free =>
      exact lists_keep (OnFreeList cfg) hrep.free (by simp [hactive]) (by simp)
        fun other hfree => hframe other (by simp [hfree.2])
    case active => exact hlist
    case pending =>
      exact lists_keep OnPendingList hrep.pending (by simp [hactive]) (by simp)
        fun other ⟨_, hpending⟩ => hframe other (by simp [hpending])
    case free_of_ge => exact hrep.free_of_ge_update hlt
    case holds =>
      apply hrep.holds_update
      · have hholds := hrep.holds index
        rw [hactive] at hholds
        exact hholds
      · exact fun _ _ => rfl
      · exact fun _ _ => rfl
    case busy_of_bit =>
      intro bit hbit
      obtain ⟨hset, hne⟩ := (getLsbD_clear _ call.key_lt).mp hbit
      obtain ⟨place, holder, hholder, rfl⟩ := hrep.busy_of_bit bit hset
      have hplace : place ≠ index := by
        intro heq
        rw [heq, hactive] at hholder
        cases hholder
        exact hne rfl
      exact ⟨place, holder, by rw [Function.update_of_ne hplace, hholder], rfl⟩
    case bit_of_busy =>
      intro bit hshared hbusy
      obtain ⟨hbusy, hne⟩ := (busy_end_iff hexclusive hactive (by simp) hshared).mp hbusy
      exact (getLsbD_clear _ call.key_lt).mpr ⟨hrep.bit_of_busy bit hshared hbusy, hne⟩
  let listed : PoolCB := { cleared.relink links with activePoolIdx := head }
  let final := listed.modify index fun obj => { obj with nextIndex := cb.freePoolIdx }
  have hfinal : moveToFree cfg index (clearCall cfg index cb) =
      some { final with freePoolIdx := index
                        apiInProgressCnt := cb.apiInProgressCnt - 1 } := by
    have hremove : slDrvRemoveFromList cfg cleared.activePoolIdx index cleared =
        some (head, cleared.relink links) := hremove
    rw [hcleared, moveToFree, hremove]
    rfl
  have hpool : ∀ place, place ≠ index →
      final.objPool place = (cb.relink links).objPool place := by
    intro place hplace
    simp only [final, PoolCB.objPool_modify_of_ne hplace]
    simp only [listed, PoolCB.relink, cleared, PoolCB.objPool_modify_of_ne hplace]
  have hindex : final.objPool index =
      { cb.objPool index with
        pRespArgs := none, actionID := 0, additionalData := cfg.slMaxSockets,
        nextIndex := cb.freePoolIdx } := by
    simp [final, listed, PoolCB.relink, cleared]
  have hafter := hunlisted.free_unlisted (Function.update_self ..) final.objPool
    (by rw [hindex]; rfl) (by rw [hindex]) hpool
  rw [Function.update_idem] at hafter
  refine ⟨_, hfinal, hafter, fun place => ?_⟩
  by_cases hplace : place = index
  · subst place
    change (final.objPool index).syncObj = _
    rw [hindex]
  · change (final.objPool place).syncObj = _
    rw [hpool place hplace]
    rfl

/-- Unlinking and signalling change the links and the sync objects of the pool, and the
heads of its lists. -/
structure Relinked (before after : PoolCB) : Prop where
  obj : ∀ index, after.objPool index =
    { before.objPool index with
      nextIndex := (after.objPool index).nextIndex
      syncObj := (after.objPool index).syncObj }
  activeActionsBitmap : after.activeActionsBitmap = before.activeActionsBitmap
  numOfDeletedSyncObj : after.numOfDeletedSyncObj = before.numOfDeletedSyncObj
  apiInProgressCnt : after.apiInProgressCnt = before.apiInProgressCnt

theorem Relinked.refl : Relinked cb cb := ⟨fun _ => rfl, rfl, rfl, rfl⟩

theorem Relinked.trans {middle after : PoolCB} (hfirst : Relinked cb middle)
    (hsecond : Relinked middle after) : Relinked cb after := by
  constructor
  case obj =>
    intro place
    rw [hsecond.obj, hfirst.obj]
  case activeActionsBitmap =>
    exact hsecond.activeActionsBitmap.trans hfirst.activeActionsBitmap
  case numOfDeletedSyncObj =>
    exact hsecond.numOfDeletedSyncObj.trans hfirst.numOfDeletedSyncObj
  case apiInProgressCnt => exact hsecond.apiInProgressCnt.trans hfirst.apiInProgressCnt

theorem relinked_modify {change : PoolObj → PoolObj}
    (hchange : change (cb.objPool index) =
      { cb.objPool index with
        nextIndex := (change (cb.objPool index)).nextIndex
        syncObj := (change (cb.objPool index)).syncObj }) :
    Relinked cb (cb.modify index change) := by
  constructor
  case obj =>
    intro place
    by_cases hplace : place = index
    · rw [hplace, PoolCB.objPool_modify_self]
      exact hchange
    · rw [PoolCB.objPool_modify_of_ne hplace]
  case activeActionsBitmap => rfl
  case numOfDeletedSyncObj => rfl
  case apiInProgressCnt => rfl

theorem relinked_removeFromList {after : PoolCB} {listIndex head : ℕ}
    (hremove : slDrvRemoveFromList cfg listIndex index cb = some (head, after)) :
    Relinked cb after := by
  rw [slDrvRemoveFromList] at hremove
  split at hremove
  · cases hremove
    exact .refl
  · split at hremove
    · cases hremove
      exact .refl
    · rw [Option.map_eq_some_iff] at hremove
      obtain ⟨found, _, hfound⟩ := hremove
      cases found with
      | none =>
          cases hfound
          exact .refl
      | some pred =>
          cases hfound
          exact relinked_modify rfl

theorem relinked_releasePending {after : PoolCB}
    (hrelease : releasePending cfg index cb = some after) : Relinked cb after := by
  rw [releasePending, Option.bind_eq_bind, Option.bind_eq_some_iff] at hrelease
  obtain ⟨found, _, hfound⟩ := hrelease
  cases found with
  | none =>
      cases hfound
      exact .refl
  | some pendingIndex =>
      simp only [Option.bind_eq_bind, Option.bind_eq_some_iff] at hfound
      obtain ⟨⟨head, unlinked⟩, hremove, hsignal⟩ := hfound
      cases hsignal
      have hunlinked := relinked_removeFromList hremove
      have hhead : Relinked cb { unlinked with pendingPoolIdx := head } :=
        ⟨hunlinked.obj, hunlinked.activeActionsBitmap, hunlinked.numOfDeletedSyncObj,
          hunlinked.apiInProgressCnt⟩
      exact hhead.trans (relinked_modify rfl)

/-- A release of an active call: neither list walk is endless, neither early
return is taken, the first pending object that passes the test is woken, and the
released object becomes free. -/
theorem slDrvReleasePoolObj_spec (hrep : Represents cb slots)
    (hexclusive : Exclusive slotKey (Shared cfg) slots)
    (hactive : slots index = .active (thread, call)) {items : List ℕ}
    (hitems : Linked cb.next cfg.maxConcurrentActions cb.pendingPoolIdx items)
    {choice : Option ℕ} (hchoice : items.find? (releasesPending cfg cb index) = choice) :
    ∃ after, slDrvReleasePoolObj cfg false index cb = some (.done, after) ∧
      Represents after (finish slots index choice) ∧
      ∀ place, (after.objPool place).syncObj =
        ((cb.objPool place).syncObj || choice == some place) := by
  obtain ⟨woken, hwake, hwoken, hsignal⟩ := releasePending_spec hrep hitems hchoice
  have hstill : wake slots choice index = .active (thread, call) :=
    wake_eq_active_iff.mpr hactive
  obtain ⟨after, hfree, hafter, hsame⟩ :=
    moveToFree_spec hwoken (hexclusive.wake choice) hstill
  have hresult : slDrvReleasePoolObj cfg false index cb = some (.done, after) := by
    simp [slDrvReleasePoolObj, hwake, releaseBitOff_eq_false hwoken hstill, hfree]
  exact ⟨after, hresult, hafter, fun place => (hsame place).trans (hsignal place)⟩

end SimpleLinkHost.PoolRelease
