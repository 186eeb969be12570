import SimpleLinkHost.Core.KeyedExclusion
import SimpleLinkHost.Driver.Pool

/-!
# Pool objects as slots

What the three index lists, the fields of the objects and the bit map of the
pool stand for: a use of each object, and the exclusion of calls with equal
bits.  For each section of the pool functions one theorem says how it changes
the slots.
-/

namespace SimpleLinkHost.PoolSlots

open Pool IndexList KeyedExclusion

variable {cfg : PoolConfig} {T : Type*}

/-- SELECT calls share their bit in the build with several selects. -/
def Shared (cfg : PoolConfig) (bit : ℕ) : Prop :=
  cfg.multiSelect = true ∧ bit = cfg.selectId

/-- The bit of a call in a slot. -/
def slotKey (held : T × PoolCall cfg) : ℕ := held.2.key

/-- The fields of an object agree with its slot. -/
def HoldsCall (obj : PoolObj) : Slot (T × PoolCall cfg) → Prop
  | .free => obj.additionalData = cfg.slMaxSockets
  | .pending held | .woken held | .active held =>
      obj.actionID = held.2.actionID ∧ obj.additionalData = held.2.socketID

abbrev OnFreeList (cfg : PoolConfig) (index : ℕ) (slot : Slot (T × PoolCall cfg)) : Prop :=
  index < cfg.maxConcurrentActions ∧ slot = .free

abbrev OnActiveList (_index : ℕ) (slot : Slot (T × PoolCall cfg)) : Prop :=
  ∃ held, slot = .active held

abbrev OnPendingList (_index : ℕ) (slot : Slot (T × PoolCall cfg)) : Prop :=
  ∃ held, slot = .pending held

/-- The slots that the control block stands for.  Woken slots are on no list. -/
structure Represents (cb : PoolCB) (slots : ℕ → Slot (T × PoolCall cfg)) : Prop where
  free : Lists cb.next cfg.maxConcurrentActions cb.freePoolIdx
    fun index => OnFreeList cfg index (slots index)
  active : Lists cb.next cfg.maxConcurrentActions cb.activePoolIdx
    fun index => OnActiveList index (slots index)
  pending : Lists cb.next cfg.maxConcurrentActions cb.pendingPoolIdx
    fun index => OnPendingList index (slots index)
  free_of_ge : ∀ index, cfg.maxConcurrentActions ≤ index → slots index = .free
  holds : ∀ index, HoldsCall (cb.objPool index) (slots index)
  busy_of_bit : ∀ bit, cb.activeActionsBitmap.getLsbD bit = true → Busy slotKey slots bit
  bit_of_busy : ∀ bit, ¬ Shared cfg bit → Busy slotKey slots bit →
    cb.activeActionsBitmap.getLsbD bit = true

/-- No sync object was signalled or waited for. -/
def SameSignals (before after : PoolCB) : Prop :=
  ∀ index, (after.objPool index).syncObj = (before.objPool index).syncObj

variable {cb : PoolCB} {slots : ℕ → Slot (T × PoolCall cfg)} {index : ℕ}
variable {thread : T} {call : PoolCall cfg}

theorem and_twoPow_bne_zero (bitmap : BitVec 32) {bit : ℕ} (hbit : bit < 32) :
    (bitmap &&& BitVec.twoPow 32 bit != 0) = bitmap.getLsbD bit := by
  rw [BitVec.and_twoPow]
  cases hget : bitmap.getLsbD bit with
  | false => simp
  | true =>
      have htwoPow : BitVec.twoPow 32 bit ≠ 0#32 := by
        intro hzero
        have hset : (BitVec.twoPow 32 bit).getLsbD bit = false := by rw [hzero]; simp
        simp [hbit] at hset
      simpa using htwoPow

theorem getLsbD_multiSelectMask {bit : ℕ} (hbit : bit < 32) :
    (multiSelectMask cfg).getLsbD bit = true ↔ ¬ Shared cfg bit := by
  rw [multiSelectMask, Shared]
  cases hmulti : cfg.multiSelect with
  | false => simp only [Bool.false_eq_true, if_false, BitVec.getLsbD_allOnes, hbit,
      decide_true, false_and, not_false_eq_true]
  | true =>
      simp only [if_true, BitVec.getLsbD_not, hbit, decide_true, Bool.true_and,
        BitVec.getLsbD_twoPow, cfg.selectId_lt, true_and, Bool.not_eq_true',
        decide_eq_false_iff_not]
      exact not_congr eq_comm

/-- The wait loop tests the bit of the call, except for shared SELECT calls. -/
theorem actionInProgress_iff :
    actionInProgress cb call = true ↔
      ¬ Shared cfg call.key ∧ cb.activeActionsBitmap.getLsbD call.key = true := by
  have hge := call.actionID_ge
  have hlt := call.actionID_lt
  have hle := call.socketID_le
  have hselect := cfg.selectId_ge
  rw [actionInProgress, PoolCall.key]
  by_cases hsocket : call.socketID < cfg.slMaxSockets
  · have hshared : ¬ Shared cfg call.socketID := by
      intro hshared
      have heq := hshared.2
      omega
    have hne : (cfg.slMaxSockets == call.socketID) = false := by
      simp only [beq_eq_false_iff_ne]
      omega
    rw [and_twoPow_bne_zero _ (show call.socketID < 32 by omega), hne]
    simp [hsocket, hshared]
  · have heq : cfg.slMaxSockets = call.socketID := by omega
    rw [← BitVec.and_assoc, and_twoPow_bne_zero _ hlt, BitVec.getLsbD_and]
    simp only [heq, Nat.lt_irrefl, decide_false, Bool.false_and, Bool.false_or, beq_self_eq_true,
      Bool.and_true, Bool.and_eq_true, getLsbD_multiSelectMask hlt, if_false]
    exact and_comm

/-- A list that neither loses nor gains the changed object. -/
theorem lists_keep (P : ℕ → Slot (T × PoolCall cfg) → Prop) {next next' : ℕ → ℕ}
    {nil head : ℕ} {slot : Slot (T × PoolCall cfg)}
    (hlists : Lists next nil head fun other => P other (slots other))
    (hbefore : ¬ P index (slots index)) (hafter : ¬ P index slot)
    (hsame : ∀ other, P other (slots other) → next' other = next other) :
    Lists next' nil head fun other => P other (Function.update slots index slot other) := by
  apply hlists.congr
  · intro other
    by_cases hother : other = index
    · subst other
      simp [hbefore, hafter]
    · rw [Function.update_of_ne hother]
  · exact hsame

/-- A list onto which the changed object is pushed. -/
theorem lists_push (P : ℕ → Slot (T × PoolCall cfg) → Prop) {next : ℕ → ℕ}
    {nil head : ℕ} {slot : Slot (T × PoolCall cfg)}
    (hlists : Lists next nil head fun other => P other (slots other))
    (hbefore : ¬ P index (slots index)) (hafter : P index slot) (hlt : index < nil) :
    Lists (Function.update next index head) nil index
      fun other => P other (Function.update slots index slot other) := by
  apply (hlists.push hlt hbefore).congr
  · intro other
    by_cases hother : other = index
    · subst other
      simp [hafter]
    · simp [hother]
  · intro other hmember
    rfl

theorem HoldsCall.congr {obj obj' : PoolObj} {slot : Slot (T × PoolCall cfg)}
    (hholds : HoldsCall obj slot) (haction : obj'.actionID = obj.actionID)
    (hdata : obj'.additionalData = obj.additionalData) : HoldsCall obj' slot := by
  cases slot <;> simpa [HoldsCall, haction, hdata] using hholds

namespace Represents

theorem lt_of_not_free (hrep : Represents cb slots) (hslot : slots index ≠ .free) :
    index < cfg.maxConcurrentActions := by
  by_contra hge
  exact hslot (hrep.free_of_ge index (Nat.le_of_not_lt hge))

theorem pending_of_mem (hrep : Represents cb slots) {items : List ℕ}
    (hitems : Linked cb.next cfg.maxConcurrentActions cb.pendingPoolIdx items)
    (hindex : index ∈ items) : ∃ held, slots index = .pending held := by
  obtain ⟨listed, hlinked, hlisted⟩ := hrep.pending
  rw [hitems.unique hlinked] at hindex
  exact (hlisted index).mp hindex

theorem free_of_ge_update (hrep : Represents cb slots) {slot : Slot (T × PoolCall cfg)}
    (hlt : index < cfg.maxConcurrentActions) :
    ∀ other, cfg.maxConcurrentActions ≤ other →
      Function.update slots index slot other = .free := by
  intro other hother
  rw [Function.update_of_ne (by omega)]
  exact hrep.free_of_ge other hother

theorem holds_update (hrep : Represents cb slots) {slot : Slot (T × PoolCall cfg)}
    {objPool : ℕ → PoolObj} (hindex : HoldsCall (objPool index) slot)
    (haction : ∀ other, other ≠ index →
      (objPool other).actionID = (cb.objPool other).actionID)
    (hdata : ∀ other, other ≠ index →
      (objPool other).additionalData = (cb.objPool other).additionalData) :
    ∀ other, HoldsCall (objPool other) (Function.update slots index slot other) := by
  intro other
  by_cases hother : other = index
  · subst other
    rwa [Function.update_self]
  · rw [Function.update_of_ne hother]
    exact (hrep.holds other).congr (haction other hother) (hdata other hother)

/-- A call that changes its slot keeps its object. -/
theorem holds_moved (hrep : Represents cb slots) {before slot : Slot (T × PoolCall cfg)}
    {objPool : ℕ → PoolObj} (hslot : slots index = before)
    (hmoves : HoldsCall (cb.objPool index) before → HoldsCall (objPool index) slot)
    (haction : ∀ other, (objPool other).actionID = (cb.objPool other).actionID)
    (hdata : ∀ other, (objPool other).additionalData = (cb.objPool other).additionalData) :
    ∀ other, HoldsCall (objPool other) (Function.update slots index slot other) :=
  hrep.holds_update (hmoves (hslot ▸ hrep.holds index)) (fun other _ => haction other)
    fun other _ => hdata other

theorem takeFreeObj_eq (hrep : Represents cb slots) (call : PoolCall cfg)
    (hlt : cb.freePoolIdx < cfg.maxConcurrentActions) :
    takeFreeObj call cb = some (cb.freePoolIdx,
      { cb with freePoolIdx := cb.next cb.freePoolIdx }.modify cb.freePoolIdx fun obj =>
        { obj with actionID := call.actionID, additionalData := call.socketID }) := by
  obtain ⟨⟨-, hfree⟩, hrest⟩ := hrep.free.pop hlt
  have hdata : (cb.objPool cb.freePoolIdx).additionalData = cfg.slMaxSockets := by
    have hholds := hrep.holds cb.freePoolIdx
    rwa [hfree] at hholds
  have hhead : (if cb.next cb.freePoolIdx < cfg.maxConcurrentActions then
      { cb with freePoolIdx := cb.next cb.freePoolIdx }
      else { cb with freePoolIdx := cfg.maxConcurrentActions }) =
      { cb with freePoolIdx := cb.next cb.freePoolIdx } := by
    have hle := hrest.head_le
    split
    · rfl
    · rw [show cb.next cb.freePoolIdx = cfg.maxConcurrentActions by omega]
  simp only [takeFreeObj, if_pos hlt, hhead]
  by_cases hsocket : call.socketID < cfg.slMaxSockets
  · simp only [if_pos hsocket, PoolCB.modify_modify]
  · have hnone : call.socketID = cfg.slMaxSockets :=
      Nat.le_antisymm call.socketID_le (Nat.le_of_not_lt hsocket)
    simp only [if_neg hsocket]
    congr 2
    apply PoolCB.modify_congr
    simp only [hnone, ← hdata]

/-- The first section takes a free object, fills in the call and leaves the
object on no list; its link still points to the rest of the free list. -/
theorem takeFreeObj_spec (hrep : Represents cb slots) (thread : T) (call : PoolCall cfg)
    (hlt : cb.freePoolIdx < cfg.maxConcurrentActions) :
    ∃ taken, takeFreeObj call cb = some (cb.freePoolIdx, taken) ∧
      slots cb.freePoolIdx = .free ∧
      Represents taken (Function.update slots cb.freePoolIdx (.woken (thread, call))) ∧
      taken.next cb.freePoolIdx = taken.freePoolIdx ∧ SameSignals cb taken := by
  have htake := hrep.takeFreeObj_eq call hlt
  obtain ⟨⟨-, hfree⟩, hrest⟩ := hrep.free.pop hlt
  generalize htaken : PoolCB.modify _ _ _ = taken at htake
  have hnext : taken.next = cb.next := by
    rw [← htaken]
    exact PoolCB.next_modify_of_keep fun _ => rfl
  have hpool : ∀ other, other ≠ cb.freePoolIdx →
      taken.objPool other = cb.objPool other := by
    intro other hother
    rw [← htaken]
    exact PoolCB.objPool_modify_of_ne hother _
  have hobj : taken.objPool cb.freePoolIdx =
      { cb.objPool cb.freePoolIdx with
        actionID := call.actionID, additionalData := call.socketID } := by
    rw [← htaken]
    exact PoolCB.objPool_modify_self ..
  have hfreeIdx : taken.freePoolIdx = cb.next cb.freePoolIdx := by rw [← htaken]; rfl
  have hactiveIdx : taken.activePoolIdx = cb.activePoolIdx := by rw [← htaken]; rfl
  have hpendingIdx : taken.pendingPoolIdx = cb.pendingPoolIdx := by rw [← htaken]; rfl
  have hbitmap : taken.activeActionsBitmap = cb.activeActionsBitmap := by
    rw [← htaken]; rfl
  have hbusy : ∀ bit, Busy slotKey
      (Function.update slots cb.freePoolIdx (.woken (thread, call))) bit ↔
        Busy slotKey slots bit := fun bit => busy_update_iff (by simp [hfree]) (by simp)
  have hrep' : Represents taken
      (Function.update slots cb.freePoolIdx (.woken (thread, call))) := by
    constructor
    case free =>
      rw [hnext, hfreeIdx]
      apply hrest.congr
      · intro other
        by_cases hother : other = cb.freePoolIdx
        · subst other
          simp
        · simp [hother]
      · exact fun _ _ => rfl
    case active =>
      rw [hnext, hactiveIdx]
      exact lists_keep OnActiveList hrep.active (by simp [hfree]) (by simp) fun _ _ => rfl
    case pending =>
      rw [hnext, hpendingIdx]
      exact lists_keep OnPendingList hrep.pending (by simp [hfree]) (by simp) fun _ _ => rfl
    case free_of_ge => exact hrep.free_of_ge_update hlt
    case holds =>
      apply hrep.holds_update
      · rw [hobj]
        exact ⟨rfl, rfl⟩
      · intro other hother
        rw [hpool other hother]
      · intro other hother
        rw [hpool other hother]
    case busy_of_bit =>
      intro bit hbit
      rw [hbitmap] at hbit
      exact (hbusy bit).mpr (hrep.busy_of_bit bit hbit)
    case bit_of_busy =>
      intro bit hshared hbusyBit
      rw [hbitmap]
      exact hrep.bit_of_busy bit hshared ((hbusy bit).mp hbusyBit)
  refine ⟨taken, htake, hfree, hrep', by rw [hnext, hfreeIdx], ?_⟩
  intro other
  by_cases hother : other = cb.freePoolIdx
  · subst other
    rw [hobj]
  · rw [hpool other hother]

/-- An unlisted object is pushed onto the pending list. -/
theorem park (hrep : Represents cb slots) {held : T × PoolCall cfg}
    (hslot : slots index = .woken held) :
    Represents { cb.relink (Function.update cb.next index cb.pendingPoolIdx) with
        pendingPoolIdx := index }
      (Function.update slots index (.pending held)) := by
  have hlt : index < cfg.maxConcurrentActions := hrep.lt_of_not_free (by simp [hslot])
  have hsame : ∀ other, slots other ≠ .woken held →
      Function.update cb.next index cb.pendingPoolIdx other = cb.next other := by
    intro other hother
    apply Function.update_of_ne
    intro heq
    exact hother (heq ▸ hslot)
  have hbusy : ∀ bit, Busy slotKey (Function.update slots index (.pending held)) bit ↔
      Busy slotKey slots bit := fun bit => busy_update_iff (by simp [hslot]) (by simp)
  constructor
  case free =>
    exact lists_keep (OnFreeList cfg) hrep.free (by simp [hslot]) (by simp)
      fun other hfree => hsame other (by simp [hfree.2])
  case active =>
    exact lists_keep OnActiveList hrep.active (by simp [hslot]) (by simp)
      fun other ⟨_, hactive⟩ => hsame other (by simp [hactive])
  case pending =>
    exact lists_push OnPendingList hrep.pending (by simp [hslot]) (by simp) hlt
  case free_of_ge => exact hrep.free_of_ge_update hlt
  case holds =>
    exact hrep.holds_moved hslot id (fun _ => rfl) (fun _ => rfl)
  case busy_of_bit =>
    intro bit hbit
    exact (hbusy bit).mpr (hrep.busy_of_bit bit hbit)
  case bit_of_busy =>
    intro bit hshared hbusyBit
    exact hrep.bit_of_busy bit hshared ((hbusy bit).mp hbusyBit)

/-- An unlisted object is pushed onto the active list and its bit is set. -/
theorem start (hrep : Represents cb slots) (hslot : slots index = .woken (thread, call)) :
    Represents { cb.relink (Function.update cb.next index cb.activePoolIdx) with
        activePoolIdx := index
        activeActionsBitmap := cb.activeActionsBitmap ||| BitVec.twoPow 32 call.key
        apiInProgressCnt := cb.apiInProgressCnt + 1 }
      (Function.update slots index (.active (thread, call))) := by
  have hlt : index < cfg.maxConcurrentActions := hrep.lt_of_not_free (by simp [hslot])
  have hsame : ∀ other, slots other ≠ .woken (thread, call) →
      Function.update cb.next index cb.activePoolIdx other = cb.next other := by
    intro other hother
    apply Function.update_of_ne
    intro heq
    exact hother (heq ▸ hslot)
  have hbusy : ∀ bit,
      Busy slotKey (Function.update slots index (.active (thread, call))) bit ↔
        call.key = bit ∨ Busy slotKey slots bit :=
    fun bit => busy_start_iff (by simp [hslot])
  have hbit : ∀ bit,
      (cb.activeActionsBitmap ||| BitVec.twoPow 32 call.key).getLsbD bit = true ↔
        call.key = bit ∨ cb.activeActionsBitmap.getLsbD bit = true := by
    intro bit
    simp only [BitVec.getLsbD_or, BitVec.getLsbD_twoPow, call.key_lt, decide_true,
      Bool.true_and, Bool.or_eq_true, decide_eq_true_eq]
    exact or_comm
  constructor
  case free =>
    exact lists_keep (OnFreeList cfg) hrep.free (by simp [hslot]) (by simp)
      fun other hfree => hsame other (by simp [hfree.2])
  case active =>
    exact lists_push OnActiveList hrep.active (by simp [hslot]) (by simp) hlt
  case pending =>
    exact lists_keep OnPendingList hrep.pending (by simp [hslot]) (by simp)
      fun other ⟨_, hpending⟩ => hsame other (by simp [hpending])
  case free_of_ge => exact hrep.free_of_ge_update hlt
  case holds =>
    exact hrep.holds_moved hslot id (fun _ => rfl) (fun _ => rfl)
  case busy_of_bit =>
    intro bit hset
    exact (hbusy bit).mpr (((hbit bit).mp hset).imp_right (hrep.busy_of_bit bit))
  case bit_of_busy =>
    intro bit hshared hbusyBit
    exact (hbit bit).mpr (((hbusy bit).mp hbusyBit).imp_right (hrep.bit_of_busy bit hshared))

/-- An unlisted object goes back in front of the free list. -/
theorem free_unlisted (hrep : Represents cb slots) {held : T × PoolCall cfg}
    (hslot : slots index = .woken held) (objPool : ℕ → PoolObj)
    (hlink : (objPool index).nextIndex = cb.freePoolIdx)
    (hdata : (objPool index).additionalData = cfg.slMaxSockets)
    (hsame : ∀ other, other ≠ index → objPool other = cb.objPool other) :
    Represents { cb with objPool := objPool, freePoolIdx := index }
      (Function.update slots index .free) := by
  have hlt : index < cfg.maxConcurrentActions := hrep.lt_of_not_free (by simp [hslot])
  have hlinks : ∀ other, slots other ≠ .woken held →
      (objPool other).nextIndex = cb.next other := by
    intro other hother
    rw [hsame other fun heq => hother (heq ▸ hslot)]
    rfl
  have hnext : (fun other => (objPool other).nextIndex) =
      Function.update cb.next index cb.freePoolIdx := by
    funext other
    by_cases hother : other = index
    · subst other
      rw [hlink, Function.update_self]
    · rw [hsame other hother, Function.update_of_ne hother]
      rfl
  have hbusy : ∀ bit, Busy slotKey (Function.update slots index .free) bit ↔
      Busy slotKey slots bit := fun bit => busy_update_iff (by simp [hslot]) (by simp)
  constructor
  case free =>
    change Lists (fun other => (objPool other).nextIndex) _ _ _
    rw [hnext]
    exact lists_push (OnFreeList cfg) hrep.free (by simp [hslot]) ⟨hlt, rfl⟩ hlt
  case active =>
    exact lists_keep OnActiveList hrep.active (by simp [hslot]) (by simp)
      fun other ⟨_, hactive⟩ => hlinks other (by simp [hactive])
  case pending =>
    exact lists_keep OnPendingList hrep.pending (by simp [hslot]) (by simp)
      fun other ⟨_, hpending⟩ => hlinks other (by simp [hpending])
  case free_of_ge => exact hrep.free_of_ge_update hlt
  case holds =>
    apply hrep.holds_update
    · exact hdata
    · exact fun other hother => congrArg PoolObj.actionID (hsame other hother)
    · exact fun other hother => congrArg PoolObj.additionalData (hsame other hother)
  case busy_of_bit =>
    intro bit hbit
    exact (hbusy bit).mpr (hrep.busy_of_bit bit hbit)
  case bit_of_busy =>
    intro bit hshared hbusyBit
    exact hrep.bit_of_busy bit hshared ((hbusy bit).mp hbusyBit)

end Represents

/-- What the wait loop does with an object that is on no list. -/
inductive LoopResult (slots : ℕ → Slot (T × PoolCall cfg)) (index : ℕ)
    (held : T × PoolCall cfg) (isSpawn : Bool) :
    PoolWait → (ℕ → Slot (T × PoolCall cfg)) → Prop
  | start (hidle : Shared cfg held.2.key ∨ ¬ Busy slotKey slots held.2.key) :
      LoopResult slots index held isSpawn (.obj index)
        (Function.update slots index (.active held))
  | wait (hspawn : isSpawn = false) (hshared : ¬ Shared cfg held.2.key)
      (hbusy : Busy slotKey slots held.2.key) :
      LoopResult slots index held isSpawn (.wait index)
        (Function.update slots index (.pending held))
  | refuse (hspawn : isSpawn = true) :
      LoopResult slots index held isSpawn (.error .noObj)
        (Function.update slots index .free)

/-- One pass of the wait loop.  A spawn context pushes the object back on the
free list without writing its link, so the link must still be the right one. -/
theorem Represents.waitForPoolObjLoop (hrep : Represents cb slots)
    (hslot : slots index = .woken (thread, call)) {isSpawn : Bool}
    (hlink : isSpawn = true → cb.next index = cb.freePoolIdx) :
    ∃ result after slots', waitForPoolObjLoop isSpawn call index cb = (result, after) ∧
      LoopResult slots index (thread, call) isSpawn result slots' ∧
      Represents after slots' ∧ SameSignals cb after := by
  have hidle : actionInProgress cb call = true ↔
      ¬ Shared cfg call.key ∧ Busy slotKey slots call.key := by
    rw [actionInProgress_iff]
    exact and_congr_right fun hshared =>
      ⟨hrep.busy_of_bit _, hrep.bit_of_busy _ hshared⟩
  cases hprogress : actionInProgress cb call with
  | false =>
      refine ⟨_, _, _, ?_, .start ?_, hrep.start hslot, fun _ => rfl⟩
      · simp only [Pool.waitForPoolObjLoop, hprogress, Bool.false_eq_true, if_false,
          PoolCB.modify_nextIndex]
        rfl
      · rw [hprogress] at hidle
        by_contra hnot
        rw [not_or, not_not] at hnot
        exact absurd (hidle.mpr hnot) (by simp)
  | true =>
      obtain ⟨hshared, hbusy⟩ := hidle.mp hprogress
      cases isSpawn with
      | false =>
          refine ⟨_, _, _, ?_, .wait rfl hshared hbusy, hrep.park hslot, fun _ => rfl⟩
          simp only [Pool.waitForPoolObjLoop, hprogress, Bool.false_eq_true, if_false, if_true,
            PoolCB.modify_nextIndex]
      | true =>
          refine ⟨_, _, _, ?_, .refuse rfl,
            hrep.free_unlisted hslot (Function.update cb.objPool index
              { cb.objPool index with actionID := 0, additionalData := cfg.slMaxSockets })
              ?_ ?_ ?_, ?_⟩
          · simp only [Pool.waitForPoolObjLoop, hprogress, if_true]
            rfl
          · rw [Function.update_self]
            exact hlink rfl
          · simp
          · intro other hother
            rw [Function.update_of_ne hother]
          · intro other
            by_cases hother : other = index
            · subst other
              simp
            · simp [hother]

/-- A list from which `_SlDrvRemoveFromList` takes the changed object. -/
theorem lists_remove (P : ℕ → Slot (T × PoolCall cfg) → Prop) {head : ℕ}
    {slot : Slot (T × PoolCall cfg)}
    (hlists : Lists cb.next cfg.maxConcurrentActions head fun other => P other (slots other))
    (hbefore : P index (slots index)) (hafter : ¬ P index slot) :
    ∃ head' links, slDrvRemoveFromList cfg head index cb = some (head', cb.relink links) ∧
      Lists links cfg.maxConcurrentActions head'
        (fun other => P other (Function.update slots index slot other)) ∧
      ∀ other, ¬ P other (slots other) → links other = cb.next other := by
  obtain ⟨items, hlinked, hitems⟩ := hlists
  obtain ⟨head', links, hremove, herased, hframe⟩ :=
    slDrvRemoveFromList_spec hlinked ((hitems index).mpr hbefore)
  have hmember : ∀ other, other ∈ items.erase index ↔
      P other (Function.update slots index slot other) := by
    intro other
    rw [hlinked.nodup.mem_erase_iff, hitems]
    by_cases hother : other = index
    · subst other
      simp [hafter]
    · simp [hother]
  exact ⟨head', links, hremove, ⟨_, herased, hmember⟩,
    fun other hother => hframe other fun hmem => hother ((hitems other).mp hmem)⟩

namespace Represents

/-- Writes to fields that no list and no exclusion depends on. -/
theorem modify (hrep : Represents cb slots) {change : PoolObj → PoolObj}
    (hlink : ∀ obj, (change obj).nextIndex = obj.nextIndex)
    (haction : ∀ obj, (change obj).actionID = obj.actionID)
    (hdata : ∀ obj, (change obj).additionalData = obj.additionalData) :
    Represents (cb.modify index change) slots := by
  have hnext : (cb.modify index change).next = cb.next := PoolCB.next_modify_of_keep hlink
  have hholds : ∀ other, HoldsCall ((cb.modify index change).objPool other) (slots other) := by
    intro other
    by_cases hother : other = index
    · subst other
      rw [PoolCB.objPool_modify_self]
      exact (hrep.holds index).congr (haction _) (hdata _)
    · rw [PoolCB.objPool_modify_of_ne hother]
      exact hrep.holds other
  exact ⟨hnext ▸ hrep.free, hnext ▸ hrep.active, hnext ▸ hrep.pending, hrep.free_of_ge,
    hholds, hrep.busy_of_bit, hrep.bit_of_busy⟩

/-- A pending object leaves its list and is signalled. -/
theorem wakePending (hrep : Represents cb slots) {held : T × PoolCall cfg}
    (hslot : slots index = .pending held) :
    ∃ head links,
      slDrvRemoveFromList cfg cb.pendingPoolIdx index cb = some (head, cb.relink links) ∧
      Represents ({ cb.relink links with pendingPoolIdx := head }.signal index)
        (Function.update slots index (.woken held)) := by
  have hlt : index < cfg.maxConcurrentActions := hrep.lt_of_not_free (by simp [hslot])
  obtain ⟨head, links, hremove, hpending, hframe⟩ :=
    lists_remove OnPendingList hrep.pending ⟨held, hslot⟩
      (show ¬ OnPendingList index (Slot.woken held) by simp)
  have hbusy : ∀ bit, Busy slotKey (Function.update slots index (.woken held)) bit ↔
      Busy slotKey slots bit := fun bit => busy_update_iff (by simp [hslot]) (by simp)
  refine ⟨head, links, hremove, modify ?_ (fun _ => rfl) (fun _ => rfl) (fun _ => rfl)⟩
  constructor
  case free =>
    exact lists_keep (OnFreeList cfg) hrep.free (by simp [hslot]) (by simp)
      fun other hfree => hframe other (by simp [hfree.2])
  case active =>
    exact lists_keep OnActiveList hrep.active (by simp [hslot]) (by simp)
      fun other ⟨_, hactive⟩ => hframe other (by simp [hactive])
  case pending => exact hpending
  case free_of_ge => exact hrep.free_of_ge_update hlt
  case holds =>
    exact hrep.holds_moved hslot id (fun _ => rfl) (fun _ => rfl)
  case busy_of_bit =>
    intro bit hbit
    exact (hbusy bit).mpr (hrep.busy_of_bit bit hbit)
  case bit_of_busy =>
    intro bit hshared hbusyBit
    exact hrep.bit_of_busy bit hshared ((hbusy bit).mp hbusyBit)

end Represents

end SimpleLinkHost.PoolSlots
