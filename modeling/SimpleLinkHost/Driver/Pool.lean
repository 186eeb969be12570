import Mathlib.Data.BitVec
import Mathlib.Tactic.Common
import SimpleLinkHost.Core.IndexList

/-!
# The pool of asynchronous calls

`_SlDrvWaitForPoolObj` and `_SlDrvReleasePoolObj`, one definition for each
section they run under the protection lock.  A call takes an object from the
free list and either becomes active or parks its object on the pending list and
waits on the object's sync object.  The three lists share the `NextIndex` links
of the pool array.
-/

namespace SimpleLinkHost.Pool

/-- The build constants of the pool.  Socket numbers and action ids share one
32-bit map, sockets in the lower bits. -/
structure PoolConfig where
  maxConcurrentActions : ℕ
  slMaxSockets : ℕ
  selectId : ℕ
  slBsdSocketIdMask : ℕ
  /-- Multi-threaded without a trigger-select handler: `MULTI_SELECT_MASK`
  leaves `SELECT_ID` out. -/
  multiSelect : Bool
  selectId_ge : slMaxSockets ≤ selectId
  selectId_lt : selectId < 32
  and_socketIdMask : ∀ socketID ≤ slMaxSockets, socketID &&& slBsdSocketIdMask = socketID

/-- Sixteen sockets, four pool objects, SELECT as action 17. -/
def smallConfig : PoolConfig where
  maxConcurrentActions := 4
  slMaxSockets := 16
  selectId := 17
  slBsdSocketIdMask := 31
  multiSelect := true
  selectId_ge := by decide
  selectId_lt := by decide
  and_socketIdMask := by decide

/-- The arguments of one `_SlDrvWaitForPoolObj` call.  `socketID` is
`SL_MAX_SOCKETS` when no socket is relevant to the action. -/
@[ext]
structure PoolCall (cfg : PoolConfig) where
  actionID : ℕ
  socketID : ℕ
  actionID_ge : cfg.slMaxSockets ≤ actionID
  actionID_lt : actionID < 32
  socketID_le : socketID ≤ cfg.slMaxSockets
deriving DecidableEq

/-- The bit of the map that stands for the call: its socket if it has one, its
action otherwise. -/
def PoolCall.key {cfg : PoolConfig} (call : PoolCall cfg) : ℕ :=
  if call.socketID < cfg.slMaxSockets then call.socketID else call.actionID

theorem PoolCall.key_lt {cfg : PoolConfig} (call : PoolCall cfg) : call.key < 32 := by
  have hge := call.actionID_ge
  have hlt := call.actionID_lt
  rw [key]
  split <;> omega

/-- `_SlPoolObj_t`.  `syncObj` says whether the sync object is signalled, and
`syncObjDeletes` counts the calls of `sl_SyncObjDelete` for it. -/
structure PoolObj where
  actionID : ℕ
  additionalData : ℕ
  nextIndex : ℕ
  pRespArgs : Option ℕ
  syncObj : Bool
  syncObjDeletes : ℕ
deriving DecidableEq

/-- The fields of the driver control block that the pool functions use. -/
structure PoolCB where
  objPool : ℕ → PoolObj
  freePoolIdx : ℕ
  activePoolIdx : ℕ
  pendingPoolIdx : ℕ
  activeActionsBitmap : BitVec 32
  numOfDeletedSyncObj : ℕ
  apiInProgressCnt : BitVec 8

/-- The errors with which `_SlDrvWaitForPoolObj` returns. -/
inductive PoolError
  /-- `MAX_CONCURRENT_ACTIONS` -/
  | noObj
  /-- `SL_RET_CODE_STOP_IN_PROGRESS` -/
  | stopInProgress
deriving DecidableEq

/-- How a section of `_SlDrvWaitForPoolObj` ends. -/
inductive PoolWait
  | obj (index : ℕ)
  | error (error : PoolError)
  | wait (index : ℕ)
deriving DecidableEq

/-- The status of `_SlDrvSyncObjWaitForever`. -/
inductive SyncWait
  | ok
  | apiAborted
deriving DecidableEq

/-- How `_SlDrvReleasePoolObj` returns. -/
inductive ReleaseExit
  | stopped
  /-- One of the two returns that leave the protection lock taken. -/
  | bitOff
  | done
deriving DecidableEq

variable (cfg : PoolConfig)

namespace PoolCB

/-- The links of the pool array. -/
def next (cb : PoolCB) (index : ℕ) : ℕ := (cb.objPool index).nextIndex

/-- Write one object of the pool array. -/
def modify (cb : PoolCB) (index : ℕ) (change : PoolObj → PoolObj) : PoolCB :=
  { cb with objPool := Function.update cb.objPool index (change (cb.objPool index)) }

/-- `SL_DRV_SYNC_OBJ_SIGNAL` on the sync object of one pool object. -/
def signal (cb : PoolCB) (index : ℕ) : PoolCB :=
  cb.modify index fun obj => { obj with syncObj := true }

/-- Delete the sync object of one pool object and count the deletion. -/
def deleteSyncObj (cb : PoolCB) (index : ℕ) : PoolCB :=
  let cb := cb.modify index fun obj =>
    { obj with syncObjDeletes := obj.syncObjDeletes + 1 }
  { cb with numOfDeletedSyncObj := cb.numOfDeletedSyncObj + 1 }

end PoolCB

/-- The pool part of `_SlDrvDriverCBInit`. -/
def slDrvDriverCBInit : PoolCB where
  objPool index :=
    { actionID := 0
      additionalData := cfg.slMaxSockets
      nextIndex := index + 1
      pRespArgs := none
      syncObj := false
      syncObjDeletes := 0 }
  freePoolIdx := 0
  activePoolIdx := cfg.maxConcurrentActions
  pendingPoolIdx := cfg.maxConcurrentActions
  activeActionsBitmap := 0
  numOfDeletedSyncObj := 0
  apiInProgressCnt := 0

/-- `MULTI_SELECT_MASK` -/
def multiSelectMask : BitVec 32 :=
  if cfg.multiSelect then ~~~ BitVec.twoPow 32 cfg.selectId else BitVec.allOnes 32

variable {cfg}

/-- The condition of the wait loop: the bit of the call's socket, or of its
action, is set. -/
def actionInProgress (cb : PoolCB) (call : PoolCall cfg) : Bool :=
  (call.socketID < cfg.slMaxSockets
      && cb.activeActionsBitmap &&& BitVec.twoPow 32 call.socketID != 0)
    || (cb.activeActionsBitmap
          &&& (multiSelectMask cfg &&& BitVec.twoPow 32 call.actionID) != 0
      && cfg.slMaxSockets == call.socketID)

/-- The first section up to the loop: pop an object from the free list and put
the call's data into it. -/
def takeFreeObj (call : PoolCall cfg) (cb : PoolCB) : Option (ℕ × PoolCB) :=
  if cb.freePoolIdx < cfg.maxConcurrentActions then
    let currObjIndex := cb.freePoolIdx
    let cb :=
      if cb.next currObjIndex < cfg.maxConcurrentActions then
        { cb with freePoolIdx := cb.next currObjIndex }
      else
        { cb with freePoolIdx := cfg.maxConcurrentActions }
    let cb := cb.modify currObjIndex fun obj => { obj with actionID := call.actionID }
    let cb :=
      if call.socketID < cfg.slMaxSockets then
        cb.modify currObjIndex fun obj => { obj with additionalData := call.socketID }
      else cb
    some (currObjIndex, cb)
  else none

/-- `_SlDrvWaitForPoolObj` from a test of the loop condition to the next wait
or to the return.  `isSpawn` is `_SlDrvIsSpawnOwnGlobalLock()`. -/
def waitForPoolObjLoop (isSpawn : Bool) (call : PoolCall cfg) (currObjIndex : ℕ)
    (cb : PoolCB) : PoolWait × PoolCB :=
  if actionInProgress cb call then
    if isSpawn then
      let cb := cb.modify currObjIndex fun obj =>
        { obj with actionID := 0, additionalData := cfg.slMaxSockets }
      (.error .noObj, { cb with freePoolIdx := currObjIndex })
    else
      let cb := cb.modify currObjIndex fun obj =>
        { obj with nextIndex := cb.pendingPoolIdx }
      (.wait currObjIndex, { cb with pendingPoolIdx := currObjIndex })
  else
    let socketOrAction :=
      if call.socketID < cfg.slMaxSockets then call.socketID else call.actionID
    let cb := { cb with activeActionsBitmap :=
                  cb.activeActionsBitmap ||| BitVec.twoPow 32 socketOrAction }
    let cb := cb.modify currObjIndex fun obj => { obj with nextIndex := cb.activePoolIdx }
    (.obj currObjIndex,
      { cb with activePoolIdx := currObjIndex
                apiInProgressCnt := cb.apiInProgressCnt + 1 })

/-- `_SlDrvWaitForPoolObj` from its entry to the first wait or to the return. -/
def slDrvWaitForPoolObj (isSpawn : Bool) (call : PoolCall cfg) (cb : PoolCB) :
    PoolWait × PoolCB :=
  match takeFreeObj call cb with
  | none => (.error .noObj, cb)
  | some (currObjIndex, cb) => waitForPoolObjLoop isSpawn call currObjIndex cb

/-- `_SlDrvSyncObjWaitForever` once the wait has ended. -/
def slDrvSyncObjWaitForever (restartRequired : Bool) : SyncWait :=
  if restartRequired then .apiAborted else .ok

/-- `_SlDrvWaitForPoolObj` from the end of the wait on.  The status of the wait
is cast to `void`. -/
def waitForPoolObjResume (stopInProgress isSpawn : Bool) (_waitStatus : SyncWait)
    (call : PoolCall cfg) (currObjIndex : ℕ) (cb : PoolCB) : PoolWait × PoolCB :=
  if stopInProgress then
    (.error .stopInProgress, cb.deleteSyncObj currObjIndex)
  else
    waitForPoolObjLoop isSpawn call currObjIndex cb

variable (cfg)

/-- `_SlDrvRemoveFromList`; the head that the code writes through `ListIndex`
is returned.  `none` is an endless walk. -/
def slDrvRemoveFromList (listIndex itemIndex : ℕ) (cb : PoolCB) :
    Option (ℕ × PoolCB) :=
  if cfg.maxConcurrentActions = cb.next listIndex then
    some (cfg.maxConcurrentActions, cb)
  else if listIndex = itemIndex then
    some (cb.next itemIndex, cb)
  else
    (IndexList.find? cb.next cfg.maxConcurrentActions (fun idx => cb.next idx == itemIndex)
      cfg.maxConcurrentActions listIndex).map fun
      | some idx =>
          (listIndex, cb.modify idx fun obj => { obj with nextIndex := cb.next itemIndex })
      | none => (listIndex, cb)

/-- The test of the wake loop: same action, and either the pending call has no
socket or both calls have the same one. -/
def releasesPending (cb : PoolCB) (objIdx pendingIndex : ℕ) : Bool :=
  let socketOf index := (cb.objPool index).additionalData &&& cfg.slBsdSocketIdMask
  (cb.objPool pendingIndex).actionID == (cb.objPool objIdx).actionID
    && (cfg.slMaxSockets == socketOf pendingIndex
      || (socketOf objIdx < cfg.slMaxSockets && socketOf pendingIndex == socketOf objIdx))

/-- The wake loop of `_SlDrvReleasePoolObj`: the first pending object that
passes the test leaves the list and is signalled. -/
def releasePending (objIdx : ℕ) (cb : PoolCB) : Option PoolCB := do
  match ← IndexList.find? cb.next cfg.maxConcurrentActions (releasesPending cfg cb objIdx)
      cfg.maxConcurrentActions cb.pendingPoolIdx with
  | none => return cb
  | some pendingIndex =>
      let (pendingPoolIdx, cb) ← slDrvRemoveFromList cfg cb.pendingPoolIdx pendingIndex cb
      return { cb with pendingPoolIdx := pendingPoolIdx }.signal pendingIndex

/-- The bit that `_SlDrvReleasePoolObj` tests and clears. -/
def releasedBit (cb : PoolCB) (objIdx : ℕ) : ℕ :=
  if (cb.objPool objIdx).additionalData &&& cfg.slBsdSocketIdMask < cfg.slMaxSockets then
    (cb.objPool objIdx).additionalData &&& cfg.slBsdSocketIdMask
  else (cb.objPool objIdx).actionID

/-- The two early returns of `_SlDrvReleasePoolObj`: the correlated bit is off,
and the object is not one of several SELECT calls. -/
def releaseBitOff (cb : PoolCB) (objIdx : ℕ) : Bool :=
  cb.activeActionsBitmap &&& BitVec.twoPow 32 (releasedBit cfg cb objIdx) == 0
    && ((cb.objPool objIdx).additionalData &&& cfg.slBsdSocketIdMask < cfg.slMaxSockets
      || cfg.selectId != (cb.objPool objIdx).actionID)

/-- The end of `_SlDrvReleasePoolObj`, first part: the bit is cleared and the
data of the call is deleted. -/
def clearCall (objIdx : ℕ) (cb : PoolCB) : PoolCB :=
  let cb := { cb with activeActionsBitmap :=
                cb.activeActionsBitmap &&& ~~~ BitVec.twoPow 32 (releasedBit cfg cb objIdx) }
  cb.modify objIdx fun obj =>
    { obj with pRespArgs := none, actionID := 0, additionalData := cfg.slMaxSockets }

/-- The end of `_SlDrvReleasePoolObj`, second part: the object moves from the
active to the free list. -/
def moveToFree (objIdx : ℕ) (cb : PoolCB) : Option PoolCB := do
  let (activePoolIdx, cb) ← slDrvRemoveFromList cfg cb.activePoolIdx objIdx cb
  let cb := { cb with activePoolIdx := activePoolIdx }
  let cb := cb.modify objIdx fun obj => { obj with nextIndex := cb.freePoolIdx }
  return { cb with freePoolIdx := objIdx
                   apiInProgressCnt := cb.apiInProgressCnt - 1 }

/-- `_SlDrvReleasePoolObj`.  `none` is an endless walk over a list. -/
def slDrvReleasePoolObj (stopInProgress : Bool) (objIdx : ℕ) (cb : PoolCB) :
    Option (ReleaseExit × PoolCB) :=
  if stopInProgress then
    some (.stopped, cb.deleteSyncObj objIdx)
  else do
    let cb ← releasePending cfg objIdx cb
    if releaseBitOff cfg cb objIdx then
      return (.bitOff, cb)
    else
      return (.done, ← moveToFree cfg objIdx (clearCall cfg objIdx cb))

variable {cfg} {cb : PoolCB}

namespace PoolCB

/-- Replace all links of the pool array, and nothing else. -/
def relink (cb : PoolCB) (links : ℕ → ℕ) : PoolCB :=
  { cb with objPool := fun index => { cb.objPool index with nextIndex := links index } }

@[simp]
theorem next_relink (links : ℕ → ℕ) : (cb.relink links).next = links := rfl

theorem relink_next : cb.relink cb.next = cb := rfl

theorem next_modify (index : ℕ) (change : PoolObj → PoolObj) :
    (cb.modify index change).next =
      Function.update cb.next index (change (cb.objPool index)).nextIndex := by
  funext other
  by_cases hother : other = index
  · subst other
    simp [next, modify]
  · simp [next, modify, hother]

/-- Writes to the other fields of an object keep the links. -/
theorem next_modify_of_keep {index : ℕ} {change : PoolObj → PoolObj}
    (hkeep : ∀ obj, (change obj).nextIndex = obj.nextIndex) :
    (cb.modify index change).next = cb.next := by
  rw [next_modify, hkeep]
  exact Function.update_eq_self ..

theorem modify_nextIndex (index value : ℕ) :
    (cb.modify index fun obj => { obj with nextIndex := value }) =
      cb.relink (Function.update cb.next index value) := by
  have hpool : Function.update cb.objPool index
      { cb.objPool index with nextIndex := value } =
      fun other => { cb.objPool other with
        nextIndex := Function.update cb.next index value other } := by
    funext other
    by_cases hother : other = index
    · subst other
      simp
    · simp [hother, next]
  simp only [modify, relink, hpool]

@[simp]
theorem objPool_modify_self (index : ℕ) (change : PoolObj → PoolObj) :
    (cb.modify index change).objPool index = change (cb.objPool index) :=
  Function.update_self ..

theorem objPool_modify_of_ne {index other : ℕ} (hother : other ≠ index)
    (change : PoolObj → PoolObj) :
    (cb.modify index change).objPool other = cb.objPool other :=
  Function.update_of_ne hother ..

theorem modify_congr {index : ℕ} {change change' : PoolObj → PoolObj}
    (hsame : change (cb.objPool index) = change' (cb.objPool index)) :
    cb.modify index change = cb.modify index change' := by
  rw [modify, hsame, modify]

theorem modify_modify (index : ℕ) (change change' : PoolObj → PoolObj) :
    (cb.modify index change).modify index change' =
      cb.modify index fun obj => change' (change obj) := by
  simp [modify]

end PoolCB

/-- Unlinking a member by `_SlDrvRemoveFromList`: the walk ends, the list loses
that member and keeps its order, and no link outside the list is written. -/
theorem slDrvRemoveFromList_spec {listIndex item : ℕ} {items : List ℕ}
    (hlinked : IndexList.Linked cb.next cfg.maxConcurrentActions listIndex items)
    (hitem : item ∈ items) :
    ∃ head links,
      slDrvRemoveFromList cfg listIndex item cb = some (head, cb.relink links) ∧
      IndexList.Linked links cfg.maxConcurrentActions head (items.erase item) ∧
      ∀ index, index ∉ items → links index = cb.next index := by
  obtain ⟨first, rest, rfl⟩ := List.exists_cons_of_ne_nil (List.ne_nil_of_mem hitem)
  obtain ⟨rfl, hlt, hrest⟩ := hlinked
  by_cases hlast : cfg.maxConcurrentActions = cb.next listIndex
  · -- a list of one member: the code does not look at `ItemIndex`
    have hnil : rest = [] := by
      rw [← hlast] at hrest
      exact hrest.unique rfl
    subst rest
    have hsame : item = listIndex := List.mem_singleton.mp hitem
    subst hsame
    exact ⟨cfg.maxConcurrentActions, cb.next, by
      simp [slDrvRemoveFromList, hlast, PoolCB.relink_next], by simp, fun _ _ => rfl⟩
  by_cases hhead : listIndex = item
  · subst hhead
    exact ⟨cb.next listIndex, cb.next, by
      simp [slDrvRemoveFromList, hlast, PoolCB.relink_next], by simpa using hrest,
      fun _ _ => rfl⟩
  have htail : item ∈ rest := (List.mem_cons.mp hitem).resolve_left (Ne.symm hhead)
  obtain ⟨before, pred, after, hsplit⟩ :=
    @IndexList.exists_pred_of_mem_tail listIndex item rest htail
  have hlinked : IndexList.Linked cb.next cfg.maxConcurrentActions listIndex
      (before ++ pred :: item :: after) := by
    rw [← hsplit]
    exact ⟨rfl, hlt, hrest⟩
  have hwalk : IndexList.find? cb.next cfg.maxConcurrentActions
      (fun idx => cb.next idx == item) cfg.maxConcurrentActions listIndex =
        some (some pred) := by
    rw [hlinked.find?_eq hlinked.length_le, hlinked.find?_pred]
  have herase : (listIndex :: rest).erase item = before ++ pred :: after := by
    have hnodup := hlinked.nodup
    rw [hsplit]
    simp only [List.nodup_append, List.nodup_cons, List.mem_cons, List.mem_cons] at hnodup
    have hbefore : item ∉ before := fun hmem => by
      exact hnodup.2.2 item hmem item (by simp) rfl
    have hpred : pred ≠ item := fun heq => hnodup.2.1.1 (Or.inl heq)
    rw [List.erase_append_right _ hbefore, List.erase_cons_tail (by simpa using hpred),
      List.erase_cons_head]
  have hresult : slDrvRemoveFromList cfg listIndex item cb =
      some (listIndex, cb.relink (Function.update cb.next pred (cb.next item))) := by
    simp only [slDrvRemoveFromList, if_neg hlast, if_neg hhead, hwalk, Option.map_some,
      PoolCB.modify_nextIndex]
  have hlinks : IndexList.Linked (Function.update cb.next pred (cb.next item))
      cfg.maxConcurrentActions listIndex ((listIndex :: rest).erase item) := by
    rw [herase]
    exact hlinked.unlink
  have hframe : ∀ index, index ∉ listIndex :: rest →
      Function.update cb.next pred (cb.next item) index = cb.next index := by
    intro index hindex
    apply Function.update_of_ne
    intro heq
    apply hindex
    rw [hsplit, heq]
    simp
  exact ⟨listIndex, _, hresult, hlinks, hframe⟩

/-- `_SlDrvRemoveFromList` ends for a member at any position, and takes it out of the list. -/
theorem slDrvRemoveFromList_unlinks {listIndex item : ℕ} (before after : List ℕ)
    (hlinked : IndexList.Linked cb.next cfg.maxConcurrentActions listIndex
      (before ++ item :: after)) :
    ∃ head cb', slDrvRemoveFromList cfg listIndex item cb = some (head, cb') ∧
      IndexList.Linked cb'.next cfg.maxConcurrentActions head (before ++ after) ∧
      ∀ index, index ∉ before ++ item :: after → cb'.next index = cb.next index := by
  have hmem : item ∈ before ++ item :: after := List.mem_append_right _ List.mem_cons_self
  obtain ⟨head, links, hremoved, hafter, houtside⟩ := slDrvRemoveFromList_spec hlinked hmem
  have hbefore : item ∉ before := fun hitem =>
    (List.nodup_append.mp hlinked.nodup).2.2 item hitem item List.mem_cons_self rfl
  rw [List.erase_append_right _ hbefore, List.erase_cons_head] at hafter
  exact ⟨head, cb.relink links, hremoved, hafter, houtside⟩

/-- The third member of the free list of a pool that is not in use. -/
theorem slDrvRemoveFromList_unlinks_inner :
    ∃ head cb', slDrvRemoveFromList smallConfig 0 2 (slDrvDriverCBInit smallConfig) =
        some (head, cb') ∧
      IndexList.Linked cb'.next 4 head [0, 1, 3] ∧
      ∀ index, index ∉ [0, 1, 2, 3] →
        cb'.next index = (slDrvDriverCBInit smallConfig).next index :=
  slDrvRemoveFromList_unlinks [0, 1] [3] ⟨rfl, by decide, rfl, by decide, rfl, by decide, rfl,
    by decide, rfl⟩

end SimpleLinkHost.Pool
