import SimpleLinkHost.Driver.PoolStopRuns

/-!
# The arguments of active calls at a device stop

A call makes its object active in one section under the protection lock and stores
`pRespArgs` in the next.  `_SlDrvReleaseAllActivePendingPoolObj` writes through the
`pRespArgs` of every object on the active list, at whatever instant it gets the lock.
-/

namespace SimpleLinkHost.StopArgs

open Pool PoolSlots PoolRelease PoolStop IndexList KeyedExclusion Transition

variable {cfg : PoolConfig} {T : Type*}

section System

variable (cfg) in
/-- The objects that the first loop of `_SlDrvReleaseAllActivePendingPoolObj` visits. -/
def visitedActive (cb : PoolCB) : List ℕ :=
  (members? cb.next cfg.maxConcurrentActions cfg.maxConcurrentActions cb.activePoolIdx).getD []

/-- The section in which `_SlDrvProtectAsyncRespSetting` and `_SlDrvDataReadOp` store the
pointer, `none` for NULL. -/
def storeRespArgs (objIdx : ℕ) (pRespArgs : Option ℕ) (cb : PoolCB) : PoolCB :=
  cb.modify objIdx fun obj => { obj with pRespArgs := pRespArgs }

structure ArgsSys (cfg : PoolConfig) (T : Type*) where
  pool : StopSys cfg T
  /-- The pointer that the thread has stored for its current call. -/
  stored : T → Option (Option ℕ)
  /-- A call saw the stop in its release and left its object on the active list. -/
  leftActive : Bool

inductive ArgsAct (cfg : PoolConfig) (T : Type*)
  | pool (act : StopAct cfg T)
  | store (thread : T) (pRespArgs : Option ℕ)

def initial (cfg : PoolConfig) (T : Type*) : ArgsSys cfg T where
  pool := PoolStop.initial cfg T
  stored _ := none
  leftActive := false

/-- A call is released only behind the section that stores its pointer. -/
def inOrder (s : ArgsSys cfg T) : StopAct cfg T → Bool
  | .beginRelease thread => (s.stored thread).isSome
  | _ => true

/-- The action ends a call whose release saw the stop. -/
def leavesActive (s : ArgsSys cfg T) : StopAct cfg T → Bool
  | .delete thread =>
      match s.pool.thread thread with
      | .deleting _ fromWait => !fromWait
      | _ => false
  | _ => false

variable [DecidableEq T]

/-- A call that enters has stored nothing yet. -/
def storedBehind (s : ArgsSys cfg T) : StopAct cfg T → T → Option (Option ℕ)
  | .enter thread _ => Function.update s.stored thread none
  | _ => s.stored

def step (isSpawn : T → Bool) (s : ArgsSys cfg T) : ArgsAct cfg T → Option (ArgsSys cfg T)
  | .pool act =>
      if inOrder s act then
        (PoolStop.step isSpawn s.pool act).map fun pool =>
          { pool := pool
            stored := storedBehind s act
            leftActive := s.leftActive || leavesActive s act }
      else none
  | .store thread pRespArgs =>
      match s.pool.thread thread with
      | .active _ objIdx =>
          if s.pool.protectionLocked || (s.stored thread).isSome then none
          else some
            { s with
              pool := { s.pool with cb := storeRespArgs objIdx pRespArgs s.pool.cb }
              stored := Function.update s.stored thread (some pRespArgs) }
      | _ => none

end System

section Property

/-- The object that a call of the thread has made active and not released. -/
def activeObj : StopThread cfg → Option ℕ
  | .active _ objIdx | .releasing _ objIdx | .deleting objIdx false => some objIdx
  | _ => none

/-- Every object that would be visited now has a pointer, and it belongs to the call for
which the object is active. -/
def ArgsReady (s : ArgsSys cfg T) : Prop :=
  ∀ index ∈ visitedActive cfg s.pool.cb, ∃ thread args,
    activeObj (s.pool.thread thread) = some index ∧
      s.stored thread = some (some args) ∧
      (s.pool.cb.objPool index).pRespArgs = some args

/-- Every call that has made its object active has stored a pointer, and no call has left
its object on the active list. -/
structure AllStored (s : ArgsSys cfg T) : Prop where
  stored : ∀ thread index, activeObj (s.pool.thread thread) = some index →
    ∃ args, s.stored thread = some (some args)
  notLeft : s.leftActive = false

/-- The release of all objects finds the arguments of every call it visits. -/
def VisitsArgs (s : ArgsSys cfg T) : ArgsAct cfg T → Prop
  | .pool .releaseAll => ArgsReady s
  | _ => True

/-- The release of all objects comes when every active call has stored its pointer. -/
def StopsBehindStores (s : ArgsSys cfg T) : ArgsAct cfg T → Prop
  | .pool .releaseAll => AllStored s
  | _ => True

end Property

section Visited

variable {cb after : PoolCB} {slots : ℕ → Slot (T × PoolCall cfg)} {index : ℕ}

theorem mem_visitedActive (hrep : Represents cb slots) :
    index ∈ visitedActive cfg cb ↔ ∃ held, slots index = .active held := by
  obtain ⟨items, hitems, hmember⟩ := hrep.active
  rw [visitedActive, hitems.members?_eq hitems.length_le]
  exact hmember index

/-- The first loop goes over the visited objects and ends. -/
theorem walkList_visitedActive (hrep : Represents cb slots) {visit : PoolCB → ℕ → PoolCB}
    (hvisit : ∀ cb index, (visit cb index).next = cb.next) :
    walkList cfg visit cfg.maxConcurrentActions cb.activePoolIdx cb =
      some ((visitedActive cfg cb).foldl visit cb) := by
  obtain ⟨items, hitems, -⟩ := hrep.active
  rw [visitedActive, walkList_eq hvisit hitems hitems.length_le,
    hitems.members?_eq hitems.length_le]
  rfl

/-- Nothing is written into `pRespArgs`. -/
def SameArgs (before after : PoolCB) : Prop :=
  ∀ index, (after.objPool index).pRespArgs = (before.objPool index).pRespArgs

theorem SameArgs.modify (hsame : SameArgs cb after) {change : PoolObj → PoolObj}
    (hchange : ∀ obj, (change obj).pRespArgs = obj.pRespArgs) :
    SameArgs cb (after.modify index change) := by
  intro place
  by_cases hplace : place = index
  · rw [hplace, PoolCB.objPool_modify_self, hchange]
    exact hsame index
  · rw [PoolCB.objPool_modify_of_ne hplace]
    exact hsame place

theorem sameArgs_waitForPoolObjLoop (isSpawn : Bool) (call : PoolCall cfg) :
    SameArgs cb (waitForPoolObjLoop isSpawn call index cb).2 := by
  have hmodify : ∀ change : PoolObj → PoolObj,
      (∀ obj, (change obj).pRespArgs = obj.pRespArgs) → SameArgs cb (cb.modify index change) :=
    fun _ => SameArgs.modify fun _ => rfl
  rw [waitForPoolObjLoop]
  split
  · split
    · exact hmodify (fun obj =>
        { obj with actionID := 0, additionalData := cfg.slMaxSockets }) fun _ => rfl
    · exact hmodify (fun obj => { obj with nextIndex := cb.pendingPoolIdx }) fun _ => rfl
  · exact hmodify (fun obj => { obj with nextIndex := cb.activePoolIdx }) fun _ => rfl

/-- A release deletes the pointer of its own object. -/
theorem args_slDrvReleasePoolObj {result : ReleaseExit × PoolCB}
    (hrelease : slDrvReleasePoolObj cfg false index cb = some result) {place : ℕ}
    (hplace : place ≠ index) :
    (result.2.objPool place).pRespArgs = (cb.objPool place).pRespArgs := by
  simp only [slDrvReleasePoolObj, Bool.false_eq_true, if_false, Option.bind_eq_bind,
    Option.bind_eq_some_iff] at hrelease
  obtain ⟨woken, hwoken, hrest⟩ := hrelease
  have hwake : SameArgs cb woken := fun place => by rw [(relinked_releasePending hwoken).obj]
  split at hrest
  · cases hrest
    exact hwake place
  · rw [Option.bind_eq_some_iff] at hrest
    obtain ⟨after, hmove, hresult⟩ := hrest
    cases hresult
    rw [moveToFree, Option.bind_eq_bind, Option.bind_eq_some_iff] at hmove
    obtain ⟨⟨head, unlinked⟩, hremove, hafter⟩ := hmove
    cases hafter
    have hclear : (clearCall cfg index woken).objPool place = woken.objPool place :=
      Function.update_of_ne hplace ..
    change ((unlinked.modify index fun obj =>
      { obj with nextIndex := unlinked.freePoolIdx }).objPool place).pRespArgs = _
    rw [PoolCB.objPool_modify_of_ne hplace, (relinked_removeFromList hremove).obj, hclear]
    exact hwake place

end Visited

section Moves

variable {before cb after : PoolCB} {slots : ℕ → Slot (T × PoolCall cfg)} {index : ℕ}
  {thread : T} {call : PoolCall cfg}

/-- What a section does to the active list and the pointers, for the object that its
thread has made active before and behind it. -/
inductive ActiveMove (cfg : PoolConfig) (before after : PoolCB) :
    Option ℕ → Option ℕ → Prop
  | stays (held : Option ℕ)
      (hvisited : ∀ index, index ∈ visitedActive cfg after ↔ index ∈ visitedActive cfg before)
      (hargs : SameArgs before after) : ActiveMove cfg before after held held
  | starts (index : ℕ) (hfresh : index ∉ visitedActive cfg before)
      (hvisited : ∀ place,
        place ∈ visitedActive cfg after ↔ place = index ∨ place ∈ visitedActive cfg before)
      (hargs : SameArgs before after) : ActiveMove cfg before after none (some index)
  | ends (index : ℕ)
      (hvisited : ∀ place,
        place ∈ visitedActive cfg after ↔ place ∈ visitedActive cfg before ∧ place ≠ index)
      (hargs : ∀ place, place ≠ index →
        (after.objPool place).pRespArgs = (before.objPool place).pRespArgs) :
      ActiveMove cfg before after (some index) none

namespace ActiveMove

variable {old new : Option ℕ}

theorem mem_new (hmove : ActiveMove cfg before after old new)
    (hold : ∀ index, old = some index → index ∈ visitedActive cfg before)
    (hnew : new = some index) : index ∈ visitedActive cfg after := by
  cases hmove with
  | stays held hvisited hargs => exact (hvisited index).mpr (hold index hnew)
  | starts place hfresh hvisited hargs =>
      rw [Option.some.injEq] at hnew
      exact (hvisited index).mpr (Or.inl hnew.symm)
  | ends place hvisited hargs => cases hnew

theorem mem_of_mem (hmove : ActiveMove cfg before after old new)
    (hindex : index ∈ visitedActive cfg before) (hold : old ≠ some index) :
    index ∈ visitedActive cfg after := by
  cases hmove with
  | stays held hvisited hargs => exact (hvisited index).mpr hindex
  | starts place hfresh hvisited hargs => exact (hvisited index).mpr (Or.inr hindex)
  | ends place hvisited hargs =>
      exact (hvisited index).mpr ⟨hindex, fun heq => hold (congrArg some heq.symm)⟩

theorem new_or_mem (hmove : ActiveMove cfg before after old new)
    (hindex : index ∈ visitedActive cfg after) :
    new = some index ∨ index ∈ visitedActive cfg before ∧ old ≠ some index := by
  cases hmove with
  | stays held hvisited hargs =>
      by_cases hheld : old = some index
      · exact Or.inl hheld
      · exact Or.inr ⟨(hvisited index).mp hindex, hheld⟩
  | starts place hfresh hvisited hargs =>
      rcases (hvisited index).mp hindex with rfl | hbefore
      · exact Or.inl rfl
      · exact Or.inr ⟨hbefore, by simp⟩
  | ends place hvisited hargs =>
      obtain ⟨hbefore, hne⟩ := (hvisited index).mp hindex
      exact Or.inr ⟨hbefore, by simpa using Ne.symm hne⟩

/-- An object that was on the active list was made active before. -/
theorem old_of_new (hmove : ActiveMove cfg before after old new) (hnew : new = some index)
    (hindex : index ∈ visitedActive cfg before) : old = some index := by
  cases hmove with
  | stays held hvisited hargs => exact hnew
  | starts place hfresh hvisited hargs =>
      rw [Option.some.injEq] at hnew
      exact absurd (hnew ▸ hindex) hfresh
  | ends place hvisited hargs => cases hnew

theorem args_eq (hmove : ActiveMove cfg before after old new)
    (hindex : old ≠ some index ∨ new = some index) :
    (after.objPool index).pRespArgs = (before.objPool index).pRespArgs := by
  cases hmove with
  | stays held hvisited hargs => exact hargs index
  | starts place hfresh hvisited hargs => exact hargs index
  | ends place hvisited hargs =>
      rcases hindex with hold | hnew
      · exact hargs index fun heq => hold (congrArg some heq.symm)
      · cases hnew

end ActiveMove

theorem ActiveMove.of_represents (hbefore : Represents before slots)
    (hafter : Represents after slots) (hargs : SameArgs before after) (held : Option ℕ) :
    ActiveMove cfg before after held held := by
  refine .stays held (fun index => ?_) hargs
  rw [mem_visitedActive hafter, mem_visitedActive hbefore]

/-- One pass of the wait loop with an object that is not active. -/
theorem activeMove_waitForPoolObjLoop (hbefore : Represents before slots)
    (hslot : ∀ held, slots index ≠ .active held)
    (hrep : Represents cb (Function.update slots index (.woken (thread, call))))
    (hargs : SameArgs before cb) {isSpawn : Bool}
    (hlink : isSpawn = true → cb.next index = cb.freePoolIdx) :
    ActiveMove cfg before (waitForPoolObjLoop isSpawn call index cb).2 none
      (activeObj (waitState call (waitForPoolObjLoop isSpawn call index cb).1)) := by
  obtain ⟨result, after, slots', hloop, hresult, hafter, -⟩ :=
    hrep.waitForPoolObjLoop (Function.update_self ..) hlink
  have hsame : SameArgs before after := by
    have hpass := @sameArgs_waitForPoolObjLoop cfg cb index isSpawn call
    rw [hloop] at hpass
    exact fun place => (hpass place).trans (hargs place)
  have hinactive : index ∉ visitedActive cfg before := by
    rw [mem_visitedActive hbefore]
    exact fun ⟨held, hheld⟩ => hslot held hheld
  have hvisited : ∀ place, place ∈ visitedActive cfg after ↔ ∃ held, slots' place = .active held :=
    fun _ => mem_visitedActive hafter
  have helsewhere : ∀ slot : Slot (T × PoolCall cfg), (∀ held, slot ≠ .active held) →
      slots' = Function.update slots index slot →
      ∀ place, place ∈ visitedActive cfg after ↔ place ∈ visitedActive cfg before := by
    intro slot hnot hslots place
    rw [hvisited, mem_visitedActive hbefore, hslots]
    by_cases hplace : place = index
    · rw [hplace, Function.update_self]
      simp [hnot, hslot]
    · rw [Function.update_of_ne hplace]
  rw [hloop]
  cases hresult with
  | start hidle =>
      refine .starts index hinactive (fun place => ?_) hsame
      rw [hvisited, mem_visitedActive hbefore, Function.update_idem]
      by_cases hplace : place = index
      · rw [hplace, Function.update_self]
        simp
      · rw [Function.update_of_ne hplace]
        simp [hplace]
  | wait hspawn hshared hbusy =>
      exact .stays none
        (helsewhere (.pending (thread, call)) (by simp) (Function.update_idem ..)) hsame
  | refuse hspawn =>
      exact .stays none (helsewhere .free (by simp) (Function.update_idem ..)) hsame

theorem activeMove_slDrvWaitForPoolObj (hrep : Represents cb slots)
    (thread : T) (call : PoolCall cfg) (isSpawn : Bool) :
    ActiveMove cfg cb (slDrvWaitForPoolObj isSpawn call cb).2 none
      (activeObj (waitState call (slDrvWaitForPoolObj isSpawn call cb).1)) := by
  by_cases hlt : cb.freePoolIdx < cfg.maxConcurrentActions
  · obtain ⟨taken, htake, hfree, htaken, hlink, -⟩ := hrep.takeFreeObj_spec thread call hlt
    have hargs : SameArgs cb taken := by
      have heq := hrep.takeFreeObj_eq call hlt
      rw [htake, Option.some.injEq, Prod.mk.injEq] at heq
      rw [heq.2]
      exact SameArgs.modify (fun _ => rfl) fun _ => rfl
    simp only [slDrvWaitForPoolObj, htake]
    exact activeMove_waitForPoolObjLoop hrep (by simp [hfree]) htaken hargs fun _ => hlink
  · have hwait : slDrvWaitForPoolObj isSpawn call cb = (.error .noObj, cb) := by
      simp [slDrvWaitForPoolObj, takeFreeObj, hlt]
    rw [hwait]
    exact ActiveMove.of_represents hrep hrep (fun _ => rfl) none

theorem activeMove_slDrvReleasePoolObj (hrep : Represents cb slots)
    (hexclusive : Exclusive slotKey (Shared cfg) slots)
    (hactive : slots index = .active (thread, call)) {result : ReleaseExit × PoolCB}
    (hrelease : slDrvReleasePoolObj cfg false index cb = some result) :
    ActiveMove cfg cb result.2 (some index) none := by
  obtain ⟨items, hitems, -⟩ := hrep.pending
  obtain ⟨after, hdone, hafter, -⟩ :=
    slDrvReleasePoolObj_spec hrep hexclusive hactive hitems rfl
  rw [hrelease, Option.some.injEq] at hdone
  refine .ends index (fun place => ?_) fun place => args_slDrvReleasePoolObj hrelease
  rw [hdone, mem_visitedActive hafter, mem_visitedActive hrep]
  simp only [finish_eq_active_iff, exists_and_left, and_comm]

end Moves

section Invariant

variable [DecidableEq T] {isSpawn : T → Bool} {s s' : ArgsSys cfg T} {thread : T}

/-- Ahead of the release of all objects, the active list, the calls and their pointers fit
together. -/
structure Follows (isSpawn : T → Bool) (s : ArgsSys cfg T) : Prop where
  tracks : ∃ slots, Tracks isSpawn s.pool slots
  visited : ∀ thread index, activeObj (s.pool.thread thread) = some index →
    index ∈ visitedActive cfg s.pool.cb
  args : ∀ thread index pRespArgs, activeObj (s.pool.thread thread) = some index →
    s.stored thread = some pRespArgs → (s.pool.cb.objPool index).pRespArgs = pRespArgs
  waiting : ∀ thread call index,
    s.pool.thread thread = .blocked call index ∨ s.pool.thread thread = .resuming call index →
      s.stored thread = none
  owned : s.leftActive = false → ∀ index ∈ visitedActive cfg s.pool.cb,
    ∃ thread, activeObj (s.pool.thread thread) = some index
  left : s.leftActive = true → ∃ index ∈ visitedActive cfg s.pool.cb,
    ∀ thread, activeObj (s.pool.thread thread) ≠ some index

omit [DecidableEq T] in
theorem initial_follows : Follows isSpawn (initial cfg T) where
  tracks := ⟨_, initial_tracks⟩
  visited := by simp [initial, PoolStop.initial, activeObj]
  args := by simp [initial, PoolStop.initial, activeObj]
  waiting := by simp [initial, PoolStop.initial]
  owned := by
    intro _ index hindex
    have hactive := (mem_visitedActive (@initial_tracks cfg T isSpawn).represents).mp hindex
    simp at hactive
  left := by simp [initial]

omit [DecidableEq T] in
theorem objIdx_of_activeObj {state : StopThread cfg} {index : ℕ}
    (hstate : activeObj state = some index) : state.objIdx = some index := by
  unfold activeObj at hstate
  split at hstate <;> simp_all [StopThread.objIdx]

omit [DecidableEq T] in
/-- No two calls have made one object active. -/
theorem Follows.activeObj_unique (hfollows : Follows isSpawn s) {other : T} {index : ℕ}
    (hthread : activeObj (s.pool.thread thread) = some index)
    (hother : activeObj (s.pool.thread other) = some index) : other = thread := by
  obtain ⟨slots, htracks⟩ := hfollows.tracks
  have hobject := htracks.object index
  have hidx := objIdx_of_activeObj hthread
  by_contra hne
  exact hobject.others_of_heldBy ((hobject.fits thread hidx).heldBy hidx) other hne
    (objIdx_of_activeObj hother)

omit [DecidableEq T] in
/-- A release of all objects now would find the arguments of every call it visits exactly
if every active call has stored its pointer and none has left its object behind. -/
theorem Follows.argsReady_iff (hfollows : Follows isSpawn s) : ArgsReady s ↔ AllStored s := by
  constructor
  · intro hready
    constructor
    case stored =>
      intro thread index hthread
      obtain ⟨other, args, hother, hstored, -⟩ :=
        hready index (hfollows.visited thread index hthread)
      rw [hfollows.activeObj_unique hthread hother] at hstored
      exact ⟨args, hstored⟩
    case notLeft =>
      by_contra hleft
      obtain ⟨index, hindex, hnobody⟩ := hfollows.left (Bool.eq_true_of_not_eq_false hleft)
      obtain ⟨thread, -, hthread, -⟩ := hready index hindex
      exact hnobody thread hthread
  · intro hstored index hindex
    obtain ⟨thread, hthread⟩ := hfollows.owned hstored.notLeft index hindex
    obtain ⟨args, hargs⟩ := hstored.stored thread index hthread
    exact ⟨thread, args, hthread, hargs, hfollows.args thread index _ hthread hargs⟩

/-- One thread goes on. -/
theorem Follows.move (hfollows : Follows isSpawn s) {state : StopThread cfg}
    (htracks : ∃ slots, Tracks isSpawn s'.pool slots)
    (hthread : s'.pool.thread = Function.update s.pool.thread thread state)
    (hmove : ActiveMove cfg s.pool.cb s'.pool.cb (activeObj (s.pool.thread thread))
      (activeObj state))
    (hstored : ∀ other, other ≠ thread → s'.stored other = s.stored other)
    (hself : ∀ index, activeObj state = some index → s'.stored thread = none ∨
      activeObj (s.pool.thread thread) = some index ∧ s'.stored thread = s.stored thread)
    (hwaits : ∀ call index, state = .blocked call index ∨ state = .resuming call index →
      s'.stored thread = none)
    (hleftActive : s'.leftActive = s.leftActive) : Follows isSpawn s' := by
  have hat : s'.pool.thread thread = state := by rw [hthread, Function.update_self]
  have hother : ∀ other, other ≠ thread → s'.pool.thread other = s.pool.thread other := by
    intro other hne
    rw [hthread, Function.update_of_ne hne]
  have hfree : ∀ other index, other ≠ thread → activeObj (s.pool.thread other) = some index →
      activeObj (s.pool.thread thread) ≠ some index :=
    fun other index hne hactive hold => hne (hfollows.activeObj_unique hold hactive)
  constructor
  case tracks => exact htracks
  case visited =>
    intro other index hactive
    by_cases hne : other = thread
    · rw [hne, hat] at hactive
      exact hmove.mem_new (hfollows.visited thread) hactive
    · rw [hother other hne] at hactive
      exact hmove.mem_of_mem (hfollows.visited other index hactive)
        (hfree other index hne hactive)
  case args =>
    intro other index pRespArgs hactive hargs
    by_cases hne : other = thread
    · rw [hne, hat] at hactive
      rw [hne] at hargs
      rcases hself index hactive with hnone | ⟨hold, hsame⟩
      · rw [hnone] at hargs
        cases hargs
      · rw [hsame] at hargs
        rw [hmove.args_eq (Or.inr hactive)]
        exact hfollows.args thread index pRespArgs hold hargs
    · rw [hother other hne] at hactive
      rw [hstored other hne] at hargs
      rw [hmove.args_eq (Or.inl (hfree other index hne hactive))]
      exact hfollows.args other index pRespArgs hactive hargs
  case waiting =>
    intro other call index hwaiting
    by_cases hne : other = thread
    · rw [hne, hat] at hwaiting
      rw [hne]
      exact hwaits call index hwaiting
    · rw [hother other hne] at hwaiting
      rw [hstored other hne]
      exact hfollows.waiting other call index hwaiting
  case owned =>
    intro hleft index hindex
    rw [hleftActive] at hleft
    rcases hmove.new_or_mem hindex with hnew | ⟨hbefore, hold⟩
    · exact ⟨thread, by rw [hat, hnew]⟩
    · obtain ⟨owner, howner⟩ := hfollows.owned hleft index hbefore
      have hne : owner ≠ thread := fun heq => hold (heq ▸ howner)
      exact ⟨owner, by rw [hother owner hne, howner]⟩
  case left =>
    intro hleft
    rw [hleftActive] at hleft
    obtain ⟨index, hindex, hnobody⟩ := hfollows.left hleft
    refine ⟨index, hmove.mem_of_mem hindex (hnobody thread), fun other hactive => ?_⟩
    by_cases hne : other = thread
    · rw [hne, hat] at hactive
      exact hnobody thread (hmove.old_of_new hactive hindex)
    · rw [hother other hne] at hactive
      exact hnobody other hactive

theorem Follows.enter {call : PoolCall cfg} (hfollows : Follows isSpawn s)
    (htracks : ∃ slots, Tracks isSpawn s'.pool slots)
    (hstep : PoolStop.step isSpawn s.pool (.enter thread call) = some s'.pool)
    (hstored : s'.stored = Function.update s.stored thread none)
    (hleft : s'.leftActive = s.leftActive) : Follows isSpawn s' := by
  obtain ⟨slots, hbefore⟩ := hfollows.tracks
  obtain ⟨hnone, hpool⟩ := step_enter hstep
  have hold : activeObj (s.pool.thread thread) = none := by
    by_contra hactive
    obtain ⟨index, hindex⟩ := Option.ne_none_iff_exists'.mp hactive
    rw [objIdx_of_activeObj hindex] at hnone
    cases hnone
  have hfresh : s'.stored thread = none := by rw [hstored, Function.update_self]
  apply hfollows.move htracks
  · rw [hpool]
    rfl
  · rw [hpool, hold]
    exact activeMove_slDrvWaitForPoolObj hbefore.represents thread call (isSpawn thread)
  · intro other hne
    rw [hstored, Function.update_of_ne hne]
  · exact fun _ _ => Or.inl hfresh
  · exact fun _ _ _ => hfresh
  · exact hleft

theorem Follows.wake (hfollows : Follows isSpawn s)
    (htracks : ∃ slots, Tracks isSpawn s'.pool slots)
    (hstep : PoolStop.step isSpawn s.pool (.wake thread) = some s'.pool)
    (hstored : s'.stored = s.stored) (hleft : s'.leftActive = s.leftActive) :
    Follows isSpawn s' := by
  obtain ⟨slots, hbefore⟩ := hfollows.tracks
  obtain ⟨call, index, hthread, -, hpool⟩ := step_wake hstep
  have hnone := hfollows.waiting thread call index (Or.inl hthread)
  have hcb : s'.pool.cb = s.pool.cb.modify index fun obj => { obj with syncObj := false } := by
    rw [hpool]
    rfl
  apply hfollows.move htracks
  · rw [hpool]
    rfl
  · have hnew : activeObj (if s.pool.stopInProgress then .deleting index true
        else .resuming call index : StopThread cfg) = none := by split <;> rfl
    rw [hcb, hthread, hnew]
    apply ActiveMove.of_represents hbefore.represents
    · exact hbefore.represents.modify (fun _ => rfl) (fun _ => rfl) fun _ => rfl
    · exact SameArgs.modify (fun _ => rfl) fun _ => rfl
  · exact fun _ _ => congrFun hstored _
  · exact fun _ _ => Or.inl (by rw [hstored, hnone])
  · exact fun _ _ _ => by rw [hstored, hnone]
  · exact hleft

theorem Follows.resume (hfollows : Follows isSpawn s)
    (htracks : ∃ slots, Tracks isSpawn s'.pool slots)
    (hstep : PoolStop.step isSpawn s.pool (.resume thread) = some s'.pool)
    (hstored : s'.stored = s.stored) (hleft : s'.leftActive = s.leftActive) :
    Follows isSpawn s' := by
  obtain ⟨slots, hbefore⟩ := hfollows.tracks
  obtain ⟨call, index, hthread, hpool⟩ := step_resume hstep
  have hnone := hfollows.waiting thread call index (Or.inr hthread)
  have hslot : slots index = .woken (thread, call) := by
    have hfits := (hbefore.object index).fits thread (by rw [hthread]; rfl)
    rwa [hthread] at hfits
  have hspawn := hbefore.notSpawn thread call index (Or.inr hthread)
  apply hfollows.move htracks
  · rw [hpool]
    rfl
  · rw [hpool, hthread]
    apply activeMove_waitForPoolObjLoop hbefore.represents (by simp [hslot])
    · rw [← hslot, Function.update_eq_self]
      exact hbefore.represents
    · exact fun _ => rfl
    · simp [hspawn]
  · exact fun _ _ => congrFun hstored _
  · exact fun _ _ => Or.inl (by rw [hstored, hnone])
  · exact fun _ _ _ => by rw [hstored, hnone]
  · exact hleft

theorem Follows.beginRelease (hfollows : Follows isSpawn s)
    (htracks : ∃ slots, Tracks isSpawn s'.pool slots)
    (hstep : PoolStop.step isSpawn s.pool (.beginRelease thread) = some s'.pool)
    (hstored : s'.stored = s.stored) (hleft : s'.leftActive = s.leftActive) :
    Follows isSpawn s' := by
  obtain ⟨slots, hbefore⟩ := hfollows.tracks
  obtain ⟨call, index, hthread, hpool⟩ := step_beginRelease hstep
  have hold : activeObj (s.pool.thread thread) = some index := by rw [hthread]; rfl
  have hnew : activeObj (if s.pool.stopInProgress then .deleting index false
      else .releasing call index : StopThread cfg) = some index := by split <;> rfl
  apply hfollows.move htracks
  · rw [hpool]
    rfl
  · rw [hpool, hold, hnew]
    exact ActiveMove.of_represents hbefore.represents hbefore.represents (fun _ => rfl) _
  · exact fun _ _ => congrFun hstored _
  · intro place hplace
    exact Or.inr ⟨by rw [hold, ← hnew, hplace], congrFun hstored _⟩
  · intro other place hwaits
    split at hwaits <;> simp at hwaits
  · exact hleft

theorem Follows.release (hfollows : Follows isSpawn s)
    (htracks : ∃ slots, Tracks isSpawn s'.pool slots)
    (hstep : PoolStop.step isSpawn s.pool (.release thread) = some s'.pool)
    (hstored : s'.stored = s.stored) (hleft : s'.leftActive = s.leftActive) :
    Follows isSpawn s' := by
  obtain ⟨slots, hbefore⟩ := hfollows.tracks
  obtain ⟨call, index, result, hthread, hrelease, hpool⟩ := step_release hstep
  have hslot : slots index = .active (thread, call) := by
    have hfits := (hbefore.object index).fits thread (by rw [hthread]; rfl)
    rwa [hthread] at hfits
  apply hfollows.move htracks
  · rw [hpool]
    rfl
  · rw [hpool, hthread]
    exact activeMove_slDrvReleasePoolObj hbefore.represents hbefore.exclusive hslot hrelease
  · exact fun _ _ => congrFun hstored _
  · simp [activeObj]
  · simp
  · exact hleft

/-- The deletion of a sync object.  A call whose release saw the stop leaves its object on
the active list. -/
theorem Follows.delete (hfollows : Follows isSpawn s)
    (htracks : ∃ slots, Tracks isSpawn s'.pool slots)
    (hstep : PoolStop.step isSpawn s.pool (.delete thread) = some s'.pool)
    (hstored : s'.stored = s.stored)
    (hleft : s'.leftActive = (s.leftActive || leavesActive s (.delete thread))) :
    Follows isSpawn s' := by
  obtain ⟨slots, hbefore⟩ := hfollows.tracks
  obtain ⟨index, fromWait, hthread, hpool⟩ := step_delete hstep
  have hcb : s'.pool.cb = s.pool.cb.deleteSyncObj index := by
    rw [hpool]
    rfl
  have hnew : activeObj (deletedState fromWait : StopThread cfg) = none := by
    cases fromWait <;> rfl
  have hmove : ∀ held, ActiveMove cfg s.pool.cb s'.pool.cb held held := by
    rw [hcb]
    apply ActiveMove.of_represents hbefore.represents
    · exact PoolFatalError.represents_deleteSyncObj hbefore.represents index
    · have hdeleted : SameArgs s.pool.cb (s.pool.cb.modify index fun obj =>
          { obj with syncObjDeletes := obj.syncObjDeletes + 1 }) :=
        SameArgs.modify (fun _ => rfl) fun _ => rfl
      exact hdeleted
  cases fromWait with
  | true =>
      apply hfollows.move htracks
      · rw [hpool]
        rfl
      · rw [hthread]
        exact hmove none
      · exact fun _ _ => congrFun hstored _
      · simp [hnew]
      · simp [deletedState]
      · rw [hleft, leavesActive, hthread]
        simp
  | false =>
      have hold : activeObj (s.pool.thread thread) = some index := by rw [hthread]; rfl
      have hgone : s'.pool.thread thread = .outside := by
        rw [hpool]
        exact Function.update_self ..
      have hother : ∀ other, other ≠ thread → s'.pool.thread other = s.pool.thread other := by
        intro other hne
        rw [hpool]
        exact Function.update_of_ne hne ..
      have hstays : ∀ other held, activeObj (s'.pool.thread other) = some held →
          other ≠ thread ∧ activeObj (s.pool.thread other) = some held := by
        intro other held hheld
        have hne : other ≠ thread := by
          intro heq
          rw [heq, hgone] at hheld
          cases hheld
        rw [hother other hne] at hheld
        exact ⟨hne, hheld⟩
      have hleftNow : s'.leftActive = true := by
        rw [hleft, leavesActive, hthread]
        simp
      constructor
      case tracks => exact htracks
      case visited =>
        intro other held hheld
        exact (hmove none).mem_of_mem (hfollows.visited other held (hstays other held hheld).2)
          (by simp)
      case args =>
        intro other held pRespArgs hheld hargs
        rw [hstored] at hargs
        rw [(hmove none).args_eq (Or.inl (by simp))]
        exact hfollows.args other held pRespArgs (hstays other held hheld).2 hargs
      case waiting =>
        intro other call held hwaiting
        have hne : other ≠ thread := by
          intro heq
          rw [heq, hgone] at hwaiting
          simp at hwaiting
        rw [hother other hne] at hwaiting
        rw [hstored]
        exact hfollows.waiting other call held hwaiting
      case owned => simp [hleftNow]
      case left =>
        intro _
        refine ⟨index, (hmove none).mem_of_mem (hfollows.visited thread index hold) (by simp),
          fun other hheld => ?_⟩
        obtain ⟨hne, hactive⟩ := hstays other index hheld
        exact hne (hfollows.activeObj_unique hold hactive)

theorem step_store {pRespArgs : Option ℕ}
    (hstep : step isSpawn s (.store thread pRespArgs) = some s') :
    ∃ call index, s.pool.thread thread = .active call index ∧
      s'.pool = s.pool.advance thread (.active call index)
        (storeRespArgs index pRespArgs s.pool.cb) ∧
      s'.stored = Function.update s.stored thread (some pRespArgs) ∧
      s'.leftActive = s.leftActive := by
  rw [step] at hstep
  split at hstep
  · rename_i call index hthread
    rw [Option.ite_none_left_eq_some, Option.some.injEq] at hstep
    obtain ⟨-, rfl⟩ := hstep
    have hsame : Function.update s.pool.thread thread (.active call index) = s.pool.thread := by
      rw [← hthread, Function.update_eq_self]
    exact ⟨call, index, hthread, by rw [StopSys.advance, hsame], rfl, rfl⟩
  · cases hstep

/-- A call stores its pointer. -/
theorem Follows.store (hfollows : Follows isSpawn s) {pRespArgs : Option ℕ}
    (hstep : step isSpawn s (.store thread pRespArgs) = some s') : Follows isSpawn s' := by
  obtain ⟨slots, hbefore⟩ := hfollows.tracks
  obtain ⟨call, index, hthread, hpool, hstored, hleft⟩ := step_store hstep
  have hold : activeObj (s.pool.thread thread) = some index := by rw [hthread]; rfl
  have hrep : Represents (storeRespArgs index pRespArgs s.pool.cb) slots :=
    hbefore.represents.modify (fun _ => rfl) (fun _ => rfl) fun _ => rfl
  have hthreads : s'.pool.thread = s.pool.thread := by
    rw [hpool, StopSys.advance, ← hthread, Function.update_eq_self]
  have hcb : s'.pool.cb = storeRespArgs index pRespArgs s.pool.cb := by
    rw [hpool]
    rfl
  have hvisited : ∀ place, place ∈ visitedActive cfg s'.pool.cb ↔
      place ∈ visitedActive cfg s.pool.cb := by
    intro place
    rw [hcb, mem_visitedActive hrep, mem_visitedActive hbefore.represents]
  constructor
  case tracks =>
    refine ⟨slots, ?_⟩
    rw [hpool]
    apply hbefore.goOn (objIdx_of_activeObj hold) rfl
    · have hfits := (hbefore.object index).fits thread (objIdx_of_activeObj hold)
      rwa [hthread] at hfits
    · exact hrep
    · exact SameDeletes.refl.modify fun _ => rfl
    · intro place hplace
      rw [storeRespArgs, PoolCB.objPool_modify_of_ne hplace]
    · rw [storeRespArgs, PoolCB.objPool_modify_self]
      exact id
    · simp
    · simp
  case visited =>
    intro other place hactive
    rw [hthreads] at hactive
    exact (hvisited place).mpr (hfollows.visited other place hactive)
  case args =>
    intro other place pointer hactive hargs
    rw [hthreads] at hactive
    rw [hstored] at hargs
    rw [hcb, storeRespArgs]
    by_cases hne : other = thread
    · rw [hne, Function.update_self, Option.some.injEq] at hargs
      rw [hne, hold, Option.some.injEq] at hactive
      rw [← hactive, PoolCB.objPool_modify_self]
      exact hargs
    · rw [Function.update_of_ne hne] at hargs
      have hplace : place ≠ index := by
        intro heq
        rw [heq] at hactive
        exact hne (hfollows.activeObj_unique hold hactive)
      rw [PoolCB.objPool_modify_of_ne hplace]
      exact hfollows.args other place pointer hactive hargs
  case waiting =>
    intro other callOther place hwaiting
    rw [hthreads] at hwaiting
    have hne : other ≠ thread := by
      intro heq
      rw [heq, hthread] at hwaiting
      simp at hwaiting
    rw [hstored, Function.update_of_ne hne]
    exact hfollows.waiting other callOther place hwaiting
  case owned =>
    intro hnotLeft place hplace
    rw [hleft] at hnotLeft
    rw [hthreads]
    exact hfollows.owned hnotLeft place ((hvisited place).mp hplace)
  case left =>
    intro hleftNow
    rw [hleft] at hleftNow
    obtain ⟨place, hplace, hnobody⟩ := hfollows.left hleftNow
    rw [hthreads]
    exact ⟨place, (hvisited place).mpr hplace, hnobody⟩

omit [DecidableEq T] in
theorem clear_of_unreleased {pool : StopSys cfg T} (hreleased : pool.releasedAll = false)
    (act : StopAct cfg T) : ClearOfReleaseAll isSpawn pool act := by
  apply clear_of_ahead
  cases act <;> simp [aheadOfReleaseAll, hreleased]

/-- Once all objects were released they stay so. -/
theorem unreleased_of_step {pool pool' : StopSys cfg T} {act : StopAct cfg T}
    (hstep : PoolStop.step isSpawn pool act = some pool')
    (hreleased : pool'.releasedAll = false) :
    pool.releasedAll = false ∧ act ≠ .releaseAll := by
  cases act with
  | enter thread call =>
      obtain ⟨-, rfl⟩ := step_enter hstep
      exact ⟨hreleased, by simp⟩
  | wake thread =>
      obtain ⟨_, _, -, -, rfl⟩ := step_wake hstep
      exact ⟨hreleased, by simp⟩
  | resume thread =>
      obtain ⟨_, _, -, rfl⟩ := step_resume hstep
      exact ⟨hreleased, by simp⟩
  | beginRelease thread =>
      obtain ⟨_, _, -, rfl⟩ := step_beginRelease hstep
      exact ⟨hreleased, by simp⟩
  | release thread =>
      obtain ⟨_, _, _, -, -, rfl⟩ := step_release hstep
      exact ⟨hreleased, by simp⟩
  | delete thread =>
      obtain ⟨_, _, -, rfl⟩ := step_delete hstep
      exact ⟨hreleased, by simp⟩
  | setStop =>
      obtain ⟨-, rfl⟩ := step_setStop hstep
      exact ⟨hreleased, by simp⟩
  | releaseAll =>
      obtain ⟨-, -, -, cb, -, rfl⟩ := step_releaseAll hstep
      cases hreleased

theorem Follows.setStop (hfollows : Follows isSpawn s)
    (htracks : ∃ slots, Tracks isSpawn s'.pool slots)
    (hstep : PoolStop.step isSpawn s.pool .setStop = some s'.pool)
    (hstored : s'.stored = s.stored) (hleft : s'.leftActive = s.leftActive) :
    Follows isSpawn s' := by
  obtain ⟨-, hpool⟩ := step_setStop hstep
  have hcb : s'.pool.cb = s.pool.cb := by rw [hpool]
  have hthread : s'.pool.thread = s.pool.thread := by rw [hpool]
  constructor
  case tracks => exact htracks
  case visited =>
    rw [hcb, hthread]
    exact hfollows.visited
  case args =>
    rw [hcb, hthread, hstored]
    exact hfollows.args
  case waiting =>
    rw [hthread, hstored]
    exact hfollows.waiting
  case owned =>
    rw [hcb, hthread, hleft]
    exact hfollows.owned
  case left =>
    rw [hcb, hthread, hleft]
    exact hfollows.left

/-- What every step keeps ahead of the release of all objects. -/
theorem Follows.step (hfollows : Follows isSpawn s) {act : ArgsAct cfg T}
    (hstep : step isSpawn s act = some s') (hreleased : s'.pool.releasedAll = false) :
    Follows isSpawn s' := by
  cases act with
  | store thread pRespArgs => exact hfollows.store hstep
  | pool act =>
      rw [StopArgs.step, Option.ite_none_right_eq_some, Option.map_eq_some_iff] at hstep
      obtain ⟨-, pool, hpool, rfl⟩ := hstep
      obtain ⟨hbefore, hact⟩ := unreleased_of_step hpool hreleased
      obtain ⟨slots, hslots⟩ := hfollows.tracks
      have htracks := hslots.step (clear_of_unreleased hbefore act) hpool
      cases act with
      | enter thread call =>
          exact hfollows.enter htracks hpool rfl (by simp [leavesActive])
      | wake thread => exact hfollows.wake htracks hpool rfl (by simp [leavesActive])
      | resume thread => exact hfollows.resume htracks hpool rfl (by simp [leavesActive])
      | beginRelease thread =>
          exact hfollows.beginRelease htracks hpool rfl (by simp [leavesActive])
      | release thread => exact hfollows.release htracks hpool rfl (by simp [leavesActive])
      | delete thread => exact hfollows.delete htracks hpool rfl rfl
      | setStop => exact hfollows.setStop htracks hpool rfl (by simp [leavesActive])
      | releaseAll => exact absurd rfl hact

theorem unreleased_of_argsStep {act : ArgsAct cfg T} (hstep : step isSpawn s act = some s')
    (hreleased : s'.pool.releasedAll = false) :
    s.pool.releasedAll = false ∧ act ≠ .pool .releaseAll := by
  cases act with
  | store thread pRespArgs =>
      obtain ⟨call, index, -, hpool, -⟩ := step_store hstep
      rw [hpool] at hreleased
      exact ⟨hreleased, by simp⟩
  | pool act =>
      rw [step, Option.ite_none_right_eq_some, Option.map_eq_some_iff] at hstep
      obtain ⟨-, pool, hpool, rfl⟩ := hstep
      simpa using unreleased_of_step hpool hreleased

end Invariant

section Runs

variable [DecidableEq T]

/-- The release of all objects finds the arguments of every call it visits, exactly if no
call is then between making its object active and storing a pointer, and no call has left
its object on the active list. -/
theorem visitsArgs_iff (isSpawn : T → Bool) (acts : List (ArgsAct cfg T)) :
    StepsSatisfy (step isSpawn) VisitsArgs (initial cfg T) acts ↔
      StepsSatisfy (step isSpawn) StopsBehindStores (initial cfg T) acts := by
  have hinv : ∀ (s : ArgsSys cfg T) act s',
      (s.pool.releasedAll = false → Follows isSpawn s) → step isSpawn s act = some s' →
        (s'.pool.releasedAll = false → Follows isSpawn s') :=
    fun _ _ _ hfollows hstep hreleased =>
      (hfollows (unreleased_of_argsStep hstep hreleased).1).step hstep hreleased
  refine stepsSatisfy_congr hinv (fun _ => initial_follows) fun s act s' hfollows hstep => ?_
  cases act with
  | store thread pRespArgs => exact Iff.rfl
  | pool act =>
      cases act with
      | releaseAll =>
          apply (hfollows ?_).argsReady_iff
          rw [step, Option.ite_none_right_eq_some, Option.map_eq_some_iff] at hstep
          obtain ⟨-, pool, hpool, -⟩ := hstep
          exact (step_releaseAll hpool).2.1
      | _ => exact Iff.rfl

/-- The device is stopped when a receive has made its object active and not yet stored
its pointer. -/
def stopAheadOfStore : List (ArgsAct smallConfig Unit) :=
  [.pool (.enter () receiveOnSocketZero), .pool .setStop]

/-- The release of all objects visits an object whose pointer is NULL. -/
theorem null_stopAheadOfStore :
    ¬StepsSatisfy (step fun _ => false) VisitsArgs (initial smallConfig Unit)
      (stopAheadOfStore ++ [.pool .releaseAll]) := by
  refine not_stepsSatisfy_of_any
    (fun s => (visitedActive smallConfig s.pool.cb).any fun index =>
      (s.pool.cb.objPool index).pRespArgs == none) (fun s hnull hvisits => ?_) (by decide)
  rw [List.any_eq_true] at hnull
  obtain ⟨index, hindex, hnone⟩ := hnull
  obtain ⟨-, args, -, -, hargs⟩ := hvisits index hindex
  rw [hargs] at hnone
  cases hnone

end Runs

end SimpleLinkHost.StopArgs
