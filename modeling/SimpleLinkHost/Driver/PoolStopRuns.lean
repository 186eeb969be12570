import SimpleLinkHost.Driver.PoolStop

/-!
# Runs of the pool across a device stop

Every section and every test of the stop flag keeps the invariant `Tracks`, as long
as the steps behind the release of all objects stay clear of the three lists.  Then
every sync object is deleted once.
-/

namespace SimpleLinkHost.PoolStop

open Pool PoolSlots PoolRelease IndexList KeyedExclusion Transition

variable {cfg : PoolConfig} {T : Type*} {cb : PoolCB}
variable {slots : ℕ → Slot (T × PoolCall cfg)} {index : ℕ}
variable [DecidableEq T] {isSpawn : T → Bool} {s s' : StopSys cfg T} {thread : T}
variable {call : PoolCall cfg}

/-- The condition on the steps behind the release of all objects: no call takes an
object from the free list to keep it, no woken call parks once more, and no thread
that looked at the flag before the stop runs the section of a release. -/
def ClearOfReleaseAll (isSpawn : T → Bool) (s : StopSys cfg T) : StopAct cfg T → Prop
  | .enter thread call => s.releasedAll = true →
      cfg.maxConcurrentActions ≤ s.cb.freePoolIdx ∨
        isSpawn thread = true ∧ actionInProgress s.cb call = true
  | .resume thread => s.releasedAll = true → ∀ call index,
      s.thread thread = .resuming call index → actionInProgress s.cb call = false
  | .release _ => s.releasedAll = false
  | _ => True

theorem Tracks.advance (htracks : Tracks isSpawn s slots) {state : StopThread cfg} {after : PoolCB}
    {slots' : ℕ → Slot (T × PoolCall cfg)} (hrep : Represents after slots')
    (hexclusive : Exclusive slotKey (Shared cfg) slots')
    (hcounted : DeletesCounted cfg after)
    (hnotSpawn : ∀ call index, state = .blocked call index ∨ state = .resuming call index →
      isSpawn thread = false)
    (hobject : ∀ index, ObjectTracks s.releasedAll (Function.update s.thread thread state) index
      (slots' index) (after.objPool index)) :
    Tracks isSpawn (s.advance thread state after) slots' := by
  constructor
  case represents => exact hrep
  case exclusive => exact hexclusive
  case unlocked => exact htracks.unlocked
  case counted => exact hcounted
  case stopped => exact htracks.stopped
  case notSpawn =>
    intro other call index hother
    simp only [StopSys.advance] at hother
    by_cases heq : other = thread
    · rw [heq, Function.update_self] at hother
      rw [heq]
      exact hnotSpawn call index hother
    · rw [Function.update_of_ne heq] at hother
      exact htracks.notSpawn other call index hother
  case object => exact hobject

omit [DecidableEq T] in
theorem exclusive_of_loopResult {held : T × PoolCall cfg} {spawn : Bool} {result : PoolWait}
    {slots' : ℕ → Slot (T × PoolCall cfg)}
    (hresult : LoopResult slots index held spawn result slots')
    (hslot : slots index = .woken held) (hexclusive : Exclusive slotKey (Shared cfg) slots) :
    Exclusive slotKey (Shared cfg) slots' := by
  cases hresult with
  | start hidle => exact hexclusive.advance (.start (Or.inr hslot) hidle)
  | wait hspawn hshared hbusy => exact hexclusive.advance (.park (Or.inr hslot) hshared hbusy)
  | refuse hspawn =>
      apply hexclusive.of_active
      intro place call hactive
      by_cases hplace : place = index
      · rw [hplace, Function.update_self] at hactive
        cases hactive
      · rwa [Function.update_of_ne hplace] at hactive

theorem waitForPoolObjLoop_idle (hidle : actionInProgress cb call = false) (spawn : Bool) :
    (waitForPoolObjLoop spawn call index cb).1 = .obj index := by
  simp [waitForPoolObjLoop, hidle]

theorem waitForPoolObjLoop_refuse (index : ℕ) (hbusy : actionInProgress cb call = true) :
    (waitForPoolObjLoop true call index cb).1 = .error .noObj := by
  simp [waitForPoolObjLoop, hbusy]

/-- One pass of the wait loop with an object that is on no list, from a call that
just took it or just woke. -/
theorem Tracks.loop (htracks : Tracks isSpawn s slots)
    (hbefore : ∀ place, place ≠ index → (s.thread thread).objIdx ≠ some place)
    (hothers : ∀ other, other ≠ thread → (s.thread other).objIdx ≠ some index)
    (hrep : Represents cb (Function.update slots index (.woken (thread, call))))
    (hsame : SameDeletes s.cb cb) (hsignals : SameSignals s.cb cb)
    (hlink : isSpawn thread = true → cb.next index = cb.freePoolIdx ∧ slots index = .free)
    (hquiet : s.releasedAll = false → (s.cb.objPool index).syncObj = false)
    (hfresh : s.releasedAll = false ∨ slots index ≠ .free → deletes s.cb index = 0)
    (hclear : s.releasedAll = true →
      slots index ≠ .free ∧ actionInProgress cb call = false ∨
        isSpawn thread = true ∧ actionInProgress cb call = true) :
    ∃ slots', Tracks isSpawn
      (s.advance thread (waitState call (waitForPoolObjLoop (isSpawn thread) call index cb).1)
        (waitForPoolObjLoop (isSpawn thread) call index cb).2) slots' := by
  have hslot : Function.update slots index (.woken (thread, call)) index
      = .woken (thread, call) := Function.update_self ..
  have hlt : index < cfg.maxConcurrentActions := hrep.lt_of_not_free (by simp)
  have hunlisted : Exclusive slotKey (Shared cfg)
      (Function.update slots index (.woken (thread, call))) := by
    apply htracks.exclusive.of_active
    intro place held hactive
    by_cases hplace : place = index
    · rw [hplace, hslot] at hactive
      cases hactive
    · rwa [Function.update_of_ne hplace] at hactive
  obtain ⟨result, after, slots', hloop, hresult, hafter, hsignalsLoop⟩ :=
    hrep.waitForPoolObjLoop hslot fun hspawn => (hlink hspawn).1
  have hsameLoop : SameDeletes s.cb after := by
    have hstep := @sameDeletes_waitForPoolObjLoop cfg cb index (isSpawn thread) call
    rw [hloop] at hstep
    exact hsame.trans hstep
  have hidle : actionInProgress cb call = false → result = .obj index := by
    intro hprogress
    rw [← waitForPoolObjLoop_idle hprogress (isSpawn thread), hloop]
  have hrefused : isSpawn thread = true → actionInProgress cb call = true →
      result = .error .noObj := by
    intro hspawn hprogress
    rw [← waitForPoolObjLoop_refuse index hprogress, ← hspawn, hloop]
  have hsyncObj : ∀ place, (after.objPool place).syncObj = (s.cb.objPool place).syncObj :=
    fun place => (hsignalsLoop place).trans (hsignals place)
  have hdeletes : ∀ place, (after.objPool place).syncObjDeletes = deletes s.cb place :=
    fun place => congrFun hsameLoop.deletes place
  have hquiet' : s.releasedAll = false → (after.objPool index).syncObj = true →
      ∀ slot : Slot (T × PoolCall cfg), ∃ held, slot = .woken held := by
    intro hreleased hsignal
    rw [hsyncObj, hquiet hreleased] at hsignal
    cases hsignal
  refine ⟨slots', ?_⟩
  rw [hloop]
  apply htracks.advance hafter (exclusive_of_loopResult hresult hslot hunlisted)
    (hsameLoop.counted htracks.counted)
  · intro other place hstate
    cases hresult with
    | start hbusy => simp [waitState] at hstate
    | wait hspawn hshared hbusy => exact hspawn
    | refuse hspawn => simp [waitState] at hstate
  intro place
  by_cases hplace : place = index
  · rw [hplace]
    cases hresult with
    | start hbusy =>
        rw [Function.update_idem, Function.update_self]
        apply ObjectTracks.keep hothers rfl
        · exact rfl
        · rw [hdeletes]
          apply hfresh
          cases hreleased : s.releasedAll with
          | false => exact Or.inl rfl
          | true =>
              rcases hclear hreleased with ⟨hused, -⟩ | ⟨hspawn, hprogress⟩
              · exact Or.inr hused
              · cases hrefused hspawn hprogress
        · exact fun hreleased hsignal => hquiet' hreleased hsignal _
        · simp [waitState]
        · simp [waitState]
    | wait hspawn hshared hbusy =>
        have hreleased : s.releasedAll = false := by
          by_contra hreleased
          rcases hclear (Bool.eq_true_of_not_eq_false hreleased) with
            ⟨-, hprogress⟩ | ⟨hspawn', -⟩
          · cases hidle hprogress
          · rw [hspawn] at hspawn'
            cases hspawn'
        rw [Function.update_idem, Function.update_self]
        apply ObjectTracks.keep hothers rfl
        · exact Or.inl rfl
        · rw [hdeletes]
          exact hfresh (Or.inl hreleased)
        · exact fun hreleased hsignal => hquiet' hreleased hsignal _
        · simp [waitState]
        · simp [hreleased]
    | refuse hspawn =>
        rw [Function.update_idem, Function.update_self]
        apply ObjectTracks.leave hothers rfl
        · intro _
          rw [hdeletes]
          exact (htracks.object index).free hlt (hlink hspawn).2
        · exact fun hslot => absurd rfl hslot
        · exact fun hreleased hsignal => hquiet' hreleased hsignal _
  · have hother : slots' place = slots place := by
      cases hresult <;> simp [hplace]
    have hstate : (waitState call result).objIdx ≠ some place := by
      cases hresult <;> simp [waitState, StopThread.objIdx, Ne.symm hplace]
    rw [hother]
    exact (htracks.object place).frame (hbefore place hplace) hstate (hsyncObj place)
      (hdeletes place)

theorem actionInProgress_congr {after : PoolCB}
    (hbitmap : after.activeActionsBitmap = cb.activeActionsBitmap) :
    actionInProgress after call = actionInProgress cb call := by
  rw [actionInProgress, hbitmap, actionInProgress]

theorem bitmap_takeFreeObj {taken : PoolCB} (htake : takeFreeObj call cb = some (index, taken)) :
    taken.activeActionsBitmap = cb.activeActionsBitmap := by
  rw [takeFreeObj] at htake
  split at htake
  · simp only [Option.some.injEq, Prod.mk.injEq] at htake
    rw [← htake.2]
    split <;> split <;> rfl
  · cases htake

theorem Tracks.enter (htracks : Tracks isSpawn s slots)
    (hclear : ClearOfReleaseAll isSpawn s (.enter thread call))
    (hstep : step isSpawn s (.enter thread call) = some s') :
    ∃ slots', Tracks isSpawn s' slots' := by
  obtain ⟨hnone, rfl⟩ := step_enter hstep
  have hbefore : ∀ place, (s.thread thread).objIdx ≠ some place := by simp [hnone]
  by_cases hlt : s.cb.freePoolIdx < cfg.maxConcurrentActions
  · obtain ⟨taken, htake, hfree, hrep, hlink, hsignals⟩ :=
      htracks.represents.takeFreeObj_spec thread call hlt
    have hwait : slDrvWaitForPoolObj (isSpawn thread) call s.cb =
        waitForPoolObjLoop (isSpawn thread) call s.cb.freePoolIdx taken := by
      simp only [slDrvWaitForPoolObj, htake]
    have hobject := htracks.object s.cb.freePoolIdx
    rw [hwait]
    apply htracks.loop (fun place _ => hbefore place)
      (fun other _ => hobject.nobody_of_free hfree other) hrep (sameDeletes_takeFreeObj htake)
      hsignals (fun _ => ⟨hlink, hfree⟩)
    · intro hreleased
      by_contra hsignal
      obtain ⟨held, hheld⟩ := hobject.onlyWoken hreleased (Bool.eq_true_of_not_eq_false hsignal)
      rw [hfree] at hheld
      cases hheld
    · intro hfresh
      have hdeletes := hobject.free hlt hfree
      rw [hfresh.resolve_right (not_not.mpr hfree)] at hdeletes
      exact hdeletes
    · intro hreleased
      rcases hclear hreleased with hempty | ⟨hspawn, hprogress⟩
      · omega
      · rw [actionInProgress_congr (bitmap_takeFreeObj htake)]
        exact Or.inr ⟨hspawn, hprogress⟩
  · have hwait : slDrvWaitForPoolObj (isSpawn thread) call s.cb = (.error .noObj, s.cb) := by
      simp [slDrvWaitForPoolObj, takeFreeObj, hlt]
    rw [hwait]
    refine ⟨slots, htracks.advance htracks.represents htracks.exclusive htracks.counted ?_ ?_⟩
    · simp [waitState]
    · intro place
      exact (htracks.object place).frame (hbefore place) (by simp [waitState, StopThread.objIdx])
        rfl rfl

/-- A step of a thread that keeps its object, with no list and no deletion changed. -/
theorem Tracks.goOn (htracks : Tracks isSpawn s slots) {state : StopThread cfg} {after : PoolCB}
    (hbefore : (s.thread thread).objIdx = some index) (hstate : state.objIdx = some index)
    (hfits : FitsSlot thread state (slots index)) (hrep : Represents after slots)
    (hsame : SameDeletes s.cb after)
    (hsignals : ∀ place, place ≠ index →
      (after.objPool place).syncObj = (s.cb.objPool place).syncObj)
    (hquiet : (after.objPool index).syncObj = true → (s.cb.objPool index).syncObj = true)
    (hblocked : ∀ call, state ≠ .blocked call index)
    (hresuming : ∀ call, state = .resuming call index →
      isSpawn thread = false ∧ (after.objPool index).syncObj = false) :
    Tracks isSpawn (s.advance thread state after) slots := by
  have hobject := htracks.object index
  have hdeletes : ∀ place, (after.objPool place).syncObjDeletes =
      (s.cb.objPool place).syncObjDeletes := fun place => congrFun hsame.deletes place
  apply htracks.advance hrep htracks.exclusive (hsame.counted htracks.counted)
  · rintro call place (rfl | rfl)
    · cases hstate
      exact absurd rfl (hblocked call)
    · cases hstate
      exact (hresuming call rfl).1
  · intro place
    by_cases hplace : place = index
    · rw [hplace]
      apply ObjectTracks.keep
      · exact hobject.others_of_heldBy (hfits.heldBy hstate)
      · exact hstate
      · exact hfits
      · rw [hdeletes]
        exact hobject.fresh thread hbefore
      · exact fun hreleased hsignal => hobject.onlyWoken hreleased (hquiet hsignal)
      · exact fun call hcall => (hresuming call hcall).2
      · exact fun call hcall => absurd hcall (hblocked call)
    · apply (htracks.object place).frame
      · simp [hbefore, Ne.symm hplace]
      · simp [hstate, Ne.symm hplace]
      · exact hsignals place hplace
      · exact hdeletes place

theorem Tracks.wake (htracks : Tracks isSpawn s slots)
    (hstep : step isSpawn s (.wake thread) = some s') : Tracks isSpawn s' slots := by
  obtain ⟨call, index, hthread, hsignal, rfl⟩ := step_wake hstep
  have hbefore : (s.thread thread).objIdx = some index := by rw [hthread]; rfl
  have hobject := htracks.object index
  have hfits := hobject.fits thread hbefore
  have hconsumed : ((s.cb.modify index fun obj =>
      { obj with syncObj := false }).objPool index).syncObj = false := by simp
  have hslot : s.stopInProgress = false → slots index = .woken (thread, call) := by
    intro hstop
    have hreleased : s.releasedAll = false := by
      by_contra hreleased
      have hstopped := htracks.stopped (Bool.eq_true_of_not_eq_false hreleased)
      rw [hstop] at hstopped
      cases hstopped
    obtain ⟨held, hwoken⟩ := hobject.onlyWoken hreleased hsignal
    rw [hthread] at hfits
    rcases hfits with hpending | hslot
    · rw [hwoken] at hpending
      cases hpending
    · exact hslot
  apply htracks.goOn hbefore
  · split <;> rfl
  · split
    · exact hfits.heldBy hbefore
    · rename_i hstop
      exact hslot (Bool.eq_false_of_not_eq_true hstop)
  · exact htracks.represents.modify (fun _ => rfl) (fun _ => rfl) fun _ => rfl
  · exact SameDeletes.refl.modify fun _ => rfl
  · intro place hplace
    rw [PoolCB.objPool_modify_of_ne hplace]
  · rw [hconsumed]
    simp
  · intro other
    split <;> simp
  · intro other _
    exact ⟨htracks.notSpawn thread call index (Or.inl hthread), hconsumed⟩

theorem Tracks.resume (htracks : Tracks isSpawn s slots)
    (hclear : ClearOfReleaseAll isSpawn s (.resume thread))
    (hstep : step isSpawn s (.resume thread) = some s') :
    ∃ slots', Tracks isSpawn s' slots' := by
  obtain ⟨call, index, hthread, rfl⟩ := step_resume hstep
  have hbefore : (s.thread thread).objIdx = some index := by rw [hthread]; rfl
  have hobject := htracks.object index
  have hslot : slots index = .woken (thread, call) := by
    have hfits := hobject.fits thread hbefore
    rwa [hthread] at hfits
  have hspawn := htracks.notSpawn thread call index (Or.inr hthread)
  apply htracks.loop
  · intro place hplace
    rw [hbefore]
    simp [Ne.symm hplace]
  · exact hobject.others_of_heldBy ⟨call, .inr (.inl hslot)⟩
  · rw [← hslot, Function.update_eq_self]
    exact htracks.represents
  · exact .refl
  · exact fun _ => rfl
  · simp [hspawn]
  · exact fun _ => hobject.consumed thread call hthread
  · exact fun _ => hobject.fresh thread hbefore
  · exact fun hreleased => Or.inl ⟨by simp [hslot], hclear hreleased call index hthread⟩

theorem Tracks.beginRelease (htracks : Tracks isSpawn s slots)
    (hstep : step isSpawn s (.beginRelease thread) = some s') : Tracks isSpawn s' slots := by
  obtain ⟨call, index, hthread, rfl⟩ := step_beginRelease hstep
  have hbefore : (s.thread thread).objIdx = some index := by rw [hthread]; rfl
  have hfits := (htracks.object index).fits thread hbefore
  apply htracks.goOn hbefore
  · split <;> rfl
  · split
    · exact hfits.heldBy hbefore
    · rwa [hthread] at hfits
  · exact htracks.represents
  · exact .refl
  · exact fun _ _ => rfl
  · exact id
  · intro other
    split <;> simp
  · intro other hother
    split at hother <;> cases hother

/-- The section of a release ahead of the release of all objects: the object goes
back to the free list, where it will be deleted. -/
theorem Tracks.release (htracks : Tracks isSpawn s slots)
    (hclear : ClearOfReleaseAll isSpawn s (.release thread))
    (hstep : step isSpawn s (.release thread) = some s') :
    ∃ slots', Tracks isSpawn s' slots' := by
  have hreleased : s.releasedAll = false := hclear
  obtain ⟨call, index, result, hthread, hresult, rfl⟩ := step_release hstep
  have hbefore : (s.thread thread).objIdx = some index := by rw [hthread]; rfl
  have hobject := htracks.object index
  have hslot : slots index = .active (thread, call) := by
    have hfits := hobject.fits thread hbefore
    rwa [hthread] at hfits
  obtain ⟨items, hitems, hmember⟩ := htracks.represents.pending
  obtain ⟨after, hrelease, hrep, hsignals⟩ :=
    slDrvReleasePoolObj_spec htracks.represents htracks.exclusive hslot hitems rfl
  rw [hrelease, Option.some.injEq] at hresult
  have hdone : { s.advance thread .outside result.2 with
      protectionLocked := result.1 == .bitOff } = s.advance thread .outside after := by
    have hunlocked := htracks.unlocked
    cases s
    simp only at hunlocked
    simp [StopSys.advance, hunlocked, ← hresult]
  have hsame := sameDeletes_slDrvReleasePoolObj hrelease
  have hdeletes : ∀ place, (after.objPool place).syncObjDeletes =
      (s.cb.objPool place).syncObjDeletes := fun place => congrFun hsame.deletes place
  generalize hchoice : items.find? (releasesPending cfg s.cb index) = choice at hrep hsignals
  rw [hdone]
  refine ⟨_, htracks.advance hrep (htracks.exclusive.finish index choice)
    (hsame.counted htracks.counted) (by simp) ?_⟩
  intro place
  by_cases hplace : place = index
  · rw [hplace, finish_self]
    apply ObjectTracks.leave
    · exact hobject.others_of_heldBy ⟨call, .inr (.inr hslot)⟩
    · rfl
    · intro _
      rw [hdeletes, hobject.fresh thread hbefore, hreleased]
      rfl
    · exact fun hfree => absurd rfl hfree
    · intro _ hsignal
      rw [hsignals, Bool.or_eq_true] at hsignal
      rcases hsignal with hsignal | hchosen
      · obtain ⟨held, hheld⟩ := hobject.onlyWoken hreleased hsignal
        rw [hslot] at hheld
        cases hheld
      · have hchosen : choice = some index := by simpa using hchosen
        rw [hchosen] at hchoice
        obtain ⟨held, hheld⟩ :=
          htracks.represents.pending_of_mem hitems (List.mem_of_find?_eq_some hchoice)
        rw [hslot] at hheld
        cases hheld
  · have hother : (s.thread thread).objIdx ≠ some place := by simp [hbefore, Ne.symm hplace]
    have hgone : (StopThread.outside : StopThread cfg).objIdx ≠ some place := by
      simp [StopThread.objIdx]
    rw [finish_of_ne hplace]
    by_cases hchosen : choice = some place
    · rw [hchosen] at hchoice
      obtain ⟨held, hheld⟩ :=
        htracks.represents.pending_of_mem hitems (List.mem_of_find?_eq_some hchoice)
      have hpending := (htracks.object place).frame hother hgone rfl rfl
      rw [hheld] at hpending
      rw [hchosen, wake_of_pending hheld, Function.update_self]
      apply hpending.woken
      · simp [hsignals, hchosen]
      · exact hdeletes place
    · rw [wake_of_ne hchosen]
      apply (htracks.object place).frame hother hgone
      · simp [hsignals, hchosen]
      · exact hdeletes place

theorem Tracks.delete (htracks : Tracks isSpawn s slots)
    (hstep : step isSpawn s (.delete thread) = some s') : Tracks isSpawn s' slots := by
  obtain ⟨index, fromWait, hthread, rfl⟩ := step_delete hstep
  have hbefore : (s.thread thread).objIdx = some index := by rw [hthread]; rfl
  have hobject := htracks.object index
  have hheld : HeldBy thread (slots index) := (hobject.fits thread hbefore).heldBy hbefore
  have hlt : index < cfg.maxConcurrentActions :=
    htracks.represents.lt_of_not_free hheld.not_free
  have hstate : (deletedState fromWait : StopThread cfg).objIdx = none := by
    cases fromWait <;> rfl
  have hdeletes : ∀ place, ((s.cb.deleteSyncObj index).objPool place).syncObjDeletes =
      Function.update (deletes s.cb) index (deletes s.cb index + 1) place :=
    fun place => congrFun (deletes_deleteSyncObj s.cb index) place
  apply htracks.advance (PoolFatalError.represents_deleteSyncObj htracks.represents index)
    htracks.exclusive (counted_deleteSyncObj htracks.counted hlt)
  · rintro call place (hblocked | hresuming)
    · rw [hblocked] at hstate
      cases hstate
    · rw [hresuming] at hstate
      cases hstate
  intro place
  by_cases hplace : place = index
  · rw [hplace]
    apply ObjectTracks.leave
    · exact hobject.others_of_heldBy hheld
    · exact hstate
    · exact fun hfree => absurd hfree hheld.not_free
    · intro _
      rw [hdeletes, Function.update_self, deletes, hobject.fresh thread hbefore]
    · rw [PoolFatalError.syncObj_deleteSyncObj]
      exact hobject.onlyWoken
  · apply (htracks.object place).frame
    · simp [hbefore, Ne.symm hplace]
    · simp [hstate]
    · exact PoolFatalError.syncObj_deleteSyncObj s.cb index place
    · rw [hdeletes, Function.update_of_ne hplace]
      rfl

theorem Tracks.setStop (htracks : Tracks isSpawn s slots)
    (hstep : step isSpawn s .setStop = some s') : Tracks isSpawn s' slots := by
  obtain ⟨-, rfl⟩ := step_setStop hstep
  exact ⟨htracks.represents, htracks.exclusive, htracks.unlocked, htracks.counted,
    fun _ => rfl, htracks.notSpawn, htracks.object⟩

theorem Tracks.releaseAll (htracks : Tracks isSpawn s slots)
    (hstep : step isSpawn s .releaseAll = some s') : Tracks isSpawn s' slots := by
  obtain ⟨hstop, hreleased, hunlocked, cb, hcb, rfl⟩ := step_releaseAll hstep
  obtain ⟨after, hafter, hall⟩ :=
    slDrvReleaseAllActivePendingPoolObj_spec htracks.represents
  obtain rfl : cb = after := Option.some.inj (hcb.symm.trans hafter)
  constructor
  case represents => exact hall.represents
  case exclusive => exact htracks.exclusive
  case unlocked => exact hunlocked
  case counted => exact hall.counted htracks.counted
  case stopped => exact fun _ => hstop
  case notSpawn => exact htracks.notSpawn
  case object =>
    intro index
    have hobject := htracks.object index
    constructor
    case fits => exact hobject.fits
    case fresh =>
      intro thread hthread
      have hused := ((hobject.fits thread hthread).heldBy hthread).not_free
      exact (hall.deletes_used index hused).trans (hobject.fresh thread hthread)
    case free =>
      intro hlt hslot
      have hdeletes := hobject.free hlt hslot
      rw [hreleased] at hdeletes
      have hafterDeletes := hall.deletes_free index hlt hslot
      simp only [deletes] at hafterDeletes
      rw [hafterDeletes, hdeletes]
      rfl
    case left =>
      intro hslot hnobody
      exact (hall.deletes_used index hslot).trans (hobject.left hslot hnobody)
    case onlyWoken => exact fun hfalse => by cases hfalse
    case consumed =>
      intro thread call hthread
      have hfits := hobject.fits thread (by rw [hthread]; rfl)
      rw [hthread] at hfits
      exact (hall.signals_woken index _ hfits).trans (hobject.consumed thread call hthread)
    case signalled =>
      intro thread call hthread _
      have hfits := hobject.fits thread (by rw [hthread]; rfl)
      rw [hthread] at hfits
      rcases hfits with hpending | hwoken
      · exact hall.signals_pending index _ hpending
      · exact (hall.signals_woken index _ hwoken).trans
          (hobject.signalled thread call hthread (Or.inr hwoken))

/-- What the steps keep as long as they stay clear of the release of all objects. -/
theorem Tracks.step (htracks : Tracks isSpawn s slots) {act : StopAct cfg T}
    (hclear : ClearOfReleaseAll isSpawn s act) (hstep : step isSpawn s act = some s') :
    ∃ slots', Tracks isSpawn s' slots' := by
  cases act with
  | enter thread call => exact htracks.enter hclear hstep
  | wake thread => exact ⟨slots, htracks.wake hstep⟩
  | resume thread => exact htracks.resume hclear hstep
  | beginRelease thread => exact ⟨slots, htracks.beginRelease hstep⟩
  | release thread => exact htracks.release hclear hstep
  | delete thread => exact ⟨slots, htracks.delete hstep⟩
  | setStop => exact ⟨slots, htracks.setStop hstep⟩
  | releaseAll => exact ⟨slots, htracks.releaseAll hstep⟩

omit [DecidableEq T] in
theorem initial_tracks : Tracks isSpawn (initial cfg T) fun _ => .free := by
  have hconsistent := @PoolSystem.initial_consistent cfg T isSpawn
  constructor
  case represents => exact hconsistent.represents
  case exclusive => exact hconsistent.exclusive
  case unlocked => rfl
  case counted => simp [DeletesCounted, deletes, initial, slDrvDriverCBInit]
  case stopped => simp [initial]
  case notSpawn => simp [initial]
  case object =>
    intro index
    constructor <;> simp [initial, slDrvDriverCBInit, StopThread.objIdx]

/-- No sync object is deleted twice, each is deleted once all objects were released
and no thread uses one any more, and no waiter is left out. -/
structure DeletedOnce (s : StopSys cfg T) : Prop where
  at_most_once : ∀ index < cfg.maxConcurrentActions, deletes s.cb index ≤ 1
  all : s.releasedAll = true → (∀ thread, (s.thread thread).objIdx = none) →
    (∀ index < cfg.maxConcurrentActions, deletes s.cb index = 1) ∧
      s.cb.numOfDeletedSyncObj = cfg.maxConcurrentActions
  waiters_signalled : s.releasedAll = true → ∀ thread call index,
    s.thread thread = .blocked call index → (s.cb.objPool index).syncObj = true

omit [DecidableEq T] in
theorem Tracks.deletedOnce (htracks : Tracks isSpawn s slots) : DeletedOnce s := by
  constructor
  case at_most_once =>
    intro index hlt
    have hobject := htracks.object index
    by_cases hfree : slots index = .free
    · rw [deletes, hobject.free hlt hfree]
      split <;> omega
    by_cases hused : ∃ thread, (s.thread thread).objIdx = some index
    · obtain ⟨thread, hthread⟩ := hused
      rw [deletes, hobject.fresh thread hthread]
      omega
    · exact (hobject.left hfree (not_exists.mp hused)).le
  case all =>
    intro hreleased hnobody
    have hone : ∀ index < cfg.maxConcurrentActions, deletes s.cb index = 1 := by
      intro index hlt
      have hobject := htracks.object index
      by_cases hfree : slots index = .free
      · rw [deletes, hobject.free hlt hfree, if_pos hreleased]
      · exact hobject.left hfree fun thread => by simp [hnobody thread]
    refine ⟨hone, ?_⟩
    calc s.cb.numOfDeletedSyncObj
        = ∑ index ∈ Finset.range cfg.maxConcurrentActions, deletes s.cb index := htracks.counted
      _ = ∑ _index ∈ Finset.range cfg.maxConcurrentActions, 1 :=
          Finset.sum_congr rfl fun index hindex => hone index (Finset.mem_range.mp hindex)
      _ = cfg.maxConcurrentActions := by simp
  case waiters_signalled =>
    intro hreleased thread call index hthread
    exact (htracks.object index).signalled thread call hthread (Or.inl hreleased)

/-- In a run whose steps stay clear of the release of all objects, every sync object
is deleted once and the driver knows it. -/
theorem deletedOnce_of_clear (isSpawn : T → Bool) (acts : List (StopAct cfg T))
    (hclear : StepsSatisfy (step isSpawn) (ClearOfReleaseAll isSpawn) (initial cfg T) acts) :
    StatesSatisfy (step isSpawn) DeletedOnce (initial cfg T) acts := by
  have hstep : ∀ (s : StopSys cfg T) act s', (∃ slots, Tracks isSpawn s slots) →
      ClearOfReleaseAll isSpawn s act →
      step isSpawn s act = some s' → ∃ slots, Tracks isSpawn s' slots :=
    fun _ _ _ ⟨_, htracks⟩ hact hnext => htracks.step hact hnext
  have htracks : StatesSatisfy (step isSpawn) (fun s => ∃ slots, Tracks isSpawn s slots)
      (initial cfg T) acts := states_of_steps hstep ⟨_, initial_tracks⟩ hclear
  intro before hbefore reached hreached
  obtain ⟨slots, hreachedTracks⟩ := htracks before hbefore reached hreached
  exact hreachedTracks.deletedOnce

/-- A receive call on socket 0. -/
def receiveOnSocketZero : PoolCall smallConfig := PoolRuns.receiveCall

/-- One receive is active and another one waits for it when the device is stopped;
both find the stop and delete their sync objects. -/
def stopDuringReceives : List (StopAct smallConfig Bool) :=
  [.enter false receiveOnSocketZero, .enter true receiveOnSocketZero, .setStop, .releaseAll,
    .wake true, .delete true, .beginRelease false, .delete false]

/-- The steps that the condition is about come ahead of the release of all objects. -/
def aheadOfReleaseAll (s : StopSys cfg T) : StopAct cfg T → Bool
  | .enter _ _ | .resume _ | .release _ => !s.releasedAll
  | _ => true

omit [DecidableEq T] in
theorem clear_of_ahead (act : StopAct cfg T) (hahead : aheadOfReleaseAll s act = true) :
    ClearOfReleaseAll isSpawn s act := by
  cases act <;> simp_all [aheadOfReleaseAll, ClearOfReleaseAll]

theorem deletedOnce_stopDuringReceives :
    StatesSatisfy (step fun _ => false) DeletedOnce (initial smallConfig Bool)
      stopDuringReceives :=
  deletedOnce_of_clear _ _
    (stepsSatisfy_of_check aheadOfReleaseAll (fun _ => clear_of_ahead) (by decide))

/-- A receive looks at the flag in its release ahead of the stop and runs the section
behind it. -/
def releaseAcrossStop : List (StopAct smallConfig Bool) :=
  [.enter false receiveOnSocketZero, .beginRelease false, .setStop, .releaseAll,
    .release false]

/-- The object goes to the free list after the walk over that list, so nobody deletes
its sync object. -/
theorem not_deletedOnce_releaseAcrossStop :
    ¬ StatesSatisfy (step fun _ => false) DeletedOnce (initial smallConfig Bool)
      releaseAcrossStop := by
  intro hstates
  have hdeleted := hstates releaseAcrossStop (List.prefix_refl _) _ rfl
  have hnobody := (hdeleted.all rfl fun thread => by cases thread <;> rfl).2
  revert hnobody
  decide

end SimpleLinkHost.PoolStop
