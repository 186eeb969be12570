import SimpleLinkHost.Driver.SpawnList

/-!
# The pool of stored async events

The build without dynamic memory keeps the events that a command has read in an array, where a
new event takes the first free slot and a pass goes through the slots by index.  The order in
which the stored events are going to be handled is thus a matter of where the pass is, and it
is compared here with the order of the list.
-/

namespace SimpleLinkHost.SpawnPool

open Calls

section System

/-- Where a pass is: at a slot, whose handler runs or not. -/
structure Scan where
  index : ℕ
  handling : Bool
deriving DecidableEq

/-- `AsyncBufPool`, where a free slot has the `ActionIndex` 0xFF, the pass that goes on, and
the record of what has arrived and been handled. -/
structure PoolState where
  pool : ℕ → Option SpawnMsgItem
  scan : Option Scan
  arrived : List SpawnMsgItem
  handled : List SpawnMsgItem

/-- An insertion, or a piece of a pass: it begins, it goes on from a free slot, it calls the
handler for a slot, it frees the slot when the handler has returned, and it ends, which it does
too where the global lock is refused. -/
inductive PoolAct
  | insert (item : SpawnMsgItem)
  | begin
  | skip
  | handle
  | free
  | ends
  | refused

variable (size : ℕ)

/-- `_SlGetStatSpawnListItem`, with `SL_MAX_ASYNC_BUFFERS` for `size` -/
def freeSlot (s : PoolState) : Option ℕ :=
  (List.range size).find? fun index => (s.pool index).isNone

/-- `_SlSpawnMsgListInsert` and `_SlSpawnMsgListProcess` without dynamic memory. -/
def step (s : PoolState) : PoolAct → Option PoolState
  | .insert item =>
      (freeSlot size s).map fun slot =>
        { s with
          pool := Function.update s.pool slot (some item)
          arrived := s.arrived ++ [item] }
  | .begin =>
      match s.scan with
      | none => some { s with scan := some ⟨0, false⟩ }
      | some _ => none
  | .skip =>
      match s.scan with
      | some ⟨index, false⟩ =>
          if index < size ∧ s.pool index = none then
            some { s with scan := some ⟨index + 1, false⟩ }
          else none
      | _ => none
  | .handle =>
      match s.scan with
      | some ⟨index, false⟩ =>
          if index < size then
            (s.pool index).map fun item =>
              { s with scan := some ⟨index, true⟩, handled := s.handled ++ [item] }
          else none
      | _ => none
  | .free =>
      match s.scan with
      | some ⟨index, true⟩ =>
          some { s with
            pool := Function.update s.pool index none
            scan := some ⟨index + 1, false⟩ }
      | _ => none
  | .ends =>
      match s.scan with
      | some ⟨index, false⟩ => if index < size then none else some { s with scan := none }
      | _ => none
  | .refused =>
      match s.scan with
      | some ⟨index, false⟩ =>
          if index < size ∧ (s.pool index).isSome then some { s with scan := none } else none
      | _ => none

def empty : PoolState where
  pool := fun _ => none
  scan := none
  arrived := []
  handled := []

end System

section Property

/-- The slots in the order in which the passes come to them next. -/
def scanOrder (size : ℕ) : Option Scan → List ℕ
  | none => List.range size
  | some ⟨index, false⟩ => List.range' index (size - index) ++ List.range index
  | some ⟨index, true⟩ => List.range' (index + 1) (size - (index + 1)) ++ List.range index

/-- The events that wait for their handlers, in the order of the passes. -/
def waiting (size : ℕ) (s : PoolState) : List SpawnMsgItem :=
  (scanOrder size s.scan).filterMap s.pool

/-- An insertion takes a slot that the passes come to behind all events that wait, and a pass
that is given up leaves none waiting in front of it. -/
def KeepsOrder (size : ℕ) (s : PoolState) : PoolAct → Prop
  | .insert _ => ∀ slot ∈ freeSlot size s,
      ∀ other ∈ (scanOrder size s.scan).dropWhile (· ≠ slot), s.pool other = none
  | .refused => ∀ scan ∈ s.scan, ∀ other < scan.index, s.pool other = none
  | _ => True

end Property

section Invariant

variable {size : ℕ} {s after : PoolState} {act : PoolAct}

/-- What has arrived has been handled or waits, in the order of its arrival. -/
structure Fifo (size : ℕ) (s : PoolState) : Prop where
  arrived : s.arrived = s.handled ++ waiting size s
  index_le : ∀ scan ∈ s.scan, scan.index ≤ size
  handling : ∀ scan ∈ s.scan, scan.handling = true →
    scan.index < size ∧ s.pool scan.index ≠ none

theorem scanOrder_nodup (scan : Option Scan) : (scanOrder size scan).Nodup := by
  have hparts (start index : ℕ) (hstart : index ≤ start) :
      (List.range' start (size - start) ++ List.range index).Nodup := by
    apply List.Nodup.append List.nodup_range' List.nodup_range
    intro slot hlater hearlier
    rw [List.mem_range'_1] at hlater
    rw [List.mem_range] at hearlier
    omega
  cases scan with
  | none => exact List.nodup_range
  | some scan =>
      obtain ⟨index, handling⟩ := scan
      cases handling with
      | false => exact hparts index index le_rfl
      | true => exact hparts (index + 1) index (Nat.le_succ index)

theorem lt_of_mem_scanOrder {scan : Option Scan} {slot : ℕ}
    (hindex : ∀ scan' ∈ scan, scan'.index ≤ size) (hslot : slot ∈ scanOrder size scan) :
    slot < size := by
  cases scan with
  | none => exact List.mem_range.mp hslot
  | some scan =>
      obtain ⟨index, handling⟩ := scan
      have hle : index ≤ size := hindex _ rfl
      cases handling with
      | false =>
          rw [scanOrder, List.mem_append, List.mem_range'_1, List.mem_range] at hslot
          omega
      | true =>
          rw [scanOrder, List.mem_append, List.mem_range'_1, List.mem_range] at hslot
          omega

/-- The free slot is on the way of the passes, since a handler's slot is not free. -/
theorem mem_scanOrder {slot : ℕ} (hslot : slot < size)
    (hscan : ∀ scan ∈ s.scan, scan.handling = true → scan.index ≠ slot) :
    slot ∈ scanOrder size s.scan := by
  cases hs : s.scan with
  | none => exact List.mem_range.mpr hslot
  | some scan =>
      obtain ⟨index, handling⟩ := scan
      cases handling with
      | false =>
          rw [scanOrder, List.mem_append, List.mem_range'_1, List.mem_range]
          omega
      | true =>
          have hne : index ≠ slot := hscan ⟨index, true⟩ hs rfl
          rw [scanOrder, List.mem_append, List.mem_range'_1, List.mem_range]
          omega

theorem filterMap_update {order : List ℕ} {slot : ℕ} {value : Option SpawnMsgItem}
    (hslot : slot ∉ order) :
    order.filterMap (Function.update s.pool slot value) = order.filterMap s.pool := by
  apply List.filterMap_congr
  intro other hother
  have hne : other ≠ slot := fun hsame => hslot (hsame ▸ hother)
  exact Function.update_of_ne hne _ _

theorem filterMap_eq_nil {order : List ℕ} (hfree : ∀ other ∈ order, s.pool other = none) :
    order.filterMap s.pool = [] :=
  List.filterMap_eq_nil_iff.mpr hfree

/-- A new event behind all that wait. -/
theorem waiting_insert {order : List ℕ} {slot : ℕ} (item : SpawnMsgItem) (hnodup : order.Nodup)
    (hslot : slot ∈ order)
    (hfree : ∀ other ∈ order.dropWhile (· ≠ slot), s.pool other = none) :
    order.filterMap (Function.update s.pool slot (some item)) =
      order.filterMap s.pool ++ [item] := by
  obtain ⟨before, rest, rfl, hbefore⟩ := List.eq_append_cons_of_mem hslot
  have hrest : slot ∉ rest := (List.nodup_cons.mp hnodup.of_append_right).1
  have hdrop : (before ++ slot :: rest).dropWhile (· ≠ slot) = slot :: rest := by
    rw [List.dropWhile_append_of_pos, List.dropWhile_cons_of_neg (by simp)]
    intro other hother
    have hne : other ≠ slot := fun hsame => hbefore (hsame ▸ hother)
    simpa using hne
  rw [hdrop, List.forall_mem_cons] at hfree
  simp only [List.filterMap_append, List.filterMap_cons, filterMap_update hbefore,
    filterMap_update hrest, Function.update_self, hfree.1, filterMap_eq_nil hfree.2,
    List.append_nil]

theorem fifo_insert {item : SpawnMsgItem} (hfifo : Fifo size s)
    (hkeeps : KeepsOrder size s (.insert item))
    (hstep : step size s (.insert item) = some after) : Fifo size after := by
  obtain ⟨slot, hslot, hafter⟩ := Option.map_eq_some_iff.mp hstep
  have hfree : s.pool slot = none := by
    simpa using List.find?_some hslot
  have hlt : slot < size := List.mem_range.mp (List.mem_of_find?_eq_some hslot)
  have hne : ∀ scan ∈ s.scan, scan.handling = true → scan.index ≠ slot := by
    intro scan hscan hhandling hsame
    exact (hfifo.handling scan hscan hhandling).2 (hsame ▸ hfree)
  have hwaiting := waiting_insert item (scanOrder_nodup s.scan) (mem_scanOrder hlt hne)
    (hkeeps slot hslot)
  subst hafter
  constructor
  · change s.arrived ++ [item] = s.handled ++ (scanOrder size s.scan).filterMap _
    rw [hwaiting, hfifo.arrived, List.append_assoc]
    rfl
  · exact hfifo.index_le
  · intro scan hscan hhandling
    obtain ⟨hindex, hpool⟩ := hfifo.handling scan hscan hhandling
    have hsame : Function.update s.pool slot (some item) scan.index = s.pool scan.index :=
      Function.update_of_ne (hne scan hscan hhandling) _ _
    exact ⟨hindex, fun hnone => hpool (hsame.symm.trans hnone)⟩

theorem scanOrder_at {index : ℕ} (hindex : index < size) :
    scanOrder size (some ⟨index, false⟩) = index :: scanOrder size (some ⟨index, true⟩) := by
  have hsize : size - index = size - (index + 1) + 1 := by omega
  rw [scanOrder, hsize, List.range'_succ]
  rfl

theorem scanOrder_behind {index : ℕ} :
    scanOrder size (some ⟨index + 1, false⟩) = scanOrder size (some ⟨index, true⟩) ++ [index] := by
  rw [scanOrder, scanOrder, List.range_succ, List.append_assoc]

theorem scanOrder_end : scanOrder size (some ⟨size, false⟩) = List.range size := by
  rw [scanOrder, Nat.sub_self]
  rfl

theorem fifo_skip (hfifo : Fifo size s) (hstep : step size s .skip = some after) :
    Fifo size after := by
  rw [step] at hstep
  split at hstep
  · rename_i index hscan
    split at hstep
    · rename_i hslot
      rw [Option.some.injEq] at hstep
      subst hstep
      constructor
      · have hwaiting := hfifo.arrived
        rw [waiting, hscan, scanOrder_at hslot.1, List.filterMap_cons, hslot.2] at hwaiting
        rw [hwaiting, waiting, scanOrder_behind, List.filterMap_append]
        simp [hslot.2]
      · intro scan hafter
        rw [Option.mem_some_iff] at hafter
        exact hafter ▸ hslot.1
      · intro scan hafter hhandling
        rw [Option.mem_some_iff] at hafter
        subst hafter
        cases hhandling
    · cases hstep
  · cases hstep

theorem fifo_handle (hfifo : Fifo size s) (hstep : step size s .handle = some after) :
    Fifo size after := by
  rw [step] at hstep
  split at hstep
  · rename_i index hscan
    split at hstep
    · rename_i hindex
      obtain ⟨item, hitem, hafter⟩ := Option.map_eq_some_iff.mp hstep
      subst hafter
      constructor
      · have hwaiting := hfifo.arrived
        rw [waiting, hscan, scanOrder_at hindex, List.filterMap_cons, hitem] at hwaiting
        rw [hwaiting, waiting, List.append_assoc]
        rfl
      · intro scan hafter
        rw [Option.mem_some_iff] at hafter
        exact hafter ▸ hindex.le
      · intro scan hafter _
        rw [Option.mem_some_iff] at hafter
        subst hafter
        exact ⟨hindex, by simp [hitem]⟩
    · cases hstep
  · cases hstep

theorem fifo_free (hfifo : Fifo size s) (hstep : step size s .free = some after) :
    Fifo size after := by
  rw [step] at hstep
  split at hstep
  · rename_i index hscan
    rw [Option.some.injEq] at hstep
    subst hstep
    have hindex := (hfifo.handling ⟨index, true⟩ hscan rfl).1
    have hnotin : index ∉ scanOrder size (some ⟨index, true⟩) := by
      have hnodup : (scanOrder size (some ⟨index, false⟩)).Nodup := scanOrder_nodup _
      rw [scanOrder_at hindex] at hnodup
      exact (List.nodup_cons.mp hnodup).1
    constructor
    · have hwaiting := hfifo.arrived
      rw [waiting, hscan] at hwaiting
      rw [hwaiting, waiting, scanOrder_behind, List.filterMap_append, filterMap_update hnotin]
      simp
    · intro scan hafter
      rw [Option.mem_some_iff] at hafter
      exact hafter ▸ hindex
    · intro scan hafter hhandling
      rw [Option.mem_some_iff] at hafter
      subst hafter
      cases hhandling
  · cases hstep

/-- Between two passes the events wait in the order of their slots. -/
theorem fifo_of_idle (hidle : s.scan = none)
    (harrived : s.arrived = s.handled ++ (List.range size).filterMap s.pool) : Fifo size s := by
  constructor
  · rw [waiting, hidle]
    exact harrived
  · intro scan hscan
    rw [hidle] at hscan
    cases hscan
  · intro scan hscan
    rw [hidle] at hscan
    cases hscan

theorem fifo_ends (hfifo : Fifo size s) (hstep : step size s .ends = some after) :
    Fifo size after := by
  rw [step] at hstep
  split at hstep
  · rename_i index hscan
    split at hstep
    · cases hstep
    · rename_i hindex
      rw [Option.some.injEq] at hstep
      subst hstep
      have hsize : index = size :=
        le_antisymm (hfifo.index_le _ hscan) (Nat.le_of_not_lt hindex)
      have hwaiting := hfifo.arrived
      rw [waiting, hscan, hsize, scanOrder_end] at hwaiting
      exact fifo_of_idle rfl hwaiting
  · cases hstep

theorem fifo_refused (hfifo : Fifo size s) (hkeeps : KeepsOrder size s .refused)
    (hstep : step size s .refused = some after) : Fifo size after := by
  rw [step] at hstep
  split at hstep
  · rename_i index hscan
    split at hstep
    · rename_i hindex
      rw [Option.some.injEq] at hstep
      subst hstep
      have hfront : ∀ other ∈ List.range index, s.pool other = none := by
        intro other hother
        exact hkeeps _ hscan other (List.mem_range.mp hother)
      have hrange : List.range size = List.range index ++ List.range' index (size - index) := by
        have hsize : size = index + (size - index) := (Nat.add_sub_of_le hindex.1.le).symm
        rw [List.range_eq_range', List.range_eq_range']
        nth_rewrite 1 [hsize]
        rw [← List.range'_append_1, Nat.zero_add]
      have hwaiting := hfifo.arrived
      rw [waiting, hscan, scanOrder, List.filterMap_append, filterMap_eq_nil hfront,
        List.append_nil] at hwaiting
      apply fifo_of_idle rfl
      rw [hwaiting, hrange, List.filterMap_append, filterMap_eq_nil hfront, List.nil_append]
    · cases hstep
  · cases hstep

theorem fifo_step (hfifo : Fifo size s) (hkeeps : KeepsOrder size s act)
    (hstep : step size s act = some after) : Fifo size after := by
  cases act with
  | insert item => exact fifo_insert hfifo hkeeps hstep
  | skip => exact fifo_skip hfifo hstep
  | handle => exact fifo_handle hfifo hstep
  | free => exact fifo_free hfifo hstep
  | ends => exact fifo_ends hfifo hstep
  | refused => exact fifo_refused hfifo hkeeps hstep
  | begin =>
      rw [step] at hstep
      split at hstep
      · rename_i hscan
        rw [Option.some.injEq] at hstep
        subst hstep
        have hwaiting := hfifo.arrived
        rw [waiting, hscan] at hwaiting
        constructor
        · rw [hwaiting, waiting]
          simp [scanOrder, List.range_eq_range']
        · intro scan hafter
          rw [Option.mem_some_iff] at hafter
          exact hafter ▸ Nat.zero_le size
        · intro scan hafter hhandling
          rw [Option.mem_some_iff] at hafter
          subst hafter
          cases hhandling
      · cases hstep

theorem fifo_empty : Fifo size empty := by
  apply fifo_of_idle rfl
  exact (filterMap_eq_nil fun _ _ => rfl).symm

end Invariant

section Runs

variable {size null : ℕ} {acts : List PoolAct} {listActs : List SpawnList.SpawnAct}
variable {next : ℕ → ℕ} {item : ℕ → SpawnMsgItem} {s : PoolState} {t : SpawnList.SpawnState}

/-- Both builds call the handler for the events in the order of their arrival, and have called
it for the same events where none is stored. -/
structure SameCalls (size null : ℕ) (s : PoolState) (t : SpawnList.SpawnState) : Prop where
  pool : s.handled <+: s.arrived
  list : t.handled.map Prod.snd <+: s.arrived
  same : (∀ index < size, s.pool index = none) → t.spawnMsgList = null →
    s.handled = t.handled.map Prod.snd

theorem fifo_run
    (hsteps : Transition.StepsSatisfy (step size) (KeepsOrder size) empty acts)
    (hrun : Transition.run (step size) empty acts = some s) : Fifo size s := by
  have hfifo : Transition.StatesSatisfy (step size) (Fifo size) empty acts :=
    Transition.states_of_steps (fun _ _ _ hfifo hkeeps hstep => fifo_step hfifo hkeeps hstep)
      fifo_empty hsteps
  exact hfifo acts (List.prefix_refl acts) s hrun

/-- The two builds make the same calls for the same arrivals, in every run of the pool whose
insertions and refusals keep the order. -/
theorem sameCalls_of_keepsOrder
    (hsteps : Transition.StepsSatisfy (step size) (KeepsOrder size) empty acts)
    (hrun : Transition.run (step size) empty acts = some s)
    (hlistSteps : Transition.StepsSatisfy (SpawnList.step null) SpawnList.NotNested
      (SpawnList.empty null next item) listActs)
    (hlistRun : Transition.run (SpawnList.step null) (SpawnList.empty null next item) listActs =
      some t)
    (harrived : t.inserted = s.arrived) : SameCalls size null s t := by
  have hfifo := fifo_run hsteps hrun
  have hsound := SpawnList.sound_of_notNested hlistSteps listActs (List.prefix_refl _) t hlistRun
  constructor
  · rw [hfifo.arrived]
    exact List.prefix_append _ _
  · rw [← harrived]
    exact hsound.handled_prefix
  · intro hpool hlist
    have hwaiting : waiting size s = [] := by
      apply filterMap_eq_nil
      exact fun slot hslot => hpool slot (lt_of_mem_scanOrder hfifo.index_le hslot)
    rw [hsound.handled_eq hlist, harrived, hfifo.arrived, hwaiting, List.append_nil]

/-- The event of an action. -/
def event (actionIndex : ℕ) : SpawnMsgItem := ⟨actionIndex, none, []⟩

def checkKeeps (size : ℕ) (s : PoolState) : PoolAct → Bool
  | .insert _ => (freeSlot size s).all fun slot =>
      ((scanOrder size s.scan).dropWhile (· ≠ slot)).all fun other => (s.pool other).isNone
  | .refused => s.scan.all fun scan =>
      (List.range scan.index).all fun other => (s.pool other).isNone
  | _ => true

theorem keepsOrder_of_check {act : PoolAct} (hcheck : checkKeeps size s act = true) :
    KeepsOrder size s act := by
  cases act with
  | insert item =>
      intro slot hslot other hother
      rw [checkKeeps, Option.mem_def.mp hslot] at hcheck
      have hall : (List.dropWhile (· ≠ slot) (scanOrder size s.scan)).all
          (fun other => (s.pool other).isNone) = true := hcheck
      rw [List.all_eq_true] at hall
      simpa using hall other hother
  | refused =>
      intro scan hscan other hother
      rw [checkKeeps, Option.mem_def.mp hscan] at hcheck
      have hall : (List.range scan.index).all (fun other => (s.pool other).isNone) = true := hcheck
      rw [List.all_eq_true] at hall
      simpa using hall other (List.mem_range.mpr hother)
  | _ => trivial

def checkFlat (s : SpawnList.SpawnState) : SpawnList.SpawnAct → Bool
  | .begin => s.passes.isEmpty
  | _ => true

theorem notNested_of_check {s : SpawnList.SpawnState} {act : SpawnList.SpawnAct}
    (hcheck : checkFlat s act = true) : SpawnList.NotNested s act := by
  intro hbegin
  subst hbegin
  simpa [checkFlat] using hcheck

/-- Another event comes in while the first one is handled. -/
def twoEvents : List PoolAct :=
  [.insert (event 0), .begin, .handle, .insert (event 1), .free, .handle, .free, .skip, .ends]

/-- The same arrivals in the list. -/
def twoListed : List SpawnList.SpawnAct :=
  [.insert 0 (event 0), .begin, .take, .insert 1 (event 1), .free, .ends, .begin, .take, .free,
    .ends]

theorem sameCalls_twoEvents :
    ∃ s t, Transition.run (step 3) empty twoEvents = some s ∧
      Transition.run (SpawnList.step 3) SpawnList.emptyThree twoListed = some t ∧
        SameCalls 3 3 s t := by
  have hsteps : Transition.StepsSatisfy (step 3) (KeepsOrder 3) empty twoEvents :=
    Transition.stepsSatisfy_of_check (checkKeeps 3) (fun _ _ => keepsOrder_of_check) (by decide)
  have hflat : Transition.StepsSatisfy (SpawnList.step 3) SpawnList.NotNested
      SpawnList.emptyThree twoListed :=
    Transition.stepsSatisfy_of_check checkFlat (fun _ _ => notNested_of_check) (by decide)
  exact ⟨_, _, rfl, rfl, sameCalls_of_keepsOrder hsteps rfl hflat rfl rfl⟩

/-- The slot of the first event is taken again before the pass has come to the second one. -/
def fourEvents : List PoolAct :=
  [.insert (event 0), .insert (event 1), .begin, .handle, .free, .insert (event 2),
    .insert (event 3), .handle, .free, .handle, .free, .ends, .begin, .handle, .free, .skip, .skip,
    .ends]

def fourListed : List SpawnList.SpawnAct :=
  [.insert 0 (event 0), .insert 1 (event 1), .begin, .take, .free, .insert 0 (event 2),
    .insert 2 (event 3), .take, .free, .take, .free, .take, .free, .ends]

/-- The pool has the last event handled before the third one. -/
theorem not_sameCalls_fourEvents :
    ∃ s t, Transition.run (step 3) empty fourEvents = some s ∧
      Transition.run (SpawnList.step 3) SpawnList.emptyThree fourListed = some t ∧
        Transition.StepsSatisfy (SpawnList.step 3) SpawnList.NotNested SpawnList.emptyThree
          fourListed ∧
          t.inserted = s.arrived ∧ (∀ index < 3, s.pool index = none) ∧ t.spawnMsgList = 3 ∧
            ¬SameCalls 3 3 s t := by
  have hflat : Transition.StepsSatisfy (SpawnList.step 3) SpawnList.NotNested
      SpawnList.emptyThree fourListed :=
    Transition.stepsSatisfy_of_check checkFlat (fun _ _ => notNested_of_check) (by decide)
  refine ⟨_, _, rfl, rfl, hflat, rfl, ?_, rfl, fun hsame => ?_⟩
  · decide
  · have hindices := hsame.pool.map SpawnMsgItem.actionIndex
    exact absurd hindices (by decide)

end Runs

end SimpleLinkHost.SpawnPool
