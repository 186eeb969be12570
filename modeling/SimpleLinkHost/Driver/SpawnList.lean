import SimpleLinkHost.Core.IndexList
import SimpleLinkHost.Core.Transition
import SimpleLinkHost.Driver.Calls

/-!
# The list of stored async events

The build with dynamic memory keeps the events that a command has read in a linked list,
which `_SlSpawnMsgListProcess` goes through later.  A pass keeps its own pointer to the next
item while a handler runs, and the handler may call the driver, which begins another pass.
An address is an index below `null`, and an item that has been freed keeps its contents until
its address is given out again.
-/

namespace SimpleLinkHost.SpawnList

open Calls IndexList

section System

/-- The variables of one pass: `pCurr`, and `pLast` while its handler runs. -/
structure Pass where
  curr : ℕ
  last : Option ℕ
deriving DecidableEq

/-- The memory of the list, the passes with the innermost one first, and the record of what
has been inserted, handled and freed. -/
structure SpawnState where
  spawnMsgList : ℕ
  next : ℕ → ℕ
  item : ℕ → SpawnMsgItem
  /-- Which insertion an item comes from. -/
  number : ℕ → ℕ
  allocated : ℕ → Bool
  passes : List Pass
  inserted : List SpawnMsgItem
  handled : List (ℕ × SpawnMsgItem)
  freed : List ℕ

/-- An insertion, for which `sl_Malloc` gives an address, or a piece of a pass: it begins, it
takes an item and calls the handler, the handler has returned and the item is freed, and it
ends, which it does too where the global lock is refused. -/
inductive SpawnAct
  | insert (addr : ℕ) (item : SpawnMsgItem)
  | begin
  | take
  | free
  | ends
  | refused

variable (null : ℕ)

/-- A new item behind the others; the walk to the last one does not end on a list with a
cycle. -/
def appendItem (addr : ℕ) (s : SpawnState) : Option SpawnState :=
  if s.spawnMsgList < null then
    match find? s.next null (fun idx => s.next idx == null) null s.spawnMsgList with
    | some (some last) => some { s with next := Function.update s.next last addr }
    | _ => none
  else some { s with spawnMsgList := addr }

/-- `_SlSpawnMsgListInsert` and `_SlSpawnMsgListProcess` with dynamic memory. -/
def step (s : SpawnState) : SpawnAct → Option SpawnState
  | .insert addr item =>
      if addr < null ∧ s.allocated addr = false then
        appendItem null addr
          { s with
            next := Function.update s.next addr null
            item := Function.update s.item addr item
            number := Function.update s.number addr s.inserted.length
            allocated := Function.update s.allocated addr true
            inserted := s.inserted ++ [item] }
      else none
  | .begin =>
      if s.passes.head?.all fun pass => pass.last.isSome then
        some { s with passes := ⟨s.spawnMsgList, none⟩ :: s.passes }
      else none
  | .take =>
      match s.passes with
      | ⟨curr, none⟩ :: outer =>
          if curr < null then
            some { s with
              handled := s.handled ++ [(s.number curr, s.item curr)]
              spawnMsgList := s.next curr
              passes := ⟨s.next curr, some curr⟩ :: outer }
          else none
      | _ => none
  | .free =>
      match s.passes with
      | ⟨curr, some last⟩ :: outer =>
          some { s with
            allocated := Function.update s.allocated last false
            freed := s.freed ++ [s.number last]
            passes := ⟨curr, none⟩ :: outer }
      | _ => none
  | .ends =>
      match s.passes with
      | ⟨curr, none⟩ :: outer => if curr < null then none else some { s with passes := outer }
      | _ => none
  | .refused =>
      match s.passes with
      | ⟨curr, none⟩ :: outer => if curr < null then some { s with passes := outer } else none
      | _ => none

/-- The list as the driver is initialized, over a memory with any contents. -/
def empty (next : ℕ → ℕ) (item : ℕ → SpawnMsgItem) : SpawnState where
  spawnMsgList := null
  next := next
  item := item
  number := fun _ => 0
  allocated := fun _ => false
  passes := []
  inserted := []
  handled := []
  freed := []

end System

section Property

/-- Each message has been handed to the handler at most once, with its own contents and in
the order of the insertions, and its item has been freed at most once. -/
structure HandledOnce (s : SpawnState) : Prop where
  inOrder : (s.handled.map Prod.fst).Pairwise (· < ·)
  own : ∀ call ∈ s.handled, s.inserted[call.1]? = some call.2
  freedOnce : s.freed.Nodup

/-- No pass takes an item while another one that goes on behind it holds a next item. -/
def NothingHeld (null : ℕ) (s : SpawnState) (act : SpawnAct) : Prop :=
  act = .take → ∀ pass ∈ s.passes.tail, pass.curr = null

end Property

section Steps

variable {null : ℕ} {s after : SpawnState}

theorem appendItem_passes {addr : ℕ} (hstep : appendItem null addr s = some after) :
    after.passes = s.passes := by
  rw [appendItem] at hstep
  split at hstep
  · split at hstep
    · rw [Option.some.injEq] at hstep
      exact hstep ▸ rfl
    · cases hstep
  · rw [Option.some.injEq] at hstep
    exact hstep ▸ rfl

theorem step_insert {addr : ℕ} {item : SpawnMsgItem}
    (hstep : step null s (.insert addr item) = some after) :
    addr < null ∧ s.allocated addr = false ∧
      appendItem null addr
        { s with
          next := Function.update s.next addr null
          item := Function.update s.item addr item
          number := Function.update s.number addr s.inserted.length
          allocated := Function.update s.allocated addr true
          inserted := s.inserted ++ [item] } = some after := by
  rw [step, Option.ite_none_right_eq_some] at hstep
  exact ⟨hstep.1.1, hstep.1.2, hstep.2⟩

theorem step_begin (hstep : step null s .begin = some after) :
    s.passes.head?.all (fun pass => pass.last.isSome) = true ∧
      after = { s with passes := ⟨s.spawnMsgList, none⟩ :: s.passes } := by
  rw [step, Option.ite_none_right_eq_some, Option.some.injEq] at hstep
  exact ⟨hstep.1, hstep.2.symm⟩

theorem step_take (hstep : step null s .take = some after) :
    ∃ curr outer, s.passes = ⟨curr, none⟩ :: outer ∧ curr < null ∧
      after = { s with
        handled := s.handled ++ [(s.number curr, s.item curr)]
        spawnMsgList := s.next curr
        passes := ⟨s.next curr, some curr⟩ :: outer } := by
  rw [step] at hstep
  split at hstep
  · rename_i curr outer hpasses
    rw [Option.ite_none_right_eq_some, Option.some.injEq] at hstep
    exact ⟨curr, outer, hpasses, hstep.1, hstep.2.symm⟩
  · cases hstep

theorem step_free (hstep : step null s .free = some after) :
    ∃ curr last outer, s.passes = ⟨curr, some last⟩ :: outer ∧
      after = { s with
        allocated := Function.update s.allocated last false
        freed := s.freed ++ [s.number last]
        passes := ⟨curr, none⟩ :: outer } := by
  rw [step] at hstep
  split at hstep
  · rename_i curr last outer hpasses
    rw [Option.some.injEq] at hstep
    exact ⟨curr, last, outer, hpasses, hstep.symm⟩
  · cases hstep

theorem step_ends (hstep : step null s .ends = some after) :
    ∃ curr outer, s.passes = ⟨curr, none⟩ :: outer ∧ ¬curr < null ∧
      after = { s with passes := outer } := by
  rw [step] at hstep
  split at hstep
  · rename_i curr outer hpasses
    rw [Option.ite_none_left_eq_some, Option.some.injEq] at hstep
    exact ⟨curr, outer, hpasses, hstep.1, hstep.2.symm⟩
  · cases hstep

theorem step_refused (hstep : step null s .refused = some after) :
    ∃ curr outer, s.passes = ⟨curr, none⟩ :: outer ∧ curr < null ∧
      after = { s with passes := outer } := by
  rw [step] at hstep
  split at hstep
  · rename_i curr outer hpasses
    rw [Option.ite_none_right_eq_some, Option.some.injEq] at hstep
    exact ⟨curr, outer, hpasses, hstep.1, hstep.2.symm⟩
  · cases hstep

end Steps

section Invariant

variable {null : ℕ} {s after : SpawnState} {act : SpawnAct} {acts : List SpawnAct}

/-- The items whose handlers run. -/
def running (passes : List Pass) : List ℕ := passes.filterMap Pass.last

/-- What is stored is what has been inserted and not yet handled, in order; every item is
stored, or its handler runs, or it has been freed. -/
structure Stores (null : ℕ) (s : SpawnState) (items : List ℕ) : Prop where
  linked : Linked s.next null s.spawnMsgList items
  numbers : s.handled.map Prod.fst ++ items.map s.number = List.range s.inserted.length
  own : ∀ call ∈ s.handled, s.inserted[call.1]? = some call.2
  contents : ∀ addr, s.allocated addr = true → s.inserted[s.number addr]? = some (s.item addr)
  allocated_iff : ∀ addr, s.allocated addr = true ↔ addr ∈ items ++ running s.passes
  conserved : ((items ++ running s.passes).map s.number ++ s.freed).Perm
    (List.range s.inserted.length)
  current : ∀ pass ∈ s.passes, pass.curr = null ∨ pass.curr = s.spawnMsgList

def Sound (null : ℕ) (s : SpawnState) : Prop := ∃ items, Stores null s items

theorem Sound.handledOnce (hsound : Sound null s) : HandledOnce s := by
  obtain ⟨items, hstores⟩ := hsound
  have hsorted : (s.handled.map Prod.fst ++ items.map s.number).Pairwise (· < ·) := by
    rw [hstores.numbers]
    exact List.pairwise_lt_range
  have hnodup : ((items ++ running s.passes).map s.number ++ s.freed).Nodup :=
    hstores.conserved.nodup_iff.mpr List.nodup_range
  exact
    { inOrder := (List.pairwise_append.mp hsorted).1
      own := hstores.own
      freedOnce := hnodup.of_append_right }

variable {items : List ℕ}

theorem Stores.held_nodup (hstores : Stores null s items) : (items ++ running s.passes).Nodup := by
  have hnodup : ((items ++ running s.passes).map s.number ++ s.freed).Nodup :=
    hstores.conserved.nodup_iff.mpr List.nodup_range
  exact List.Nodup.of_map _ hnodup.of_append_left

theorem map_number_update {addr number : ℕ} (hfresh : addr ∉ items) :
    items.map (Function.update s.number addr number) = items.map s.number := by
  apply List.map_congr_left
  intro other hother
  have hne : other ≠ addr := fun hsame => hfresh (hsame ▸ hother)
  exact Function.update_of_ne hne _ _

theorem getElem?_of_append {inserted : List SpawnMsgItem} {item new : SpawnMsgItem} {index : ℕ}
    (hitem : inserted[index]? = some item) : (inserted ++ [new])[index]? = some item := by
  rw [List.getElem?_append_left (List.getElem?_eq_some_iff.mp hitem).1]
  exact hitem

theorem appendItem_eq (addr : ℕ) :
    appendItem null addr s = (append? s.next null s.spawnMsgList addr).map fun links =>
      { s with next := links.1, spawnMsgList := links.2 } := by
  rw [appendItem, append?]
  split
  · cases find? s.next null (fun idx => s.next idx == null) null s.spawnMsgList with
    | none => rfl
    | some found =>
        cases found with
        | none => rfl
        | some last => rfl
  · rfl

/-- A new item behind a list of items: the list is one longer, and its head stays unless it
was empty. -/
theorem appendItem_cases {addr : ℕ} (hlinked : Linked s.next null s.spawnMsgList items)
    (haddr : addr < null) (hfresh : addr ∉ items) (hnext : s.next addr = null)
    (hstep : appendItem null addr s = some after) :
    ∃ next head, Linked next null head (items ++ [addr]) ∧
      (s.spawnMsgList = null ∨ head = s.spawnMsgList) ∧
      after = { s with next := next, spawnMsgList := head } := by
  obtain ⟨next, head, happend, hafter, hhead⟩ := hlinked.append?_eq haddr hfresh hnext
  rw [appendItem_eq, happend, Option.map_some, Option.some.injEq] at hstep
  exact ⟨next, head, hafter, hhead, hstep.symm⟩

/-- The new item behind the stored ones. -/
theorem stores_insert {addr : ℕ} {item : SpawnMsgItem} (hstores : Stores null s items)
    (hstep : step null s (.insert addr item) = some after) :
    Stores null after (items ++ [addr]) := by
  obtain ⟨haddr, hfree, happend⟩ := step_insert hstep
  have hfresh : addr ∉ items ++ running s.passes := by
    rw [← hstores.allocated_iff, hfree]
    decide
  have hitems : addr ∉ items := fun hmem => hfresh (List.mem_append_left _ hmem)
  have hnext : Function.update s.next addr null addr = null := Function.update_self ..
  have hstored := appendItem_cases (hstores.linked.update_of_not_mem hitems) haddr hitems
    hnext happend
  obtain ⟨next, head, hafter, hhead, rfl⟩ := hstored
  have hnumbers : ∀ held : List ℕ, addr ∉ held →
      held.map (Function.update s.number addr s.inserted.length) = held.map s.number :=
    fun held hheld => map_number_update hheld
  have hrunning : addr ∉ running s.passes := fun hmem => hfresh (List.mem_append_right _ hmem)
  constructor
  · exact hafter
  · simp only [List.map_append, hnumbers items hitems, List.map_cons, List.map_nil,
      Function.update_self, List.length_append, List.length_singleton, List.range_succ]
    rw [← hstores.numbers, List.append_assoc]
  · exact fun call hcall => getElem?_of_append (hstores.own call hcall)
  · intro other hother
    by_cases hsame : other = addr
    · subst hsame
      simp
    · simp only [Function.update_of_ne hsame] at hother ⊢
      exact getElem?_of_append (hstores.contents other hother)
  · intro other
    by_cases hsame : other = addr
    · subst hsame
      simp
    · simp only [Function.update_of_ne hsame]
      rw [hstores.allocated_iff]
      simp [hsame]
  · simp only [List.map_append, hnumbers items hitems, hnumbers _ hrunning, List.map_cons,
      List.map_nil, Function.update_self, List.length_append, List.length_singleton,
      List.range_succ]
    have hconserved := hstores.conserved
    rw [List.map_append] at hconserved
    calc items.map s.number ++ [s.inserted.length] ++ (running s.passes).map s.number ++ s.freed
        = items.map s.number ++
            s.inserted.length :: ((running s.passes).map s.number ++ s.freed) := by simp
      _ |>.Perm (s.inserted.length ::
            (items.map s.number ++ ((running s.passes).map s.number ++ s.freed))) :=
          List.perm_middle
      _ |>.Perm (s.inserted.length :: List.range s.inserted.length) := by
          rw [← List.append_assoc]
          exact hconserved.cons _
      _ |>.Perm (List.range s.inserted.length ++ [s.inserted.length]) :=
          (List.perm_append_singleton _ _).symm
  · intro pass hpass
    cases hhead with
    | inl hempty =>
        exact .inl ((hstores.current pass hpass).elim id fun hcurr => hcurr.trans hempty)
    | inr hsame =>
        exact (hstores.current pass hpass).imp id fun hcurr => hcurr.trans hsame.symm

/-- The first stored item goes to its handler. -/
theorem sound_take {curr : ℕ} {outer : List Pass} (hsound : Sound null s)
    (hpasses : s.passes = ⟨curr, none⟩ :: outer) (hcurr : curr < null)
    (hnothing : ∀ pass ∈ outer, pass.curr = null) :
    Sound null { s with
      handled := s.handled ++ [(s.number curr, s.item curr)]
      spawnMsgList := s.next curr
      passes := ⟨s.next curr, some curr⟩ :: outer } := by
  obtain ⟨items, hstores⟩ := hsound
  have hhead : curr = s.spawnMsgList := by
    have hcurrent := hstores.current ⟨curr, none⟩ (by rw [hpasses]; exact List.mem_cons_self)
    exact hcurrent.resolve_left (Nat.ne_of_lt hcurr)
  obtain ⟨rest, hitems, hrest⟩ := hstores.linked.exists_cons (hhead ▸ hcurr)
  rw [← hhead] at hitems hrest
  subst hitems
  have hrunning : running s.passes = running outer := by
    rw [hpasses]
    rfl
  have hallocated : s.allocated curr = true := by
    rw [hstores.allocated_iff]
    exact List.mem_cons_self
  refine ⟨rest, ?_⟩
  constructor
  · exact hrest
  · rw [← hstores.numbers]
    simp
  · intro call hcall
    rw [List.mem_append, List.mem_singleton] at hcall
    cases hcall with
    | inl hcall => exact hstores.own call hcall
    | inr hcall =>
        rw [hcall]
        exact hstores.contents curr hallocated
  · exact hstores.contents
  · intro addr
    rw [hstores.allocated_iff, hrunning]
    change _ ↔ addr ∈ rest ++ curr :: running outer
    rw [List.cons_append, List.mem_cons, List.mem_append, List.mem_append, List.mem_cons]
    exact or_left_comm
  · have hconserved := hstores.conserved
    rw [hrunning, List.cons_append] at hconserved
    have hmoved : (rest ++ curr :: running outer).Perm (curr :: (rest ++ running outer)) :=
      List.perm_middle
    exact ((hmoved.map s.number).append_right s.freed).trans hconserved
  · intro pass hpass
    cases List.mem_cons.mp hpass with
    | inl hsame =>
        rw [hsame]
        exact .inr rfl
    | inr houter => exact .inl (hnothing pass houter)

/-- The item whose handler has returned is freed. -/
theorem sound_free {curr last : ℕ} {outer : List Pass} (hsound : Sound null s)
    (hpasses : s.passes = ⟨curr, some last⟩ :: outer) :
    Sound null { s with
      allocated := Function.update s.allocated last false
      freed := s.freed ++ [s.number last]
      passes := ⟨curr, none⟩ :: outer } := by
  obtain ⟨items, hstores⟩ := hsound
  have hrunning : running s.passes = last :: running outer := by
    rw [hpasses]
    rfl
  have hnodup := hstores.held_nodup
  rw [hrunning, List.nodup_middle] at hnodup
  have hlast := (List.nodup_cons.mp hnodup).1
  refine ⟨items, ?_⟩
  constructor
  · exact hstores.linked
  · exact hstores.numbers
  · exact hstores.own
  · intro addr haddr
    by_cases hsame : addr = last
    · subst hsame
      simp at haddr
    · simp only [Function.update_of_ne hsame] at haddr
      exact hstores.contents addr haddr
  · intro addr
    change _ ↔ addr ∈ items ++ running outer
    by_cases hsame : addr = last
    · subst hsame
      simpa using hlast
    · simp only [Function.update_of_ne hsame]
      rw [hstores.allocated_iff, hrunning, List.mem_append, List.mem_cons, List.mem_append]
      simp [hsame]
  · have hconserved := hstores.conserved
    rw [hrunning] at hconserved
    have hmoved : (items ++ last :: running outer).Perm (last :: (items ++ running outer)) :=
      List.perm_middle
    have hfreed := ((hmoved.map s.number).append_right s.freed).symm.trans hconserved
    have hlater : ((items ++ running outer).map s.number ++ (s.freed ++ [s.number last])).Perm
        (s.number last :: ((items ++ running outer).map s.number ++ s.freed)) := by
      rw [← List.append_assoc]
      exact List.perm_append_singleton _ _
    exact hlater.trans hfreed
  · have hcurrent := hstores.current
    rw [hpasses, List.forall_mem_cons] at hcurrent
    exact List.forall_mem_cons.mpr hcurrent

/-- A pass that runs no handler begins or ends. -/
theorem sound_passes {passes : List Pass} (hsound : Sound null s)
    (hrunning : running passes = running s.passes)
    (hcurrent : ∀ pass ∈ passes, pass ∈ s.passes ∨ pass.curr = s.spawnMsgList) :
    Sound null { s with passes := passes } := by
  obtain ⟨items, hstores⟩ := hsound
  exact ⟨items,
    { hstores with
      allocated_iff := fun addr => by rw [hstores.allocated_iff, ← hrunning]
      conserved := by
        change ((items ++ running passes).map s.number ++ s.freed).Perm _
        rw [hrunning]
        exact hstores.conserved
      current := fun pass hpass => (hcurrent pass hpass).elim (hstores.current pass) .inr }⟩

theorem sound_ends {curr : ℕ} {outer : List Pass} (hsound : Sound null s)
    (hpasses : s.passes = ⟨curr, none⟩ :: outer) : Sound null { s with passes := outer } := by
  apply sound_passes hsound
  · rw [hpasses]
    rfl
  · intro pass hpass
    rw [hpasses]
    exact .inl (List.mem_cons_of_mem _ hpass)

theorem sound_step (hsound : Sound null s) (hnothing : NothingHeld null s act)
    (hstep : step null s act = some after) : Sound null after := by
  cases act with
  | insert addr item =>
      obtain ⟨items, hstores⟩ := hsound
      exact ⟨_, stores_insert hstores hstep⟩
  | begin =>
      obtain ⟨-, rfl⟩ := step_begin hstep
      apply sound_passes hsound
      · rfl
      · intro pass hpass
        cases List.mem_cons.mp hpass with
        | inl hsame => exact .inr (hsame ▸ rfl)
        | inr houter => exact .inl houter
  | take =>
      obtain ⟨curr, outer, hpasses, hcurr, rfl⟩ := step_take hstep
      have houter := hnothing rfl
      rw [hpasses] at houter
      exact sound_take hsound hpasses hcurr houter
  | free =>
      obtain ⟨curr, last, outer, hpasses, rfl⟩ := step_free hstep
      exact sound_free hsound hpasses
  | ends =>
      obtain ⟨curr, outer, hpasses, -, rfl⟩ := step_ends hstep
      exact sound_ends hsound hpasses
  | refused =>
      obtain ⟨curr, outer, hpasses, -, rfl⟩ := step_refused hstep
      exact sound_ends hsound hpasses

theorem sound_empty (next : ℕ → ℕ) (item : ℕ → SpawnMsgItem) :
    Sound null (empty null next item) := by
  refine ⟨[], rfl, rfl, ?_, ?_, ?_, List.Perm.refl _, ?_⟩
  · intro call hcall
    cases hcall
  · intro addr haddr
    cases haddr
  · intro addr
    simp [empty, running]
  · intro pass hpass
    cases hpass

end Invariant

section Runs

variable {null : ℕ} {acts : List SpawnAct} {next : ℕ → ℕ} {item : ℕ → SpawnMsgItem}

/-- While no pass takes an item under another one that holds a next item, every message is
handled at most once, in the order of the insertions, and every item is freed at most once. -/
theorem handledOnce_of_nothingHeld
    (hsteps : Transition.StepsSatisfy (step null) (NothingHeld null) (empty null next item) acts) :
    Transition.StatesSatisfy (step null) HandledOnce (empty null next item) acts := by
  have hsound : Transition.StatesSatisfy (step null) (Sound null) (empty null next item) acts :=
    Transition.states_of_steps (fun _ _ _ hsound hnothing hstep => sound_step hsound hnothing hstep)
      (sound_empty next item) hsteps
  exact fun before hbefore reached hreached => (hsound before hbefore reached hreached).handledOnce

variable {s : SpawnState}

/-- What has been handled is what has been inserted first. -/
theorem Stores.handled_prefix {items : List ℕ} (hstores : Stores null s items) :
    s.handled.map Prod.snd <+: s.inserted := by
  rw [List.prefix_iff_getElem?]
  intro index hindex
  rw [List.length_map] at hindex
  have hnumber : (s.handled[index]).1 = index := by
    have hnumbers := congrArg (fun numbers => numbers[index]?) hstores.numbers
    have hlength : index < s.inserted.length := by
      have hlengths := congrArg List.length hstores.numbers
      simp only [List.length_append, List.length_map, List.length_range] at hlengths
      omega
    simpa [List.getElem?_append, hindex, hlength] using hnumbers
  have hown := hstores.own s.handled[index] (List.getElem_mem hindex)
  rw [hnumber] at hown
  rw [hown, List.getElem_map]

theorem Sound.handled_prefix (hsound : Sound null s) : s.handled.map Prod.snd <+: s.inserted := by
  obtain ⟨items, hstores⟩ := hsound
  exact hstores.handled_prefix

/-- Where nothing is stored, all that has been inserted has been handled. -/
theorem Sound.handled_eq (hsound : Sound null s) (hempty : s.spawnMsgList = null) :
    s.handled.map Prod.snd = s.inserted := by
  obtain ⟨items, hstores⟩ := hsound
  have hitems : items = [] := by
    apply hstores.linked.unique
    exact hempty
  have hlengths := congrArg List.length hstores.numbers
  rw [hitems] at hlengths
  apply hstores.handled_prefix.eq_of_length
  simpa using hlengths

/-- The handlers do not call the driver. -/
def NotNested (s : SpawnState) (act : SpawnAct) : Prop := act = .begin → s.passes = []

theorem flat_step {act : SpawnAct} {after : SpawnState} (hflat : s.passes.tail = [])
    (hnested : NotNested s act) (hstep : step null s act = some after) :
    after.passes.tail = [] := by
  cases act with
  | insert addr item =>
      obtain ⟨-, -, happend⟩ := step_insert hstep
      rw [appendItem_passes happend]
      exact hflat
  | begin =>
      obtain ⟨-, rfl⟩ := step_begin hstep
      exact hnested rfl
  | take =>
      obtain ⟨curr, outer, hpasses, -, rfl⟩ := step_take hstep
      rw [hpasses] at hflat
      exact hflat
  | free =>
      obtain ⟨curr, last, outer, hpasses, rfl⟩ := step_free hstep
      rw [hpasses] at hflat
      exact hflat
  | ends =>
      obtain ⟨curr, outer, hpasses, -, rfl⟩ := step_ends hstep
      rw [hpasses] at hflat
      exact congrArg List.tail hflat
  | refused =>
      obtain ⟨curr, outer, hpasses, -, rfl⟩ := step_refused hstep
      rw [hpasses] at hflat
      exact congrArg List.tail hflat

/-- Without nested passes the list is sound in every state. -/
theorem sound_of_notNested
    (hsteps : Transition.StepsSatisfy (step null) NotNested (empty null next item) acts) :
    Transition.StatesSatisfy (step null) (Sound null) (empty null next item) acts := by
  have hstep : ∀ s act after, (s.passes.tail = [] ∧ Sound null s) → NotNested s act →
      step null s act = some after → after.passes.tail = [] ∧ Sound null after := by
    intro s act after hboth hnested hstep
    have hnothing : NothingHeld null s act := by
      intro _ pass hpass
      rw [hboth.1] at hpass
      cases hpass
    exact ⟨flat_step hboth.1 hnested hstep, sound_step hboth.2 hnothing hstep⟩
  have hboth := Transition.states_of_steps hstep ⟨rfl, sound_empty next item⟩ hsteps
  exact fun before hbefore reached hreached => (hboth before hbefore reached hreached).2

def noItem : SpawnMsgItem := ⟨0, none, []⟩

/-- A memory with room for three items. -/
def emptyThree : SpawnState := empty 3 (fun _ => 3) fun _ => noItem

/-- Behind the handler of the last item a pass begins and handles what has come in meanwhile. -/
def nestedLast : List SpawnAct :=
  [.insert 0 noItem, .begin, .take, .insert 1 noItem, .begin, .take, .free, .ends, .free, .ends]

def checkHeld (s : SpawnState) : SpawnAct → Bool
  | .take => s.passes.tail.all fun pass => pass.curr = 3
  | _ => true

theorem handledOnce_nestedLast :
    (Transition.run (step 3) emptyThree nestedLast).isSome = true ∧
      Transition.StatesSatisfy (step 3) HandledOnce emptyThree nestedLast := by
  have hchecks : ∀ s act, checkHeld s act = true → NothingHeld 3 s act := by
    intro s act hcheck htake
    subst htake
    simpa [checkHeld] using hcheck
  have hsteps : Transition.StepsSatisfy (step 3) (NothingHeld 3) emptyThree nestedLast :=
    Transition.stepsSatisfy_of_check checkHeld hchecks (by decide)
  exact ⟨by decide, handledOnce_of_nothingHeld hsteps⟩

/-- A pass that begins under the handler of the first of two items takes the second one away. -/
def nestedFirst : List SpawnAct :=
  [.insert 0 noItem, .insert 1 noItem, .begin, .take, .begin, .take, .free, .ends, .free, .take,
    .free]

theorem not_handledOnce_nestedFirst :
    ¬Transition.StatesSatisfy (step 3) HandledOnce emptyThree nestedFirst := by
  apply Transition.not_statesSatisfy_of_any fun s =>
    s.handled.map Prod.fst = [0, 1, 1] && s.freed = [1, 0, 1]
  · intro s hfails honce
    rw [Bool.and_eq_true, decide_eq_true_eq, decide_eq_true_eq] at hfails
    have hfreed := honce.freedOnce
    rw [hfails.2] at hfreed
    exact absurd hfreed (by decide)
  · decide

end Runs

end SimpleLinkHost.SpawnList
