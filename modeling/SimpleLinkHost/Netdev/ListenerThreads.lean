import SimpleLinkHost.Core.ForwardLinks
import SimpleLinkHost.Netdev.EventListeners

/-!
# Listeners that several threads register

`network_dev_register_eventListener` takes no lock, and the threads of the devices go through
the list while it grows.  Each access to the list is a step here.  Whatever the order of the
steps, no walk runs into a cycle; but a registration can cut off the one of another thread, or
follow a pointer that is NULL.
-/

namespace SimpleLinkHost.ListenerThreads

open EventListeners ForwardLinks IndexList Transition
open scoped List

section System

/-- The access in front of which a thread stands.  `nl` is the variable of that name, `n` is
the new entry. -/
inductive Place
  | idle
  /-- `nl` has been read; `malloc` is called next. -/
  | allocating (nl : ℕ) (listener : Listener)
  | testingHead (nl n : ℕ)
  | settingHead (n : ℕ)
  /-- In front of the test of `nl->next`. -/
  | walking (nl n : ℕ)
  /-- In front of `nl = nl->next`. -/
  | advancing (nl n : ℕ)
  | appending (nl n : ℕ)
  /-- `nl->next` was read with `nl` NULL. -/
  | faulted
  /-- `network_dev_eventCallback` is at `nl`; `visited` are the entries behind it, and
  `before` those that were in the list when it began. -/
  | notifying (nl : ℕ) (visited before : List ℕ)
deriving DecidableEq

/-- The memory of the list, where each thread is, and the entries that were linked into the
list so far. -/
structure ThreadsState (T : Type*) where
  netEventList : ℕ
  next : ℕ → ℕ
  node : ℕ → Listener
  allocated : ℕ → Bool
  place : T → Place
  linked : List ℕ

inductive ListAct (T : Type*)
  /-- A call of `network_dev_register_eventListener`, up to its first read of the list. -/
  | register (thread : T) (listener : Listener)
  /-- `malloc` returns, and the new entry is filled in. -/
  | allocates (thread : T) (addr : Option ℕ)
  /-- A call of `network_dev_eventCallback`, up to its first read of the list. -/
  | notify (thread : T)
  /-- The next access of a thread. -/
  | goes (thread : T)

variable {T : Type*} [DecidableEq T] (null : ℕ)

def ThreadsState.move (s : ThreadsState T) (thread : T) (place : Place) : ThreadsState T :=
  { s with place := Function.update s.place thread place }

/-- The next access of a thread. -/
def goes (s : ThreadsState T) (thread : T) : Option (ThreadsState T) :=
  match s.place thread with
  | .idle | .allocating _ _ | .faulted => none
  | .testingHead nl n =>
      if s.netEventList = null then some (s.move thread (.settingHead n))
      else some (s.move thread (.walking nl n))
  | .settingHead n =>
      some { s.move thread .idle with netEventList := n, linked := s.linked ++ [n] }
  | .walking nl n =>
      if nl = null then some (s.move thread .faulted)
      else if s.next nl = null then some (s.move thread (.appending nl n))
      else some (s.move thread (.advancing nl n))
  | .advancing nl n => some (s.move thread (.walking (s.next nl) n))
  | .appending nl n =>
      some { s.move thread .idle with
        next := Function.update s.next nl n
        linked := s.linked ++ [n] }
  | .notifying nl visited before =>
      if nl = null then some (s.move thread .idle)
      else some (s.move thread (.notifying (s.next nl) (visited ++ [nl]) before))

/-- `malloc` gives no address twice; without memory the call returns at once. -/
def step (s : ThreadsState T) : ListAct T → Option (ThreadsState T)
  | .register thread listener =>
      if s.place thread = .idle then
        some (s.move thread (.allocating s.netEventList listener))
      else none
  | .allocates thread addr =>
      match s.place thread, addr with
      | .allocating _ _, none => some (s.move thread .idle)
      | .allocating nl listener, some n =>
          if n < null ∧ s.allocated n = false then
            some { s.move thread (.testingHead nl n) with
              next := Function.update s.next n null
              node := Function.update s.node n listener
              allocated := Function.update s.allocated n true }
          else none
      | _, _ => none
  | .notify thread =>
      if s.place thread = .idle then
        some (s.move thread (.notifying s.netEventList [] s.linked))
      else none
  | .goes thread => goes null s thread

/-- No listener yet, over a memory with any contents. -/
def beginning (next : ℕ → ℕ) (node : ℕ → Listener) : ThreadsState T where
  netEventList := null
  next := next
  node := node
  allocated := fun _ => false
  place := fun _ => .idle
  linked := []

end System

section Property

variable {T : Type*} (null : ℕ)

/-- Each notification under way has called its entries in the order in which they were
linked, none of them twice, and the list that it walks ends. -/
def CallsInOrder (s : ThreadsState T) : Prop :=
  s.linked.Nodup ∧ ∀ thread nl visited before, s.place thread = .notifying nl visited before →
    visited <+ s.linked ∧ ∃ rest, Linked s.next null nl rest ∧ visited ++ rest <+ s.linked

/-- Every entry that was linked is in the list, in the order of linking. -/
def AllListed (s : ThreadsState T) : Prop := Linked s.next null s.netEventList s.linked

/-- A link is only set where there is none. -/
def LinksAtEnd (s : ThreadsState T) (act : ListAct T) : Prop :=
  ∀ thread, act = .goes thread →
    (∀ n, s.place thread = .settingHead n → s.netEventList = null) ∧
    ∀ nl n, s.place thread = .appending nl n → s.next nl = null

/-- A thread is inside of `network_dev_register_eventListener`. -/
def Registering : Place → Prop
  | .allocating _ _ | .testingHead _ _ | .settingHead _ | .walking _ _ | .advancing _ _
  | .appending _ _ => True
  | .idle | .faulted | .notifying _ _ _ => False

/-- A registration begins when no other is under way. -/
def OneAtATime (s : ThreadsState T) (act : ListAct T) : Prop :=
  ∀ thread listener, act = .register thread listener → ∀ other, ¬Registering (s.place other)

/-- Each notification that has come to the end of the list has called all entries that were
linked when it began. -/
def CallsAll (s : ThreadsState T) : Prop :=
  ∀ thread visited before, s.place thread = .notifying null visited before → before <+: visited

end Property

section Steps

variable {T : Type*} [DecidableEq T] {null : ℕ} {s after : ThreadsState T} {thread : T}

/-- What a step can do. -/
inductive StepCase (null : ℕ) (s : ThreadsState T) : ListAct T → ThreadsState T → Prop
  | registers {thread : T} {listener : Listener} (hplace : s.place thread = .idle) :
      StepCase null s (.register thread listener)
        (s.move thread (.allocating s.netEventList listener))
  | fails {thread : T} {nl : ℕ} {listener : Listener}
      (hplace : s.place thread = .allocating nl listener) :
      StepCase null s (.allocates thread none) (s.move thread .idle)
  | allocates {thread : T} {nl n : ℕ} {listener : Listener}
      (hplace : s.place thread = .allocating nl listener) (hlt : n < null)
      (hfree : s.allocated n = false) :
      StepCase null s (.allocates thread (some n))
        { s.move thread (.testingHead nl n) with
          next := Function.update s.next n null
          node := Function.update s.node n listener
          allocated := Function.update s.allocated n true }
  | notifies {thread : T} (hplace : s.place thread = .idle) :
      StepCase null s (.notify thread) (s.move thread (.notifying s.netEventList [] s.linked))
  | findsEmpty {thread : T} {nl n : ℕ} (hplace : s.place thread = .testingHead nl n)
      (hhead : s.netEventList = null) :
      StepCase null s (.goes thread) (s.move thread (.settingHead n))
  | findsHead {thread : T} {nl n : ℕ} (hplace : s.place thread = .testingHead nl n)
      (hhead : s.netEventList ≠ null) :
      StepCase null s (.goes thread) (s.move thread (.walking nl n))
  | setsHead {thread : T} {n : ℕ} (hplace : s.place thread = .settingHead n) :
      StepCase null s (.goes thread)
        { s.move thread .idle with netEventList := n, linked := s.linked ++ [n] }
  | faults {thread : T} {n : ℕ} (hplace : s.place thread = .walking null n) :
      StepCase null s (.goes thread) (s.move thread .faulted)
  | findsEnd {thread : T} {nl n : ℕ} (hplace : s.place thread = .walking nl n)
      (hnl : nl ≠ null) (hnext : s.next nl = null) :
      StepCase null s (.goes thread) (s.move thread (.appending nl n))
  | findsNext {thread : T} {nl n : ℕ} (hplace : s.place thread = .walking nl n)
      (hnl : nl ≠ null) (hnext : s.next nl ≠ null) :
      StepCase null s (.goes thread) (s.move thread (.advancing nl n))
  | advances {thread : T} {nl n : ℕ} (hplace : s.place thread = .advancing nl n) :
      StepCase null s (.goes thread) (s.move thread (.walking (s.next nl) n))
  | appends {thread : T} {nl n : ℕ} (hplace : s.place thread = .appending nl n) :
      StepCase null s (.goes thread)
        { s.move thread .idle with
          next := Function.update s.next nl n
          linked := s.linked ++ [n] }
  | ends {thread : T} {visited before : List ℕ}
      (hplace : s.place thread = .notifying null visited before) :
      StepCase null s (.goes thread) (s.move thread .idle)
  | calls {thread : T} {nl : ℕ} {visited before : List ℕ}
      (hplace : s.place thread = .notifying nl visited before) (hnl : nl ≠ null) :
      StepCase null s (.goes thread)
        (s.move thread (.notifying (s.next nl) (visited ++ [nl]) before))

theorem stepCase_goes (hgoes : goes null s thread = some after) :
    StepCase null s (.goes thread) after := by
  cases hplace : s.place thread with
  | idle | allocating | faulted => simp [goes, hplace] at hgoes
  | testingHead nl n =>
      by_cases hhead : s.netEventList = null
      · simp only [goes, hplace, hhead, if_true, Option.some.injEq] at hgoes
        exact hgoes ▸ .findsEmpty hplace hhead
      · simp only [goes, hplace, hhead, if_false, Option.some.injEq] at hgoes
        exact hgoes ▸ .findsHead hplace hhead
  | settingHead n =>
      simp only [goes, hplace, Option.some.injEq] at hgoes
      exact hgoes ▸ .setsHead hplace
  | walking nl n =>
      by_cases hnl : nl = null
      · simp only [goes, hplace, hnl, if_true, Option.some.injEq] at hgoes
        exact hgoes ▸ .faults (hnl ▸ hplace)
      · by_cases hnext : s.next nl = null
        · simp only [goes, hplace, hnl, hnext, if_true, if_false, Option.some.injEq] at hgoes
          exact hgoes ▸ .findsEnd hplace hnl hnext
        · simp only [goes, hplace, hnl, hnext, if_false, Option.some.injEq] at hgoes
          exact hgoes ▸ .findsNext hplace hnl hnext
  | advancing nl n =>
      simp only [goes, hplace, Option.some.injEq] at hgoes
      exact hgoes ▸ .advances hplace
  | appending nl n =>
      simp only [goes, hplace, Option.some.injEq] at hgoes
      exact hgoes ▸ .appends hplace
  | notifying nl visited before =>
      by_cases hnl : nl = null
      · simp only [goes, hplace, hnl, if_true, Option.some.injEq] at hgoes
        exact hgoes ▸ .ends (hnl ▸ hplace)
      · simp only [goes, hplace, hnl, if_false, Option.some.injEq] at hgoes
        exact hgoes ▸ .calls hplace hnl

theorem step_cases {act : ListAct T} (hstep : step null s act = some after) :
    StepCase null s act after := by
  cases act with
  | register thread listener =>
      simp only [step, Option.ite_none_right_eq_some, Option.some.injEq] at hstep
      exact hstep.2 ▸ .registers hstep.1
  | allocates thread addr =>
      simp only [step] at hstep
      split at hstep
      · case h_1 nl listener hplace =>
          rw [Option.some.injEq] at hstep
          exact hstep ▸ .fails hplace
      · case h_2 nl listener n hplace =>
          rw [Option.ite_none_right_eq_some, Option.some.injEq] at hstep
          exact hstep.2 ▸ .allocates hplace hstep.1.1 hstep.1.2
      · cases hstep
  | notify thread =>
      simp only [step, Option.ite_none_right_eq_some, Option.some.injEq] at hstep
      exact hstep.2 ▸ .notifies hstep.1
  | goes thread => exact stepCase_goes hstep

end Steps

section Sound

variable {T : Type*} [DecidableEq T] {null : ℕ} {s after : ThreadsState T}

omit [DecidableEq T] in
/-- A new entry that only its own thread knows of. -/
structure Fresh (null : ℕ) (s : ThreadsState T) (n : ℕ) : Prop where
  lt : n < null
  not_mem : n ∉ s.linked
  allocated : s.allocated n = true
  next : s.next n = null

/-- A pointer that was read from the list. -/
def Known (null : ℕ) (s : ThreadsState T) (nl : ℕ) : Prop := nl = null ∨ nl ∈ s.linked

def PlaceSound (null : ℕ) (s : ThreadsState T) : Place → Prop
  | .idle | .faulted => True
  | .allocating nl _ => Known null s nl
  | .testingHead nl n | .walking nl n => Known null s nl ∧ Fresh null s n
  | .settingHead n => Fresh null s n
  | .advancing nl n | .appending nl n => nl ∈ s.linked ∧ Fresh null s n
  | .notifying nl visited _ =>
      visited <+ s.linked ∧ (nl = null ∨ visited ++ [nl] <+ s.linked)

def newEntry : Place → Option ℕ
  | .testingHead _ n | .settingHead n | .walking _ n | .advancing _ n | .appending _ n => some n
  | .idle | .allocating _ _ | .faulted | .notifying _ _ _ => none

/-- What holds in every order of the accesses. -/
structure Sound (null : ℕ) (s : ThreadsState T) : Prop where
  forward : Forward s.next null s.linked
  head : Known null s s.netEventList
  allocated : ∀ n ∈ s.linked, s.allocated n = true
  place : ∀ thread, PlaceSound null s (s.place thread)
  distinct : ∀ left right n, newEntry (s.place left) = some n →
    newEntry (s.place right) = some n → left = right

omit [DecidableEq T] in
theorem PlaceSound.fresh {place : Place} {n : ℕ} (hplace : PlaceSound null s place)
    (hentry : newEntry place = some n) : Fresh null s n := by
  cases place <;> cases hentry
  · exact hplace.2
  · exact hplace
  · exact hplace.2
  · exact hplace.2
  · exact hplace.2

omit [DecidableEq T] in
/-- What a thread knows stays true while the list grows and its new entry stays its own. -/
theorem PlaceSound.mono {place : Place} {more : List ℕ} (hplace : PlaceSound null s place)
    (hlinked : after.linked = s.linked ++ more)
    (hfresh : ∀ n, newEntry place = some n → Fresh null s n → Fresh null after n) :
    PlaceSound null after place := by
  have hgrows : s.linked <+ after.linked := hlinked ▸ List.sublist_append_left s.linked more
  cases place with
  | idle | faulted => exact trivial
  | allocating => exact hplace.imp_right fun hmem => hgrows.subset hmem
  | testingHead nl n | walking nl n =>
      exact ⟨hplace.1.imp_right fun hmem => hgrows.subset hmem, hfresh n rfl hplace.2⟩
  | settingHead n => exact hfresh n rfl hplace
  | advancing nl n | appending nl n => exact ⟨hgrows.subset hplace.1, hfresh n rfl hplace.2⟩
  | notifying nl visited before =>
      exact ⟨hplace.1.trans hgrows, hplace.2.imp_right fun hvisited => hvisited.trans hgrows⟩

/-- A step that changes the place of one thread, to one with the same new entry or none. -/
theorem placeSound_update {thread : T} {place : Place}
    (hplaces : ∀ other, other ≠ thread → PlaceSound null after (s.place other))
    (hplace : PlaceSound null after place)
    (hafter : after.place = Function.update s.place thread place) (other : T) :
    PlaceSound null after (after.place other) := by
  rw [hafter]
  by_cases heq : other = thread
  · rw [heq, Function.update_self]
    exact hplace
  · rw [Function.update_of_ne heq]
    exact hplaces other heq

theorem Sound.distinct_update (hsound : Sound null s) {thread : T} {place : Place}
    (hentry : ∀ n, newEntry place = some n → newEntry (s.place thread) = some n ∨
      s.allocated n = false) (left right : T) (n : ℕ)
    (hleft : newEntry (Function.update s.place thread place left) = some n)
    (hright : newEntry (Function.update s.place thread place right) = some n) : left = right := by
  have hold : ∀ other, other ≠ thread → newEntry (s.place other) = some n →
      newEntry place = some n → other = thread := by
    intro other hne hother hplace
    rcases hentry n hplace with hsame | hfree
    · exact hsound.distinct other thread n hother hsame
    · have hallocated := ((hsound.place other).fresh hother).allocated
      rw [hfree] at hallocated
      cases hallocated
  by_cases hl : left = thread <;> by_cases hr : right = thread
  · rw [hl, hr]
  · rw [hl, Function.update_self] at hleft
    rw [Function.update_of_ne hr] at hright
    exact hl.trans (hold right hr hright hleft).symm
  · rw [hr, Function.update_self] at hright
    rw [Function.update_of_ne hl] at hleft
    exact (hold left hl hleft hright).trans hr.symm
  · rw [Function.update_of_ne hl] at hleft
    rw [Function.update_of_ne hr] at hright
    exact hsound.distinct left right n hleft hright

theorem Sound.move (hsound : Sound null s) {thread : T} {place : Place}
    (hplace : PlaceSound null s place)
    (hentry : newEntry place = none ∨ newEntry place = newEntry (s.place thread)) :
    Sound null (s.move thread place) := by
  have hsame : ∀ {other}, PlaceSound null s other → PlaceSound null (s.move thread place) other :=
    fun hother => hother.mono (List.append_nil _).symm fun _ _ hm =>
      ⟨hm.lt, hm.not_mem, hm.allocated, hm.next⟩
  constructor
  case forward => exact hsound.forward
  case head => exact hsound.head
  case allocated => exact hsound.allocated
  case place =>
    exact placeSound_update (fun other _ => hsame (hsound.place other)) (hsame hplace) rfl
  case distinct =>
    apply hsound.distinct_update
    intro n hn
    rcases hentry with hnone | hkept
    · rw [hnone] at hn
      cases hn
    · exact .inl (hkept ▸ hn)

/-- An entry is linked, at the head or behind another one. -/
theorem Sound.link (hsound : Sound null s) {thread : T} {n : ℕ}
    (hentry : newEntry (s.place thread) = some n)
    (hforward : Forward after.next null (s.linked ++ [n]))
    (hhead : after.netEventList = s.netEventList ∨ after.netEventList = n)
    (hlinked : after.linked = s.linked ++ [n])
    (hnext : ∀ m, m ∉ s.linked → after.next m = s.next m)
    (hallocated : after.allocated = s.allocated)
    (hplace : after.place = Function.update s.place thread .idle) : Sound null after := by
  have hn := (hsound.place thread).fresh hentry
  constructor
  case forward => rwa [hlinked]
  case head =>
    rcases hhead with hsame | hnew
    · rw [Known, hsame, hlinked]
      exact hsound.head.imp_right fun hmem => List.mem_append_left _ hmem
    · rw [Known, hnew, hlinked]
      exact .inr (by simp)
  case allocated =>
    intro m hm
    rw [hallocated]
    rw [hlinked, List.mem_append, List.mem_singleton] at hm
    rcases hm with hold | rfl
    · exact hsound.allocated m hold
    · exact hn.allocated
  case place =>
    have hidle : PlaceSound null after .idle := trivial
    refine placeSound_update (fun other hne => ?_) hidle hplace
    apply (hsound.place other).mono hlinked
    intro m hm hfresh
    have hother : m ≠ n := by
      rintro rfl
      exact hne (hsound.distinct other thread m hm hentry)
    refine ⟨hfresh.lt, ?_, hallocated ▸ hfresh.allocated,
      (hnext m hfresh.not_mem).trans hfresh.next⟩
    rw [hlinked]
    simp [hfresh.not_mem, hother]
  case distinct =>
    rw [hplace]
    apply hsound.distinct_update
    intro m hm
    cases hm

/-- New memory for an entry, which nothing in the list refers to. -/
theorem Sound.allocate (hsound : Sound null s) {thread : T} {nl n : ℕ} {listener : Listener}
    (hplace : s.place thread = .allocating nl listener) (hlt : n < null)
    (hfree : s.allocated n = false) :
    Sound null
      { s.move thread (.testingHead nl n) with
        next := Function.update s.next n null
        node := Function.update s.node n listener
        allocated := Function.update s.allocated n true } := by
  have hnot : n ∉ s.linked := by
    intro hmem
    rw [hsound.allocated n hmem] at hfree
    cases hfree
  have hnext : ∀ m ∈ s.linked, Function.update s.next n null m = s.next m := by
    intro m hm
    apply Function.update_of_ne
    rintro rfl
    exact hnot hm
  constructor
  case forward =>
    refine ⟨hsound.forward.nodup, hsound.forward.lt, fun m hm => ?_⟩
    have hlink := hsound.forward.link m hm
    rwa [← hnext m hm] at hlink
  case head => exact hsound.head
  case allocated =>
    intro m hm
    have hne : m ≠ n := fun heq => hnot (heq ▸ hm)
    exact (Function.update_of_ne hne ..).trans (hsound.allocated m hm)
  case place =>
    have hafter : (s.move thread (.testingHead nl n)).place =
        Function.update s.place thread (.testingHead nl n) := rfl
    refine placeSound_update (fun other _ => ?_) ?_ hafter
    · refine PlaceSound.mono (hsound.place other) (List.append_nil _).symm fun m _ hm => ?_
      have hne : m ≠ n := by
        rintro rfl
        rw [hm.allocated] at hfree
        cases hfree
      exact ⟨hm.lt, hm.not_mem, (Function.update_of_ne hne ..).trans hm.allocated,
        (Function.update_of_ne hne ..).trans hm.next⟩
    · have hknown := hsound.place thread
      rw [hplace] at hknown
      exact ⟨hknown, hlt, hnot, Function.update_self .., Function.update_self ..⟩
  case distinct =>
    apply hsound.distinct_update
    intro m hm
    cases hm
    exact .inr hfree

theorem sound_step {act : ListAct T} (hsound : Sound null s)
    (hstep : step null s act = some after) : Sound null after := by
  have hplaces := hsound.place
  cases step_cases hstep with
  | registers hplace => exact hsound.move hsound.head (.inl rfl)
  | fails hplace => exact hsound.move trivial (.inl rfl)
  | allocates hplace hlt hfree => exact hsound.allocate hplace hlt hfree
  | notifies hplace =>
      refine hsound.move ⟨List.nil_sublist _, ?_⟩ (.inl rfl)
      exact hsound.head.imp_right fun hmem => List.singleton_sublist.mpr hmem
  | @findsEmpty thread nl n hplace hhead =>
      have hthread := hplaces thread
      rw [hplace] at hthread
      exact hsound.move hthread.2 (.inr (by rw [hplace]; rfl))
  | @findsHead thread nl n hplace hhead =>
      have hthread := hplaces thread
      rw [hplace] at hthread
      exact hsound.move hthread (.inr (by rw [hplace]; rfl))
  | @setsHead thread n hplace =>
      have hthread := hplaces thread
      rw [hplace] at hthread
      have hforward := hsound.forward.concat hthread.not_mem hthread.lt hthread.next
      exact hsound.link (by rw [hplace]; rfl) hforward (.inr rfl) rfl (fun _ _ => rfl) rfl rfl
  | @faults thread n hplace => exact hsound.move trivial (.inl rfl)
  | @findsEnd thread nl n hplace hnl hnext =>
      have hthread := hplaces thread
      rw [hplace] at hthread
      exact hsound.move ⟨hthread.1.resolve_left hnl, hthread.2⟩ (.inr (by rw [hplace]; rfl))
  | @findsNext thread nl n hplace hnl hnext =>
      have hthread := hplaces thread
      rw [hplace] at hthread
      exact hsound.move ⟨hthread.1.resolve_left hnl, hthread.2⟩ (.inr (by rw [hplace]; rfl))
  | @advances thread nl n hplace =>
      have hthread := hplaces thread
      rw [hplace] at hthread
      exact hsound.move ⟨hsound.forward.next_mem hthread.1, hthread.2⟩
        (.inr (by rw [hplace]; rfl))
  | @appends thread nl n hplace =>
      have hthread := hplaces thread
      rw [hplace] at hthread
      have hforward := (hsound.forward.concat hthread.2.not_mem hthread.2.lt
        hthread.2.next).link_last hthread.1
      refine hsound.link (by rw [hplace]; rfl) hforward (.inl rfl) rfl (fun m hm => ?_) rfl rfl
      apply Function.update_of_ne
      rintro rfl
      exact hm hthread.1
  | @ends thread visited before hplace => exact hsound.move trivial (.inl rfl)
  | @calls thread nl visited before hplace hnl =>
      have hthread := hplaces thread
      rw [hplace] at hthread
      have hvisited := hthread.2.resolve_left hnl
      have hmem : nl ∈ s.linked := hvisited.subset (by simp)
      refine hsound.move ⟨hvisited, ?_⟩ (.inl rfl)
      exact (hsound.forward.link nl hmem).imp_right fun hprecedes => hprecedes.sublist hvisited

omit [DecidableEq T] in
theorem sound_beginning (next : ℕ → ℕ) (node : ℕ → Listener) :
    Sound null (beginning null next node : ThreadsState T) := by
  constructor
  case forward => exact ⟨List.nodup_nil, by simp [beginning], by simp [beginning]⟩
  case head => exact .inl rfl
  case allocated => simp [beginning]
  case place => exact fun _ => trivial
  case distinct =>
    intro left right n hleft
    cases hleft

end Sound

section Order

variable {T : Type*} [DecidableEq T] {null : ℕ} {s after : ThreadsState T}

omit [DecidableEq T] in
theorem Sound.callsInOrder (hsound : Sound null s) : CallsInOrder null s := by
  refine ⟨hsound.forward.nodup, fun thread nl visited before hplace => ?_⟩
  have hthread := hsound.place thread
  rw [hplace] at hthread
  refine ⟨hthread.1, ?_⟩
  rcases hthread.2 with hnl | hvisited
  · exact ⟨[], hnl, by rw [List.append_nil]; exact hthread.1⟩
  · obtain ⟨front, back, hlinked, hfront, hback⟩ := List.append_sublist_iff.mp hvisited
    obtain ⟨middle, rest, rfl⟩ := List.append_of_mem (List.singleton_sublist.mp hback)
    obtain ⟨items, hitems, hrest⟩ := hsound.forward.linked_from rest.length (front ++ middle) nl
      rest (by rw [hlinked, List.append_assoc]) (Nat.le_refl _)
    refine ⟨nl :: items, hitems, ?_⟩
    rw [hlinked]
    apply hfront.append
    exact (hrest.cons_cons nl).trans (List.sublist_append_right middle _)

/-- In every order of the accesses of any number of threads, a notification calls the entries
of the list in the order in which they were linked and none of them twice, and it ends. -/
theorem notifications_ordered (null : ℕ) (next : ℕ → ℕ) (node : ℕ → Listener)
    (acts : List (ListAct T)) :
    StatesSatisfy (step null) (CallsInOrder null) (beginning null next node) acts := by
  intro before _ reached hreached
  have hsound : Sound null reached :=
    run_invariant (fun s act s' => sound_step) (sound_beginning next node) hreached
  exact hsound.callsInOrder

omit [DecidableEq T] in
theorem linksAtEnd_of_no_link {thread : T} (hset : ∀ n, s.place thread ≠ .settingHead n)
    (happend : ∀ nl n, s.place thread ≠ .appending nl n) : LinksAtEnd null s (.goes thread) := by
  rintro other ⟨rfl⟩
  exact ⟨fun n hplace => absurd hplace (hset n), fun nl n hplace => absurd hplace (happend nl n)⟩

omit [DecidableEq T] in
theorem allListed_setsHead {n : ℕ} (hn : Fresh null s n) (hall : AllListed null s) :
    Linked s.next null n (s.linked ++ [n]) ↔ s.netEventList = null := by
  constructor
  · intro hlinked
    cases hitems : s.linked with
    | nil =>
        rw [AllListed, hitems] at hall
        exact hall
    | cons first rest =>
        rw [hitems] at hlinked
        have hfirst : n = first := hlinked.1
        exact absurd (by rw [hitems, hfirst]; simp) hn.not_mem
  · intro hhead
    have hempty : s.linked = [] := by
      rw [AllListed, hhead] at hall
      exact hall.unique rfl
    rw [hempty]
    exact ⟨rfl, hn.lt, hn.next⟩

omit [DecidableEq T] in
theorem allListed_appends {nl n : ℕ} (hnl : nl ∈ s.linked) (hn : Fresh null s n)
    (hall : AllListed null s) :
    Linked (Function.update s.next nl n) null s.netEventList (s.linked ++ [n]) ↔
      s.next nl = null := by
  obtain ⟨front, back, hsplit⟩ := List.append_of_mem hnl
  have hback : Linked s.next null (s.next nl) back := by
    rw [AllListed, hsplit] at hall
    exact hall.suffix
  constructor
  · intro hlinked
    rw [hsplit, List.append_assoc, List.cons_append] at hlinked
    have hrest := hlinked.suffix
    rw [Function.update_self] at hrest
    cases back with
    | nil => exact hback
    | cons first rest =>
        have hfirst : n = first := hrest.1
        exact absurd (by rw [hsplit, hfirst]; simp) hn.not_mem
  · intro hnext
    have hempty : back = [] := by
      rw [hnext] at hback
      exact hback.unique rfl
    have hfresh := hn.not_mem
    rw [AllListed] at hall
    rw [hsplit, hempty] at hall hfresh ⊢
    exact hall.append hn.lt hfresh hn.next

/-- A step keeps all entries in the list exactly if it sets a link only where there is none. -/
theorem allListed_step {act : ListAct T} (hsound : Sound null s) (hall : AllListed null s)
    (hstep : step null s act = some after) : AllListed null after ↔ LinksAtEnd null s act := by
  cases step_cases hstep with
  | registers | fails | notifies => exact ⟨fun _ _ heq => (by cases heq), fun _ => hall⟩
  | @allocates thread nl n listener hplace hlt hfree =>
      refine ⟨fun _ _ heq => (by cases heq), fun _ => ?_⟩
      apply Linked.update_of_not_mem hall
      intro hmem
      rw [hsound.allocated n hmem] at hfree
      cases hfree
  | @findsEmpty thread nl n hplace | @findsHead thread nl n hplace | @findsEnd thread nl n hplace
  | @findsNext thread nl n hplace | @advances thread nl n hplace | @faults thread n hplace
  | @ends thread visited before hplace | @calls thread nl visited before hplace =>
      refine ⟨fun _ => ?_, fun _ => hall⟩
      exact linksAtEnd_of_no_link (by simp [hplace]) (by simp [hplace])
  | @setsHead thread n hplace =>
      have hthread := hsound.place thread
      rw [hplace] at hthread
      exact (allListed_setsHead hthread hall).trans (by simp [LinksAtEnd, hplace])
  | @appends thread nl n hplace =>
      have hthread := hsound.place thread
      rw [hplace] at hthread
      exact (allListed_appends hthread.1 hthread.2 hall).trans (by simp [LinksAtEnd, hplace])

/-- No registration is lost exactly if each link is set where there still is none: where no
other thread has linked an entry since the link was read. -/
theorem listeners_kept_iff (null : ℕ) (next : ℕ → ℕ) (node : ℕ → Listener)
    (acts : List (ListAct T)) :
    StatesSatisfy (step null) (AllListed null) (beginning null next node) acts ↔
      StepsSatisfy (step null) (LinksAtEnd null) (beginning null next node) acts :=
  states_iff_steps (fun _ _ _ => sound_step) (fun _ _ _ => allListed_step)
    (sound_beginning next node) rfl

end Order

section OneByOne

variable {T : Type*} [DecidableEq T] {null : ℕ} {s after : ThreadsState T}

/-- What a thread has read is still so, and a notification goes through the whole list. -/
def Current (null : ℕ) (s : ThreadsState T) : Place → Prop
  | .idle => True
  | .allocating nl _ | .testingHead nl _ => nl = s.netEventList
  | .settingHead _ => s.netEventList = null
  | .walking nl _ => nl ≠ null
  | .advancing nl _ => s.next nl ≠ null
  | .appending nl _ => s.next nl = null
  | .faulted => False
  | .notifying nl visited before =>
      before <+: s.linked ∧ (nl = null → before <+: visited) ∧
        (nl ≠ null → ∃ rest, s.linked = visited ++ nl :: rest)

omit [DecidableEq T] in
/-- A thread that registers nothing does not mind that the list grows. -/
theorem Current.mono {place : Place} {more : List ℕ} (hcurrent : Current null s place)
    (hregisters : ¬Registering place) (hlinked : after.linked = s.linked ++ more) :
    Current null after place := by
  cases place with
  | idle => exact trivial
  | faulted => exact hcurrent
  | notifying nl visited before =>
      obtain ⟨hbefore, hend, hrest⟩ := hcurrent
      refine ⟨?_, hend, fun hnl => ?_⟩
      · rw [hlinked]
        exact hbefore.trans (List.prefix_append ..)
      · obtain ⟨rest, hsplit⟩ := hrest hnl
        exact ⟨rest ++ more, by rw [hlinked, hsplit, List.append_assoc, List.cons_append]⟩
  | _ => exact absurd trivial hregisters

/-- What holds while registrations do not overlap. -/
structure OneByOne (null : ℕ) (s : ThreadsState T) : Prop where
  sound : Sound null s
  all : AllListed null s
  current : ∀ thread, Current null s (s.place thread)
  single : ∀ left right, Registering (s.place left) → Registering (s.place right) → left = right

/-- A thread moves on while the list stays as it is. -/
theorem current_move (hone : OneByOne null s) {thread other : T} {place : Place}
    (hplace : Current null s place) :
    Current null (s.move thread place) ((s.move thread place).place other) := by
  have hmove : ∀ place', Current null (s.move thread place) place' ↔ Current null s place' := by
    intro place'
    cases place' <;> rfl
  rw [hmove]
  by_cases heq : other = thread
  · rw [heq]
    simpa [ThreadsState.move] using hplace
  · simpa [ThreadsState.move, Function.update_of_ne heq] using hone.current other

theorem single_update (hone : OneByOne null s) {thread : T} {place : Place}
    (hplace : Registering place → Registering (s.place thread) ∨
      ∀ other, ¬Registering (s.place other)) (left right : T)
    (hleft : Registering (Function.update s.place thread place left))
    (hright : Registering (Function.update s.place thread place right)) : left = right := by
  have hold : ∀ other, other ≠ thread → Registering (s.place other) → Registering place →
      other = thread := by
    intro other _ hother hnew
    rcases hplace hnew with hthread | hnobody
    · exact hone.single other thread hother hthread
    · exact absurd hother (hnobody other)
  by_cases hl : left = thread <;> by_cases hr : right = thread
  · rw [hl, hr]
  · rw [hl, Function.update_self] at hleft
    rw [Function.update_of_ne hr] at hright
    exact hl.trans (hold right hr hright hleft).symm
  · rw [hr, Function.update_self] at hright
    rw [Function.update_of_ne hl] at hleft
    exact (hold left hl hleft hright).trans hr.symm
  · rw [Function.update_of_ne hl] at hleft
    rw [Function.update_of_ne hr] at hright
    exact hone.single left right hleft hright

/-- The one thread that registers writes to the list, and the others only read it. -/
theorem current_write (hone : OneByOne null s) {thread other : T} {place : Place}
    {more : List ℕ} (hregisters : Registering (s.place thread))
    (hlinked : after.linked = s.linked ++ more)
    (hafter : after.place = Function.update s.place thread place)
    (hplace : Current null after place) : Current null after (after.place other) := by
  rw [hafter]
  by_cases heq : other = thread
  · rw [heq, Function.update_self]
    exact hplace
  · rw [Function.update_of_ne heq]
    apply (hone.current other).mono _ hlinked
    exact fun hother => heq (hone.single other thread hother hregisters)

omit [DecidableEq T] in
theorem OneByOne.linksAtEnd (hone : OneByOne null s) (act : ListAct T) :
    LinksAtEnd null s act := by
  intro thread _
  have hcurrent := hone.current thread
  constructor
  · intro n hplace
    rw [hplace] at hcurrent
    exact hcurrent
  · intro nl n hplace
    rw [hplace] at hcurrent
    exact hcurrent

theorem current_step {act : ListAct T} (hone : OneByOne null s)
    (hstep : step null s act = some after) (thread : T) :
    Current null after (after.place thread) := by
  have hcurrents := hone.current
  cases step_cases hstep with
  | registers hplace => exact current_move hone rfl
  | fails hplace => exact current_move hone trivial
  | @allocates actor nl n listener hplace hlt hfree =>
      have hactor := hcurrents actor
      rw [hplace] at hactor
      exact current_write hone (by rw [hplace]; trivial) (List.append_nil _).symm rfl hactor
  | notifies hplace =>
      refine current_move hone ⟨List.prefix_refl _, fun hhead => ?_, fun hhead => ?_⟩
      · have hall := hone.all
        rw [AllListed, hhead] at hall
        exact List.prefix_nil.mpr (hall.unique rfl)
      · cases hlinked : s.linked with
        | nil =>
            have hall := hone.all
            rw [AllListed, hlinked] at hall
            exact absurd hall hhead
        | cons first rest =>
            have hall := hone.all
            rw [AllListed, hlinked] at hall
            exact ⟨rest, by rw [hall.1]; rfl⟩
  | findsEmpty hplace hhead => exact current_move hone hhead
  | @findsHead actor nl n hplace hhead =>
      have hactor := hcurrents actor
      rw [hplace] at hactor
      have hne : nl ≠ null := hactor ▸ hhead
      exact current_move hone hne
  | @setsHead actor n hplace =>
      exact current_write hone (by rw [hplace]; trivial) rfl rfl trivial
  | @faults actor n hplace =>
      have hactor := hcurrents actor
      rw [hplace] at hactor
      exact absurd rfl hactor
  | findsEnd hplace hnl hnext => exact current_move hone hnext
  | findsNext hplace hnl hnext => exact current_move hone hnext
  | @advances actor nl n hplace =>
      have hactor := hcurrents actor
      rw [hplace] at hactor
      exact current_move hone hactor
  | @appends actor nl n hplace =>
      exact current_write hone (by rw [hplace]; trivial) rfl rfl trivial
  | ends hplace => exact current_move hone trivial
  | @calls actor nl visited before hplace hnl =>
      have hactor := hcurrents actor
      rw [hplace] at hactor
      obtain ⟨hbefore, -, hrest⟩ := hactor
      obtain ⟨rest, hsplit⟩ := hrest hnl
      have hall := hone.all
      rw [AllListed, hsplit] at hall
      have hnext := hall.suffix
      refine current_move hone ⟨hbefore, fun hend => ?_, fun hmore => ?_⟩
      · rw [hend] at hnext
        have hempty : rest = [] := hnext.unique rfl
        rwa [hsplit, hempty] at hbefore
      · cases rest with
        | nil => exact absurd hnext hmore
        | cons first rest =>
            have hfirst : s.next nl = first := hnext.1
            exact ⟨rest, by rw [hsplit, hfirst, List.append_assoc]; rfl⟩

theorem single_step {act : ListAct T} (hone : OneByOne null s) (halone : OneAtATime s act)
    (hstep : step null s act = some after) (left right : T)
    (hleft : Registering (after.place left)) (hright : Registering (after.place right)) :
    left = right := by
  cases step_cases hstep with
  | registers hplace =>
      exact single_update hone (fun _ => .inr (halone _ _ rfl)) left right hleft hright
  | allocates hplace | findsEmpty hplace | findsHead hplace | findsEnd hplace
  | findsNext hplace | advances hplace =>
      exact single_update hone (fun _ => .inl (by rw [hplace]; trivial)) left right hleft hright
  | fails | notifies | setsHead | faults | appends | ends | calls =>
      exact single_update hone (fun hnever => by exact hnever.elim) left right hleft hright

theorem oneByOne_step {act : ListAct T} (hone : OneByOne null s) (halone : OneAtATime s act)
    (hstep : step null s act = some after) : OneByOne null after :=
  ⟨sound_step hone.sound hstep,
    (allListed_step hone.sound hone.all hstep).mpr (hone.linksAtEnd act),
    current_step hone hstep, single_step hone halone hstep⟩

omit [DecidableEq T] in
theorem oneByOne_beginning (next : ℕ → ℕ) (node : ℕ → Listener) :
    OneByOne null (beginning null next node : ThreadsState T) :=
  ⟨sound_beginning next node, rfl, fun _ => trivial, fun _ _ hleft => hleft.elim⟩

/-- While no two registrations overlap, notifications may go on at any time: no entry is lost,
no registration reads through a NULL pointer, and each notification that comes to the end of
the list has called every entry that was linked when it began. -/
theorem oneAtATime_safe {next : ℕ → ℕ} {node : ℕ → Listener} {acts : List (ListAct T)}
    (halone : StepsSatisfy (step null) OneAtATime (beginning null next node) acts) :
    StatesSatisfy (step null)
      (fun s => AllListed null s ∧ CallsAll null s ∧ ∀ thread, s.place thread ≠ .faulted)
      (beginning null next node) acts := by
  have hstates : StatesSatisfy (step null) (OneByOne null) (beginning null next node) acts :=
    states_of_steps (fun _ _ _ => oneByOne_step) (oneByOne_beginning next node) halone
  intro before hprefix reached hreached
  have hone := hstates before hprefix reached hreached
  refine ⟨hone.all, fun thread visited first hplace => ?_, fun thread hplace => ?_⟩
  · have hcurrent := hone.current thread
    rw [hplace] at hcurrent
    exact hcurrent.2.1 rfl
  · have hcurrent := hone.current thread
    rw [hplace] at hcurrent
    exact hcurrent

instance : DecidablePred Registering
  | .allocating _ _ | .testingHead _ _ | .settingHead _ | .walking _ _ | .advancing _ _
  | .appending _ _ => isTrue trivial
  | .idle | .faulted | .notifying _ _ _ => isFalse id

/-- `OneAtATime` for two threads. -/
def oneAtATime (s : ThreadsState Bool) : ListAct Bool → Bool
  | .register _ _ => decide (∀ other, ¬Registering (s.place other))
  | _ => true

theorem oneAtATime_sound (s : ThreadsState Bool) (act : ListAct Bool)
    (hcheck : oneAtATime s act = true) : OneAtATime s act := by
  rintro thread listener rfl
  exact of_decide_eq_true hcheck

/-- One thread registers two listeners, while the other one notifies. -/
def registersTwice : List (ListAct Bool) :=
  [.register true ⟨0, 4, 8⟩, .allocates true (some 0), .goes true, .goes true, .notify false,
    .register true ⟨0, 5, 8⟩, .allocates true (some 1), .goes true, .goes true, .goes false,
    .goes true, .goes false]

theorem oneAtATime_safe_twice :
    StatesSatisfy (step 2)
      (fun s => AllListed 2 s ∧ CallsAll 2 s ∧ ∀ thread, s.place thread ≠ .faulted)
      (beginning 2 (fun _ => 0) fun _ => ⟨0, 0, 0⟩) registersTwice :=
  oneAtATime_safe (stepsSatisfy_of_check oneAtATime oneAtATime_sound (by decide))

end OneByOne

section Alone

variable {T : Type*} [DecidableEq T] {null : ℕ} {s : ThreadsState T} {thread : T}

/-- The same memory as in the system whose registrations do not overlap. -/
structure SameMemory (s : ThreadsState T) (state : ListenerState) : Prop where
  netEventList : s.netEventList = state.netEventList
  next : s.next = state.next
  node : s.node = state.node
  allocated : s.allocated = state.allocated

/-- The walk of a thread to the last entry, with nobody in between. -/
theorem run_walk (n : ℕ) (rest : List ℕ) (nl : ℕ) (s : ThreadsState T)
    (hplace : s.place thread = .walking nl n) (hlinked : Linked s.next null nl (nl :: rest)) :
    ∃ last, List.getLast? (nl :: rest) = some last ∧
      run (step null) s (List.replicate (2 * rest.length + 1) (.goes thread)) =
        some (s.move thread (.appending last n)) := by
  have hnl : nl ≠ null := by
    have hlt := hlinked.2.1
    omega
  induction rest generalizing nl s with
  | nil =>
      have hnext : s.next nl = null := hlinked.2.2
      refine ⟨nl, rfl, ?_⟩
      simp [run_cons, step, goes, hplace, hnl, hnext]
  | cons first rest ih =>
      obtain ⟨-, -, hrest⟩ := hlinked
      obtain ⟨hfirst, hlt, htail⟩ := hrest
      have hne : first ≠ null := by omega
      let walking := s.move thread (.walking first n)
      have hwalking : walking.place thread = .walking first n := by
        simp [walking, ThreadsState.move]
      obtain ⟨last, hlast, hrun⟩ := ih first walking hwalking ⟨rfl, hlt, htail⟩ hne
      have hmoved :
          walking.move thread (.appending last n) = s.move thread (.appending last n) := by
        simp [walking, ThreadsState.move]
      refine ⟨last, by rw [← hlast]; rfl, ?_⟩
      have hadvance : step null s (.goes thread) = some (s.move thread (.advancing nl n)) := by
        have hnext : s.next nl ≠ null := hfirst ▸ hne
        simp [step, goes, hplace, hnl, hnext]
      have hwalk : step null (s.move thread (.advancing nl n)) (.goes thread) = some walking := by
        simp [step, goes, ThreadsState.move, walking, hfirst]
      have hcount : 2 * (first :: rest).length + 1 = 2 * rest.length + 1 + 1 + 1 := by
        simp only [List.length_cons]
        omega
      rw [hcount, List.replicate_succ, List.replicate_succ, run_cons, hadvance, Option.bind_some,
        run_cons, hwalk, Option.bind_some, hrun, hmoved]

/-- A registration that nobody interrupts does to the memory what the sequential
`networkDevRegisterEventListener` does. -/
theorem register_alone {state : ListenerState} {items : List ℕ} (listener : Listener) {n : ℕ}
    (hsame : SameMemory s state) (hidle : s.place thread = .idle)
    (hlinked : Linked state.next null state.netEventList items) (hlt : n < null)
    (hfree : state.allocated n = false) (hitems : ∀ item ∈ items, state.allocated item = true) :
    ∃ steps final after,
      run (step null) s (.register thread listener :: .allocates thread (some n) ::
        List.replicate steps (.goes thread)) = some final ∧
      networkDevRegisterEventListener null state ⟨listener, some n⟩ = some after ∧
      SameMemory final after ∧ final.place thread = .idle := by
  have hfresh : n ∉ items := by
    intro hmem
    rw [hitems n hmem] at hfree
    cases hfree
  have hcleared : Linked (Function.update state.next n null) null state.netEventList items :=
    hlinked.update_of_not_mem hfresh
  let filled : ThreadsState T :=
    { s.move thread (.testingHead s.netEventList n) with
      next := Function.update s.next n null
      node := Function.update s.node n listener
      allocated := Function.update s.allocated n true }
  have hfilled : filled.place thread = .testingHead s.netEventList n := Function.update_self ..
  have hbegin : ∀ acts, run (step null) s (.register thread listener ::
      .allocates thread (some n) :: acts) = run (step null) filled acts := by
    intro acts
    have hregister : step null s (.register thread listener) =
        some (s.move thread (.allocating s.netEventList listener)) := if_pos hidle
    have hallocate : step null (s.move thread (.allocating s.netEventList listener))
        (.allocates thread (some n)) = some filled := by
      simp [step, ThreadsState.move, filled, hlt, hsame.allocated, hfree]
    rw [run_cons, hregister, Option.bind_some, run_cons, hallocate, Option.bind_some]
  have hregistered : ∀ links, append? (Function.update state.next n null) null
      state.netEventList n = some links →
        networkDevRegisterEventListener null state ⟨listener, some n⟩ =
          some ⟨links.2, links.1, Function.update state.node n listener,
            Function.update state.allocated n true,
            state.returned ++ [(⟨listener, some n⟩, -1)]⟩ := by
    intro links hlinks
    simp [networkDevRegisterEventListener, hlt, hfree, hlinks]
  rcases List.eq_nil_or_concat' items with rfl | ⟨front, last, rfl⟩
  · have hhead : state.netEventList = null := hlinked
    have hempty : filled.netEventList = null := hsame.netEventList.trans hhead
    refine ⟨2, { filled.move thread .idle with
      netEventList := n, linked := filled.linked ++ [n] }, _, ?_,
      hregistered (Function.update state.next n null, n) ?_, ⟨rfl, ?_, ?_, ?_⟩, ?_⟩
    · rw [hbegin]
      simp [List.replicate_succ, run_cons, step, goes, hfilled, hempty, ThreadsState.move]
    · exact if_neg (by omega)
    · exact congrArg (Function.update · n null) hsame.next
    · exact congrArg (Function.update · n listener) hsame.node
    · exact congrArg (Function.update · n true) hsame.allocated
    · simp [ThreadsState.move]
  · have hhead : state.netEventList < null := by
      cases front with
      | nil => exact hlinked.1 ▸ hlinked.2.1
      | cons first rest => exact hlinked.1 ▸ hlinked.2.1
    obtain ⟨rest, hrest, -⟩ := hcleared.exists_cons hhead
    have hnonempty : filled.netEventList ≠ null := by
      have hsameHead : filled.netEventList = state.netEventList := hsame.netEventList
      omega
    let walking := filled.move thread (.walking s.netEventList n)
    have hchain : Linked walking.next null s.netEventList (s.netEventList :: rest) := by
      rw [hsame.netEventList, ← hrest]
      have hnext : walking.next = Function.update state.next n null :=
        by simp [walking, filled, ThreadsState.move, hsame.next]
      rwa [hnext]
    obtain ⟨found, hfound, hwalk⟩ :=
      run_walk n rest s.netEventList walking (Function.update_self ..) hchain
    have hlast : found = last := by
      rw [hsame.netEventList, ← hrest, List.getLast?_concat, Option.some.injEq] at hfound
      exact hfound.symm
    let appending := walking.move thread (.appending last n)
    let final := { appending.move thread .idle with
      next := Function.update appending.next last n
      linked := appending.linked ++ [n] }
    have htest : step null filled (.goes thread) = some walking := by
      rw [step, goes, hfilled]
      exact if_neg hnonempty
    have happend : step null appending (.goes thread) = some final := by
      simp [step, goes, appending, final, ThreadsState.move]
    refine ⟨1 + ((2 * rest.length + 1) + 1), final, _, ?_,
      hregistered (Function.update (Function.update state.next n null) last n,
        state.netEventList) ?_, ⟨hsame.netEventList, ?_, ?_, ?_⟩, ?_⟩
    · rw [hbegin, List.replicate_add, run_append, List.replicate_one, run_singleton, htest,
        Option.bind_some, List.replicate_add, run_append, hwalk, Option.bind_some, hlast,
        List.replicate_one, run_singleton, happend]
    · rw [append?, if_pos hhead, hcleared.find?_eq hcleared.length_le, hcleared.find?_last]
    · simp [final, appending, walking, filled, ThreadsState.move, hsame.next]
    · exact congrArg (Function.update · n listener) hsame.node
    · exact congrArg (Function.update · n true) hsame.allocated
    · simp [final, ThreadsState.move]

end Alone

end SimpleLinkHost.ListenerThreads
