import SimpleLinkHost.Core.IndexList
import SimpleLinkHost.Core.Transition

/-!
# The listeners of the network devices

An application registers its callbacks in a linked list, of which the network devices have
each entry called with every event.  An address is an index below `null`, and what the caller
of a registration is told is its return value.
-/

namespace SimpleLinkHost.EventListeners

open IndexList

section System

/-- A `networkEventListener` but for its link; the object and the callback are pointers, 0 is
`NULL`. -/
structure Listener where
  interface : BitVec 8
  object : ℕ
  listener : ℕ
deriving DecidableEq

/-- A call of `network_dev_register_eventListener`, and what `malloc` gives it. -/
structure Registration where
  listener : Listener
  addr : Option ℕ
deriving DecidableEq

/-- The memory of the list, and each call so far with what it returned. -/
structure ListenerState where
  netEventList : ℕ
  next : ℕ → ℕ
  node : ℕ → Listener
  allocated : ℕ → Bool
  returned : List (Registration × ℤ)

variable (null : ℕ)

/-- `network_dev_register_eventListener`; `malloc` gives no address twice, and the walk to the
last entry does not end on a list with a cycle. -/
def networkDevRegisterEventListener (s : ListenerState) (call : Registration) :
    Option ListenerState :=
  match call.addr with
  | none => some { s with returned := s.returned ++ [(call, 0)] }
  | some addr =>
      if addr < null ∧ s.allocated addr = false then
        (append? (Function.update s.next addr null) null s.netEventList addr).map fun links =>
          { netEventList := links.2
            next := links.1
            node := Function.update s.node addr call.listener
            allocated := Function.update s.allocated addr true
            returned := s.returned ++ [(call, -1)] }
      else none

/-- A call of a listener's callback. -/
structure Notice where
  listener : ℕ
  object : ℕ
  code : BitVec 32
  value : BitVec 32
deriving DecidableEq

def noticeTo (code value : BitVec 32) (listener : Listener) : Notice :=
  ⟨listener.listener, listener.object, code, value⟩

/-- `network_dev_eventCallback`, by the calls it makes -/
def networkDevEventCallback (s : ListenerState) (code value : BitVec 32) : Option (List Notice) :=
  (members? s.next null null s.netEventList).map fun items =>
    ((items.map s.node).filter fun listener =>
      listener.object ≠ 0 ∧ listener.listener ≠ 0).map (noticeTo code value)

/-- No listener yet, over a memory with any contents. -/
def empty (next : ℕ → ℕ) (node : ℕ → Listener) : ListenerState :=
  ⟨null, next, node, fun _ => false, []⟩

end System

section Property

/-- Each event goes once, and in the order of the registrations, to the listeners whose
registration has returned the success value. -/
def Delivers (null : ℕ) (s : ListenerState) : Prop :=
  ∀ code value, networkDevEventCallback null s code value =
    some ((s.returned.filter fun call => call.2 = 0).map fun call =>
      noticeTo code value call.1.listener)

/-- What `malloc` promises: an address of its own for each call that gets one. -/
structure MallocFresh (null : ℕ) (calls : List Registration) : Prop where
  nodup : (calls.filterMap (·.addr)).Nodup
  lt_null : ∀ addr ∈ calls.filterMap (·.addr), addr < null

/-- The callback and the object of each call that got memory, or of each that got none. -/
def targets (allocated : Bool) (calls : List Registration) : List (ℕ × ℕ) :=
  (calls.filter fun call => call.addr.isSome = allocated).map fun call =>
    (call.listener.listener, call.listener.object)

end Property

section Runs

variable {null : ℕ} {s after : ListenerState} {next : ℕ → ℕ} {node : ℕ → Listener}
variable {calls : List Registration}

/-- The list has the listeners whose registration got memory, and a call that got none returns
the success value. -/
structure Listed (null : ℕ) (calls : List Registration) (s : ListenerState) : Prop where
  returned : s.returned = calls.map fun call => (call, if call.addr.isSome then -1 else 0)
  linked : ∃ items, Linked s.next null s.netEventList items ∧
    items.map s.node = (calls.filter fun call => call.addr.isSome).map (·.listener) ∧
      ∀ item ∈ items, s.allocated item = true
  allocated : ∀ addr, s.allocated addr = true → addr ∈ calls.filterMap (·.addr)

theorem listed_register_none {call : Registration} (hlisted : Listed null calls s)
    (haddr : call.addr = none) :
    ∃ after, networkDevRegisterEventListener null s call = some after ∧
      Listed null (calls ++ [call]) after := by
  obtain ⟨items, hlinked, hnodes, hallocated⟩ := hlisted.linked
  rw [networkDevRegisterEventListener, haddr]
  refine ⟨_, rfl, ?_, ?_, ?_⟩
  · simp [hlisted.returned, haddr]
  · exact ⟨items, hlinked, by simp [hnodes, haddr], hallocated⟩
  · simpa [haddr] using hlisted.allocated

/-- A registration with memory for it puts its listener behind the others. -/
theorem listed_register_some {call : Registration} {addr : ℕ} (hlisted : Listed null calls s)
    (haddr : call.addr = some addr) (hlt : addr < null) (hfree : s.allocated addr = false) :
    ∃ after, networkDevRegisterEventListener null s call = some after ∧
      Listed null (calls ++ [call]) after := by
  obtain ⟨items, hlinked, hnodes, hallocated⟩ := hlisted.linked
  have hfresh : addr ∉ items := by
    intro hmem
    rw [hallocated addr hmem] at hfree
    cases hfree
  obtain ⟨next', head', happend, hafter, -⟩ :=
    (hlinked.update_of_not_mem hfresh).append?_eq hlt hfresh (Function.update_self ..)
  rw [networkDevRegisterEventListener, haddr]
  simp only [hlt, hfree, and_self, if_true, happend, Option.map_some]
  refine ⟨_, rfl, ?_, ?_, ?_⟩
  · simp [hlisted.returned, haddr]
  · refine ⟨items ++ [addr], hafter, ?_, ?_⟩
    · have hkept : items.map (Function.update s.node addr call.listener) = items.map s.node :=
        List.map_congr_left fun item hitem =>
          Function.update_of_ne (ne_of_mem_of_not_mem hitem hfresh) _ _
      calc (items ++ [addr]).map (Function.update s.node addr call.listener)
          = items.map s.node ++ [call.listener] := by
            rw [List.map_append, hkept, List.map_singleton, Function.update_self]
        _ = (calls.filter fun call => call.addr.isSome).map (·.listener) ++ [call.listener] := by
            rw [hnodes]
        _ = ((calls ++ [call]).filter fun call => call.addr.isSome).map (·.listener) := by
            simp [haddr]
    · intro item hitem
      show Function.update s.allocated addr true item = true
      by_cases hsame : item = addr
      · rw [hsame, Function.update_self]
      · rw [Function.update_of_ne hsame]
        apply hallocated
        simpa [hsame] using hitem
  · intro other hother
    rw [List.filterMap_append, List.mem_append]
    by_cases hsame : other = addr
    · right
      simp [haddr, hsame]
    · left
      apply hlisted.allocated
      exact (Function.update_of_ne hsame ..).symm.trans hother

theorem listed_register {call : Registration} (hlisted : Listed null calls s)
    (hfresh : MallocFresh null (calls ++ [call])) :
    ∃ after, networkDevRegisterEventListener null s call = some after ∧
      Listed null (calls ++ [call]) after := by
  cases haddr : call.addr with
  | none => exact listed_register_none hlisted haddr
  | some addr =>
      have hnodup := hfresh.nodup
      have hlt := hfresh.lt_null addr (by simp [haddr])
      apply listed_register_some hlisted haddr hlt
      rw [List.filterMap_append, List.nodup_append] at hnodup
      by_contra htaken
      rw [Bool.not_eq_false] at htaken
      exact hnodup.2.2 addr (hlisted.allocated addr htaken) addr (by simp [haddr]) rfl

/-- All registrations come to their end. -/
theorem listed_run {before : List Registration} (hlisted : Listed null before s)
    (hfresh : MallocFresh null (before ++ calls)) :
    ∃ after, Transition.run (networkDevRegisterEventListener null) s calls = some after ∧
      Listed null (before ++ calls) after := by
  induction calls generalizing before s with
  | nil => exact ⟨s, rfl, by rwa [List.append_nil]⟩
  | cons call rest ih =>
      rw [List.append_cons] at hfresh ⊢
      have hfirst : MallocFresh null (before ++ [call]) := by
        constructor
        · have hnodup := hfresh.nodup
          rw [List.filterMap_append] at hnodup
          exact hnodup.of_append_left
        · intro addr haddr
          apply hfresh.lt_null
          rw [List.filterMap_append]
          exact List.mem_append_left _ haddr
      obtain ⟨middle, hstep, hmiddle⟩ := listed_register hlisted hfirst
      obtain ⟨after, hrest, hafter⟩ := ih hmiddle hfresh
      refine ⟨after, ?_, hafter⟩
      rw [Transition.run_cons, hstep]
      exact hrest

theorem listed_empty (null : ℕ) (next : ℕ → ℕ) (node : ℕ → Listener) :
    Listed null [] (empty null next node) :=
  ⟨rfl, ⟨[], rfl, rfl, fun _ hitem => absurd hitem List.not_mem_nil⟩, nofun⟩

/-- An event goes to the listeners whose registration got memory. -/
theorem Listed.eventCallback (hlisted : Listed null calls s)
    (hpointers : ∀ call ∈ calls, call.listener.object ≠ 0 ∧ call.listener.listener ≠ 0)
    (code value : BitVec 32) :
    networkDevEventCallback null s code value =
      some ((calls.filter fun call => call.addr.isSome).map fun call =>
        noticeTo code value call.listener) := by
  obtain ⟨items, hlinked, hnodes, -⟩ := hlisted.linked
  have hall : ((calls.filter fun call => call.addr.isSome).map (·.listener)).filter
      (fun listener => listener.object ≠ 0 ∧ listener.listener ≠ 0) =
        (calls.filter fun call => call.addr.isSome).map (·.listener) := by
    rw [List.filter_eq_self]
    intro listener hlistener
    obtain ⟨call, hcall, rfl⟩ := List.mem_map.mp hlistener
    exact decide_eq_true (hpointers call (List.mem_of_mem_filter hcall))
  rw [networkDevEventCallback, hlinked.members?_eq hlinked.length_le, Option.map_some, hnodes,
    hall, List.map_map]
  rfl

theorem Listed.succeeded (hlisted : Listed null calls s) (code value : BitVec 32) :
    (s.returned.filter fun call => call.2 = 0).map
        (fun call => noticeTo code value call.1.listener) =
      (calls.filter fun call => call.addr.isSome = false).map fun call =>
        noticeTo code value call.listener := by
  rw [hlisted.returned, List.filter_map, List.map_map]
  congr 1
  apply List.filter_congr
  intro call _
  rw [Function.comp_apply]
  cases call.addr with
  | none => rfl
  | some addr => rfl

/-- Events with some code and value tell apart what the callbacks and objects tell apart. -/
theorem notices_eq_iff (left right : List Registration) (code value : BitVec 32) :
    left.map (fun call => noticeTo code value call.listener) =
        right.map (fun call => noticeTo code value call.listener) ↔
      left.map (fun call => (call.listener.listener, call.listener.object)) =
        right.map fun call => (call.listener.listener, call.listener.object) := by
  have hinjective : Function.Injective fun target : ℕ × ℕ =>
      (⟨target.1, target.2, code, value⟩ : Notice) := by
    intro target other hsame
    rw [Notice.mk.injEq] at hsame
    exact Prod.ext hsame.1 hsame.2.1
  rw [← (List.map_injective_iff.mpr hinjective).eq_iff, List.map_map, List.map_map]
  rfl

/-- The registrations come to their end, and the events go to the listeners whose registration
has returned the success value exactly if the registrations that got memory are for the same
callbacks and objects as those that got none. -/
theorem delivers_iff
    (hpointers : ∀ call ∈ calls, call.listener.object ≠ 0 ∧ call.listener.listener ≠ 0)
    (hfresh : MallocFresh null calls) :
    ∃ after,
      Transition.run (networkDevRegisterEventListener null) (empty null next node) calls =
          some after ∧
        (Delivers null after ↔ targets true calls = targets false calls) := by
  obtain ⟨after, hrun, hlisted⟩ := listed_run (listed_empty null next node) hfresh
  rw [List.nil_append] at hlisted
  have hsome : (calls.filter fun call => call.addr.isSome = true) =
      calls.filter fun call => call.addr.isSome := by
    simp
  refine ⟨after, hrun, ?_⟩
  rw [targets, targets, hsome, ← notices_eq_iff _ _ 0 0]
  constructor
  · intro hdelivers
    have hnotices := hdelivers 0 0
    rw [hlisted.eventCallback hpointers, hlisted.succeeded, Option.some.injEq] at hnotices
    exact hnotices
  · intro hsame code value
    rw [hlisted.eventCallback hpointers, hlisted.succeeded, Option.some.injEq, notices_eq_iff,
      ← notices_eq_iff _ _ 0 0]
    exact hsame

/-- One listener, for which there is memory. -/
def onlyListener : Registration := ⟨⟨0, 4, 8⟩, some 0⟩

theorem delivers_broken : ∃ after,
    Transition.run (networkDevRegisterEventListener 1)
        (empty 1 (fun _ => 0) fun _ => ⟨0, 0, 0⟩) [onlyListener] = some after ∧
      ¬Delivers 1 after := by
  refine ⟨_, rfl, fun hdelivers => ?_⟩
  have hnotices := hdelivers 0 0
  cases hnotices

/-- A registration that fails, and then one that does not. -/
theorem delivers_iff_again : ∃ after,
    Transition.run (networkDevRegisterEventListener 2)
        (empty 2 (fun _ => 0) fun _ => ⟨0, 0, 0⟩) [⟨⟨0, 4, 8⟩, none⟩, onlyListener] = some after ∧
      (Delivers 2 after ↔
        targets true [⟨⟨0, 4, 8⟩, none⟩, onlyListener] =
          targets false [⟨⟨0, 4, 8⟩, none⟩, onlyListener]) :=
  delivers_iff (by decide) ⟨by decide, by decide⟩

end Runs

end SimpleLinkHost.EventListeners
