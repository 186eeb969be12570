import Mathlib.Data.Finite.Prod
import Mathlib.Data.Fintype.Lattice
import SimpleLinkHost.Core.LockTrace
import SimpleLinkHost.Core.Monitor
import SimpleLinkHost.Core.Transition

/-!
# Locks that are taken in order

Threads take turns with their actions, some of which acquire or release a lock; a lock has
one owner, and whoever wants it meanwhile waits.  If every lock is ranked, and every thread
takes a lock only while all it holds are ranked below and gives back what it took, then the
threads never wait in a circle: the owner of the highest lock that is waited for can go on.
-/

namespace SimpleLinkHost.LockOrder

open LockTrace Monitor
open Transition (run run_invariant)

variable {Lock Thread Act Rank : Type*} [DecidableEq Lock] [DecidableEq Thread]
variable [LinearOrder Rank]
variable (event : Act → Option (LockEvent Lock)) (rank : Lock → Rank)

section Orderly

/-- From what it holds, a thread takes locks above it only, and gives all of them back. -/
inductive Orderly : List Lock → List Act → Prop
  | finished : Orderly [] []
  | neutral {held act rest} (hact : event act = none) (hrest : Orderly held rest) :
      Orderly held (act :: rest)
  | acquire {held act rest lock} (hact : event act = some (.acquire lock))
      (habove : ∀ other ∈ held, rank other < rank lock) (hrest : Orderly (lock :: held) rest) :
      Orderly held (act :: rest)
  | release {held act rest lock} (hact : event act = some (.release lock)) (hmem : lock ∈ held)
      (hrest : Orderly (held.erase lock) rest) : Orderly held (act :: rest)

variable {event rank}

theorem Orderly.append {held : List Lock} {acts more : List Act}
    (hacts : Orderly event rank held acts) (hmore : Orderly event rank [] more) :
    Orderly event rank held (acts ++ more) := by
  induction hacts with
  | finished => exact hmore
  | neutral hact _ ih => exact .neutral hact ih
  | acquire hact habove _ ih => exact .acquire hact habove ih
  | release hact hmem _ ih => exact .release hact hmem ih

section Inversion

variable {held : List Lock} {act : Act} {rest : List Act} {lock : Lock}

theorem Orderly.of_neutral (horderly : Orderly event rank held (act :: rest))
    (hact : event act = none) : Orderly event rank held rest := by
  cases horderly with
  | neutral _ hrest => exact hrest
  | acquire hact' _ _ | release hact' _ _ => cases hact.symm.trans hact'

theorem Orderly.of_acquire (horderly : Orderly event rank held (act :: rest))
    (hact : event act = some (.acquire lock)) :
    (∀ other ∈ held, rank other < rank lock) ∧ Orderly event rank (lock :: held) rest := by
  cases horderly with
  | acquire hact' habove hrest =>
      cases hact.symm.trans hact'
      exact ⟨habove, hrest⟩
  | neutral hact' _ | release hact' _ _ => cases hact.symm.trans hact'

theorem Orderly.of_release (horderly : Orderly event rank held (act :: rest))
    (hact : event act = some (.release lock)) :
    lock ∈ held ∧ Orderly event rank (held.erase lock) rest := by
  cases horderly with
  | release hact' hmem hrest =>
      cases hact.symm.trans hact'
      exact ⟨hmem, hrest⟩
  | neutral hact' _ | acquire hact' _ _ => cases hact.symm.trans hact'

end Inversion

theorem orderly_flatten {calls : List (List Act)}
    (hcalls : ∀ acts ∈ calls, Orderly event rank [] acts) :
    Orderly event rank [] calls.flatten := by
  induction calls with
  | nil => exact .finished
  | cons acts calls ih =>
      have hrest := ih fun other hother => hcalls other (List.mem_cons_of_mem acts hother)
      exact (hcalls acts List.mem_cons_self).append hrest

variable (event rank)

/-- What a thread holds after an action. -/
def heldAfter (held : List Lock) (act : Act) : List Lock :=
  match event act with
  | none => held
  | some (.acquire lock) => lock :: held
  | some (.release lock) => held.erase lock

/-- A lock is taken that is not ranked above all those held. -/
def outOfOrder (held : List Lock) (act : Act) : Bool :=
  match event act with
  | some (.acquire lock) => held.any fun other => rank lock ≤ rank other
  | _ => false

variable {event rank}

/-- A trace is orderly if no lock is taken out of order and every lock is given back. -/
theorem orderly_of_neverBad {held : List Lock} {acts : List Act}
    (hordered : NeverBad (heldAfter event) (outOfOrder event rank) held acts)
    (hback : ∀ lock, heldFrom event lock (held.count lock) acts = some 0) :
    Orderly event rank held acts := by
  induction acts generalizing held with
  | nil =>
      have hnone : held = [] := by
        apply List.eq_nil_iff_forall_not_mem.mpr
        intro lock
        rw [← List.count_eq_zero]
        simpa using hback lock
      exact hnone ▸ .finished
  | cons act rest ih =>
      rw [neverBad_cons, heldAfter, outOfOrder] at hordered
      simp only [heldFrom] at hback
      cases hact : event act with
      | none =>
          rw [hact] at hordered hback
          exact .neutral hact (ih hordered.2 hback)
      | some found =>
          cases found with
          | acquire lock =>
              rw [hact] at hordered hback
              have habove : ∀ other ∈ held, rank other < rank lock := by simpa using hordered.1
              apply Orderly.acquire hact habove
              apply ih hordered.2
              intro other
              have hother := hback other
              simp only at hother
              split at hother
              · rename_i heq
                subst heq
                rwa [List.count_cons_self]
              · rename_i hne
                rwa [List.count_cons_of_ne hne]
          | release lock =>
              rw [hact] at hordered hback
              have hmem : lock ∈ held := by
                by_contra hmem
                simpa [List.count_eq_zero_of_not_mem hmem] using hback lock
              apply Orderly.release hact hmem
              apply ih hordered.2
              intro other
              have hother := hback other
              simp only at hother
              split at hother
              · rename_i heq
                subst heq
                rw [List.count_erase_self]
                cases hcount : held.count lock with
                | zero => simp [hcount] at hother
                | succ count => simpa [hcount] using hother
              · rename_i hne
                rwa [List.count_erase_of_ne (Ne.symm hne)]

end Orderly

section Threads

/-- What every thread has still to do, and who owns each lock. -/
structure Threads (Lock Thread Act : Type*) where
  left : Thread → List Act
  owner : Lock → Option Thread

/-- The threads at the start of their work. -/
def beginning (work : Thread → List Act) : Threads Lock Thread Act where
  left := work
  owner _ := none

/-- The thread has only `rest` left to do, and the locks have these owners. -/
def Threads.goneOn (s : Threads Lock Thread Act) (thread : Thread) (rest : List Act)
    (owner : Lock → Option Thread) : Threads Lock Thread Act where
  left := Function.update s.left thread rest
  owner := owner

/-- A thread takes its next action; it waits if that is a lock which has an owner. -/
def step (s : Threads Lock Thread Act) (thread : Thread) : Option (Threads Lock Thread Act) :=
  match s.left thread with
  | [] => none
  | act :: rest =>
      match event act with
      | none => some (s.goneOn thread rest s.owner)
      | some (.acquire lock) =>
          if s.owner lock = none then
            some (s.goneOn thread rest (Function.update s.owner lock (some thread)))
          else none
      | some (.release lock) =>
          some (s.goneOn thread rest (Function.update s.owner lock none))

/-- The thread owns these locks, and goes on from there in order. -/
structure Goes (s : Threads Lock Thread Act) (thread : Thread) (held : List Lock) : Prop where
  nodup : held.Nodup
  owns : ∀ lock, lock ∈ held ↔ s.owner lock = some thread
  orderly : Orderly event rank held (s.left thread)

/-- Every thread goes on in order. -/
def InOrder (s : Threads Lock Thread Act) : Prop := ∀ thread, ∃ held, Goes event rank s thread held

variable {event rank} {s after : Threads Lock Thread Act} {thread other : Thread}
variable {held : List Lock}

omit [DecidableEq Thread] in
theorem inOrder_beginning {work : Thread → List Act}
    (hwork : ∀ thread, Orderly event rank [] (work thread)) :
    InOrder event rank (beginning work : Threads Lock Thread Act) :=
  fun thread => ⟨[], List.nodup_nil, by simp [beginning], hwork thread⟩

/-- The ways in which a thread takes a step. -/
inductive StepCase (event : Act → Option (LockEvent Lock)) (s : Threads Lock Thread Act)
    (thread : Thread) : Threads Lock Thread Act → Prop
  | neutral {act rest} (hleft : s.left thread = act :: rest) (hact : event act = none) :
      StepCase event s thread (s.goneOn thread rest s.owner)
  | acquire {act rest lock} (hleft : s.left thread = act :: rest)
      (hact : event act = some (.acquire lock)) (hfree : s.owner lock = none) :
      StepCase event s thread
        (s.goneOn thread rest (Function.update s.owner lock (some thread)))
  | release {act rest lock} (hleft : s.left thread = act :: rest)
      (hact : event act = some (.release lock)) :
      StepCase event s thread (s.goneOn thread rest (Function.update s.owner lock none))

theorem stepCase_of_step (hstep : step event s thread = some after) :
    StepCase event s thread after := by
  rw [step] at hstep
  split at hstep
  · cases hstep
  rename_i act rest hleft
  split at hstep
  · rename_i hact
    rw [← Option.some.inj hstep]
    exact .neutral hleft hact
  · rename_i lock hact
    split at hstep
    · rename_i hfree
      rw [← Option.some.inj hstep]
      exact .acquire hleft hact hfree
    · cases hstep
  · rename_i lock hact
    rw [← Option.some.inj hstep]
    exact .release hleft hact

section GoneOn

variable {rest : List Act} {owner : Lock → Option Thread}

omit [DecidableEq Lock]

@[simp]
theorem owner_goneOn : (s.goneOn thread rest owner).owner = owner := rfl

@[simp]
theorem left_goneOn : (s.goneOn thread rest owner).left thread = rest := Function.update_self ..

theorem left_goneOn_of_ne (hother : other ≠ thread) :
    (s.goneOn thread rest owner).left other = s.left other :=
  Function.update_of_ne hother ..

end GoneOn

/-- A thread that does not move goes on as before, as long as its locks stay its own. -/
theorem Goes.of_other {rest : List Act} {owner : Lock → Option Thread}
    (hgoes : Goes event rank s other held) (hother : other ≠ thread)
    (howner : ∀ lock, owner lock = some other ↔ s.owner lock = some other) :
    Goes event rank (s.goneOn thread rest owner) other held where
  nodup := hgoes.nodup
  owns lock := (hgoes.owns lock).trans (howner lock).symm
  orderly := by
    rw [left_goneOn_of_ne hother]
    exact hgoes.orderly

theorem inOrder_step (s : Threads Lock Thread Act) (thread : Thread)
    (after : Threads Lock Thread Act) (horder : InOrder event rank s)
    (hstep : step event s thread = some after) : InOrder event rank after := by
  intro other
  obtain ⟨held, hgoes⟩ := horder other
  obtain ⟨mine, hmine⟩ := horder thread
  have horderly := hmine.orderly
  cases stepCase_of_step hstep with
  | @neutral act rest hleft hact =>
      rw [hleft] at horderly
      by_cases hother : other = thread
      · subst hother
        refine ⟨mine, hmine.nodup, hmine.owns, ?_⟩
        rw [left_goneOn]
        exact horderly.of_neutral hact
      · exact ⟨held, hgoes.of_other hother fun _ => Iff.rfl⟩
  | @acquire act rest lock hleft hact hfree =>
      rw [hleft] at horderly
      obtain ⟨habove, hrest⟩ := horderly.of_acquire hact
      by_cases hother : other = thread
      · subst hother
        refine ⟨lock :: mine, ?_, ?_, ?_⟩
        · exact List.nodup_cons.mpr ⟨fun hmem => (habove lock hmem).false, hmine.nodup⟩
        · intro found
          rw [List.mem_cons, hmine.owns, owner_goneOn, Function.update_apply]
          by_cases hfound : found = lock <;> simp [hfound]
        · rw [left_goneOn]
          exact hrest
      · refine ⟨held, hgoes.of_other hother fun found => ?_⟩
        rw [Function.update_apply]
        by_cases hfound : found = lock <;> simp [hfound, hfree, Ne.symm hother]
  | @release act rest lock hleft hact =>
      rw [hleft] at horderly
      obtain ⟨hmem, hrest⟩ := horderly.of_release hact
      by_cases hother : other = thread
      · subst hother
        refine ⟨mine.erase lock, hmine.nodup.erase lock, ?_, ?_⟩
        · intro found
          rw [hmine.nodup.mem_erase_iff, hmine.owns, owner_goneOn, Function.update_apply]
          by_cases hfound : found = lock <;> simp [hfound]
        · rw [left_goneOn]
          exact hrest
      · refine ⟨held, hgoes.of_other hother fun found => ?_⟩
        rw [Function.update_apply]
        by_cases hfound : found = lock
        · simp [hfound, (hmine.owns lock).mp hmem, Ne.symm hother]
        · simp [hfound]

/-- A thread that cannot go on has finished, or waits for a lock that has an owner. -/
theorem waits_of_stuck (hstuck : step event s thread = none) (hleft : s.left thread ≠ []) :
    ∃ lock act rest owner, s.left thread = act :: rest ∧ event act = some (.acquire lock) ∧
      s.owner lock = some owner := by
  rw [step] at hstuck
  split at hstuck
  · rename_i hnil
    exact absurd hnil hleft
  rename_i act rest hcons
  split at hstuck
  · cases hstuck
  · rename_i lock hact
    split at hstuck
    · cases hstuck
    · rename_i hfree
      obtain ⟨owner, howner⟩ := Option.ne_none_iff_exists'.mp hfree
      exact ⟨lock, act, rest, owner, hcons, hact, howner⟩
  · cases hstuck

/-- If no thread can go on, then all have finished and every lock is free. -/
theorem finished_of_stuck [Finite Thread] (horder : InOrder event rank s)
    (hstuck : ∀ thread, step event s thread = none) :
    (∀ thread, s.left thread = []) ∧ ∀ lock, s.owner lock = none := by
  have hfinished : ∀ thread, s.left thread = [] := by
    by_contra hnone
    push Not at hnone
    obtain ⟨first, hfirst⟩ := hnone
    have hwaits := fun waiting : { thread // s.left thread ≠ [] } =>
      waits_of_stuck (hstuck waiting.1) waiting.2
    choose lock act rest owner hleft hact howner using hwaits
    have : Nonempty { thread // s.left thread ≠ [] } := ⟨first, hfirst⟩
    -- the owner of the highest lock that is waited for waits for one above it
    obtain ⟨last, hlast⟩ := Finite.exists_max fun waiting => rank (lock waiting)
    obtain ⟨held, hgoes⟩ := horder (owner last)
    have hmem : lock last ∈ held := (hgoes.owns _).mpr (howner last)
    have hbusy : s.left (owner last) ≠ [] := by
      intro hnil
      have horderly := hgoes.orderly
      rw [hnil] at horderly
      cases horderly
      cases hmem
    have horderly := hgoes.orderly
    rw [hleft ⟨owner last, hbusy⟩] at horderly
    have habove := (horderly.of_acquire (hact ⟨owner last, hbusy⟩)).1 _ hmem
    exact (habove.trans_le (hlast ⟨owner last, hbusy⟩)).false
  refine ⟨hfinished, fun lock => ?_⟩
  by_contra howned
  obtain ⟨thread, howner⟩ := Option.ne_none_iff_exists'.mp howned
  obtain ⟨held, hgoes⟩ := horder thread
  have hmem := (hgoes.owns lock).mpr howner
  have horderly := hgoes.orderly
  rw [hfinished thread] at horderly
  cases horderly
  cases hmem

/-- Whatever turns orderly threads take, some thread can go on until all have finished. -/
theorem finished_of_run [Finite Thread] {work : Thread → List Act} {turns : List Thread}
    {reached : Threads Lock Thread Act} (hwork : ∀ thread, Orderly event rank [] (work thread))
    (hrun : run (step event) (beginning work) turns = some reached)
    (hstuck : ∀ thread, step event reached thread = none) :
    (∀ thread, reached.left thread = []) ∧ ∀ lock, reached.owner lock = none :=
  finished_of_stuck (run_invariant inOrder_step (inOrder_beginning hwork) hrun) hstuck

end Threads

end SimpleLinkHost.LockOrder
