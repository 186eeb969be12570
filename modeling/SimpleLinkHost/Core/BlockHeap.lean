import Mathlib.Data.List.Basic
import Mathlib.Data.Nat.Notation
import Mathlib.Logic.Function.Basic

/-!
# A heap of typed blocks

A block is named by the number of the `malloc` that gave it, so that no name comes back.  A
null pointer is `none`.  Freeing what is not live has no result, and so a program that has one
frees each block at most once.
-/

namespace SimpleLinkHost.BlockHeap

variable {Object : Type*}

/-- The live blocks with their contents; the next `malloc` gives the block `given`. -/
structure Heap (Object : Type*) where
  given : ℕ
  block : ℕ → Option Object
  fresh : ∀ p, given ≤ p → block p = none

namespace Heap

variable {heap after : Heap Object} {object : Object} {p q : ℕ}

def empty : Heap Object := ⟨0, fun _ => none, fun _ _ => rfl⟩

/-- A `malloc` that succeeds, of a block with some contents. -/
def alloc (heap : Heap Object) (object : Object) : Heap Object where
  given := heap.given + 1
  block := Function.update heap.block heap.given (some object)
  fresh p hp := by
    rw [Function.update_of_ne (by omega)]
    exact heap.fresh p (by omega)

def malloc (heap : Heap Object) (succeeds : Bool) (object : Object) :
    Option ℕ × Heap Object :=
  if succeeds then (some heap.given, heap.alloc object) else (none, heap)

/-- A store to a block, which a block that is not live ignores. -/
def modify (heap : Heap Object) (p : ℕ) (change : Object → Object) : Heap Object where
  given := heap.given
  block := Function.update heap.block p ((heap.block p).map change)
  fresh q hq := by
    by_cases hsame : q = p
    · rw [hsame, Function.update_self, heap.fresh p (hsame ▸ hq)]
      rfl
    · rw [Function.update_of_ne hsame]
      exact heap.fresh q hq

def remove (heap : Heap Object) (p : ℕ) : Heap Object where
  given := heap.given
  block := Function.update heap.block p none
  fresh q hq := by
    by_cases hsame : q = p
    · rw [hsame, Function.update_self]
    · rw [Function.update_of_ne hsame]
      exact heap.fresh q hq

/-- Freeing a null pointer does nothing. -/
def free? (heap : Heap Object) : Option ℕ → Option (Heap Object)
  | none => some heap
  | some p => if (heap.block p).isSome then some (heap.remove p) else none

def freeAll? (heap : Heap Object) : List (Option ℕ) → Option (Heap Object)
  | [] => some heap
  | pointer :: rest => (heap.free? pointer).bind fun heap => heap.freeAll? rest

/-- The blocks that have been given between two heaps. -/
def since (before after : Heap Object) : List ℕ :=
  List.range' before.given (after.given - before.given)

theorem mem_since_iff : p ∈ heap.since after ↔ heap.given ≤ p ∧ p < after.given := by
  rw [since, List.mem_range'_1]
  omega

theorem not_mem_since_self (heap : Heap Object) (p : ℕ) : p ∉ heap.since heap := by
  rw [mem_since_iff]
  omega

@[simp]
theorem alloc_block_given (heap : Heap Object) (object : Object) :
    (heap.alloc object).block heap.given = some object :=
  Function.update_self _ _ _

theorem alloc_block_of_ne (hp : p ≠ heap.given) : (heap.alloc object).block p = heap.block p :=
  Function.update_of_ne hp _ _

@[simp]
theorem malloc_true (heap : Heap Object) (object : Object) :
    heap.malloc true object = (some heap.given, heap.alloc object) := rfl

@[simp]
theorem malloc_false (heap : Heap Object) (object : Object) :
    heap.malloc false object = (none, heap) := rfl

theorem modify_block_self {change : Object → Object} (hp : heap.block p = some object) :
    (heap.modify p change).block p = some (change object) := by
  simp [modify, hp]

theorem modify_block_of_ne {change : Object → Object} (hq : q ≠ p) :
    (heap.modify p change).block q = heap.block q :=
  Function.update_of_ne hq _ _

theorem lt_given_of_live (hp : heap.block p = some object) : p < heap.given := by
  by_contra hge
  rw [heap.fresh p (by omega)] at hp
  cases hp

theorem remove_block_of_ne (hq : q ≠ p) : (heap.remove p).block q = heap.block q :=
  Function.update_of_ne hq _ _

theorem free?_of_live (hp : (heap.block p).isSome) :
    heap.free? (some p) = some (heap.remove p) :=
  if_pos hp

/-- Frees of different live blocks go through, and leave the others. -/
theorem freeAll?_of_live {pointers : List (Option ℕ)} (hnodup : pointers.Nodup)
    (hlive : ∀ pointer ∈ pointers, ∃ q, pointer = some q ∧ (heap.block q).isSome) :
    ∃ final, heap.freeAll? pointers = some final ∧
      ∀ q, some q ∉ pointers → final.block q = heap.block q := by
  induction pointers generalizing heap with
  | nil => exact ⟨heap, rfl, fun _ _ => rfl⟩
  | cons pointer rest ih =>
      obtain ⟨hnew, hrest⟩ := List.nodup_cons.mp hnodup
      obtain ⟨q, rfl, hq⟩ := hlive pointer List.mem_cons_self
      have hlive' : ∀ pointer ∈ rest,
          ∃ other, pointer = some other ∧ ((heap.remove q).block other).isSome := by
        intro pointer hpointer
        obtain ⟨other, rfl, hother⟩ := hlive pointer (List.mem_cons_of_mem _ hpointer)
        have hne : other ≠ q := fun hsame => hnew (hsame ▸ hpointer)
        refine ⟨other, rfl, ?_⟩
        rw [remove_block_of_ne hne]
        exact hother
      obtain ⟨final, hfinal, hothers⟩ := ih hrest hlive'
      refine ⟨final, ?_, fun other hother => ?_⟩
      · rw [freeAll?, free?_of_live hq]
        exact hfinal
      · rw [List.mem_cons, not_or] at hother
        rw [hothers other hother.2]
        exact remove_block_of_ne fun hsame => hother.1 (congrArg some hsame)

end Heap

end SimpleLinkHost.BlockHeap
