import Mathlib.Algebra.BigOperators.Group.List.Basic
import Mathlib.Algebra.GroupWithZero.Nat
import Mathlib.Data.List.Basic
import Mathlib.Data.Nat.Notation

/-!
# Regions of a memory block

A block of memory is the list of its cells, and a region an interval of them.  Strings that
are written one behind the other are read back from the regions of their lengths; these
lie apart, and inside of every block that has room for all the strings.
-/

namespace SimpleLinkHost.MemoryBlock

variable {Cell : Type*} {block : List Cell} {strings : List (List Cell)} {lengths : List ℕ}
variable {bytes : List Cell} {offset size : ℕ}

structure Region where
  offset : ℕ
  length : ℕ

/-- The region lies inside a block of a size. -/
def Region.Inside (size : ℕ) (region : Region) : Prop := region.offset + region.length ≤ size

/-- The regions do not overlap. -/
def Region.Apart (region other : Region) : Prop :=
  region.offset + region.length ≤ other.offset ∨ other.offset + other.length ≤ region.offset

def Region.read (region : Region) (block : List Cell) : List Cell :=
  (block.drop region.offset).take region.length

/-- The block behind a copy to an offset. -/
def write (block : List Cell) (offset : ℕ) (bytes : List Cell) : List Cell :=
  block.take offset ++ bytes ++ block.drop (offset + bytes.length)

/-- The block behind copies that follow one another from an offset on. -/
def writeAll (block : List Cell) : ℕ → List (List Cell) → List Cell
  | _, [] => block
  | offset, bytes :: rest => writeAll (write block offset bytes) (offset + bytes.length) rest

/-- Regions that follow one another from an offset on. -/
def packed : ℕ → List ℕ → List Region
  | _, [] => []
  | offset, length :: rest => ⟨offset, length⟩ :: packed (offset + length) rest

section Write

theorem length_read_le (region : Region) (block : List Cell) :
    (region.read block).length ≤ region.length :=
  List.length_take_le _ _

@[simp]
theorem read_zero (offset : ℕ) (block : List Cell) : Region.read ⟨offset, 0⟩ block = [] := rfl

@[simp]
theorem write_nil (block : List Cell) (offset : ℕ) : write block offset [] = block := by
  simp [write]

theorem length_write (hinside : offset + bytes.length ≤ block.length) :
    (write block offset bytes).length = block.length := by
  simp only [write, List.length_append, List.length_take, List.length_drop]
  omega

theorem read_write (hinside : offset + bytes.length ≤ block.length) :
    Region.read ⟨offset, bytes.length⟩ (write block offset bytes) = bytes := by
  have hfront : (block.take offset).length = offset := by
    rw [List.length_take]
    omega
  have hbehind : (block.take offset ++ (bytes ++ block.drop (offset + bytes.length))).drop offset =
      bytes ++ block.drop (offset + bytes.length) := by
    rw [List.drop_append_of_le_length (by omega), List.drop_eq_nil_of_le (by omega),
      List.nil_append]
  simp only [Region.read, write, List.append_assoc, hbehind]
  rw [List.take_append_of_le_length (by omega), List.take_length]

/-- A copy does not change what is in front of it. -/
theorem read_write_before {region : Region} (hbefore : region.offset + region.length ≤ offset)
    (hinside : offset + bytes.length ≤ block.length) :
    region.read (write block offset bytes) = region.read block := by
  have hfront : region.offset + region.length ≤ (block.take offset).length := by
    rw [List.length_take]
    omega
  rw [Region.read, Region.read, write, List.take_drop, List.take_drop, List.append_assoc,
    List.take_append_of_le_length hfront, List.take_take, Nat.min_eq_left hbefore]

end Write

section WriteAll

theorem length_writeAll (hinside : offset + strings.flatten.length ≤ block.length) :
    (writeAll block offset strings).length = block.length := by
  induction strings generalizing block offset with
  | nil => rfl
  | cons bytes rest ih =>
      rw [List.flatten_cons, List.length_append] at hinside
      have hwrite : (write block offset bytes).length = block.length := length_write (by omega)
      rw [writeAll, ih (by omega), hwrite]

theorem read_writeAll_before {region : Region} (hbefore : region.offset + region.length ≤ offset)
    (hinside : offset + strings.flatten.length ≤ block.length) :
    region.read (writeAll block offset strings) = region.read block := by
  induction strings generalizing block offset with
  | nil => rfl
  | cons bytes rest ih =>
      rw [List.flatten_cons, List.length_append] at hinside
      have hwrite : (write block offset bytes).length = block.length := length_write (by omega)
      rw [writeAll, ih (by omega) (by omega), read_write_before hbefore (by omega)]

/-- The strings are read back from the regions of their lengths. -/
theorem read_writeAll (hinside : offset + strings.flatten.length ≤ block.length) :
    (packed offset (strings.map List.length)).map (·.read (writeAll block offset strings)) =
      strings := by
  induction strings generalizing block offset with
  | nil => rfl
  | cons bytes rest ih =>
      rw [List.flatten_cons, List.length_append] at hinside
      have hwrite : (write block offset bytes).length = block.length := length_write (by omega)
      have hrest : offset + bytes.length + rest.flatten.length ≤
          (write block offset bytes).length := by omega
      rw [writeAll, List.map_cons, packed, List.map_cons, ih hrest,
        read_writeAll_before (Nat.le_refl _) hrest, read_write (by omega)]

end WriteAll

section Packed

theorem offset_le_of_packed {region : Region} (hregion : region ∈ packed offset lengths) :
    offset ≤ region.offset := by
  induction lengths generalizing offset with
  | nil => cases hregion
  | cons length rest ih =>
      rcases List.mem_cons.mp hregion with hfirst | hrest
      · subst hfirst
        exact Nat.le_refl offset
      · exact Nat.le_trans (Nat.le_add_right offset length) (ih hrest)

theorem packed_apart (offset : ℕ) (lengths : List ℕ) :
    (packed offset lengths).Pairwise Region.Apart := by
  induction lengths generalizing offset with
  | nil => exact List.Pairwise.nil
  | cons length rest ih =>
      refine List.Pairwise.cons (fun other hother => ?_) (ih (offset + length))
      exact .inl (offset_le_of_packed hother)

theorem packed_inside (hsize : offset + lengths.sum ≤ size) :
    ∀ region ∈ packed offset lengths, region.Inside size := by
  induction lengths generalizing offset with
  | nil => exact fun _ hregion => by cases hregion
  | cons length rest ih =>
      rw [List.sum_cons] at hsize
      intro region hregion
      rcases List.mem_cons.mp hregion with hfirst | hrest
      · subst hfirst
        exact Nat.le_trans (Nat.add_le_add_left (Nat.le_add_right length _) offset) hsize
      · exact ih (by omega) region hrest

end Packed

end SimpleLinkHost.MemoryBlock
