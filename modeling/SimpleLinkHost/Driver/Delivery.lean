import Mathlib.Data.List.Induction
import SimpleLinkHost.Core.ProgramInvariant
import SimpleLinkHost.Driver.RxMsg

/-!
# What a read delivers

The bytes that a call has put into a buffer, and what the reading helpers deliver when the
interface has enough bytes for them: where the next read starts, and which bytes of a buffer
are new.
-/

namespace SimpleLinkHost.Delivery

open CallOutcome ProgramInvariant Calls GlobalLock MsgWrite RxMsg

section Buffers

/-- A byte of a buffer behind one more action. -/
def writeByte (buffer : Buffer) (index : ℕ) (byte : Option Byte) : DrvAct → Option Byte
  | .memWrite target offset bytes =>
      if target = buffer ∧ offset ≤ index ∧ index < offset + bytes.length then
        bytes[index - offset]?
      else byte
  | _ => byte

/-- A byte of a buffer behind the actions of a call; `none` if the call has not written
it. -/
def bufferAt (buffer : Buffer) (acts : List DrvAct) (index : ℕ) : Option Byte :=
  acts.foldl (writeByte buffer index) none

/-- The action writes to the buffer. -/
def writesTo (buffer : Buffer) : DrvAct → Bool
  | .memWrite target _ _ => target = buffer
  | _ => false

variable {buffer : Buffer} {acts : List DrvAct} {act : DrvAct} {index offset : ℕ}
variable {bytes : List Byte} {s : DrvState}

theorem bufferAt_concat :
    bufferAt buffer (acts ++ [act]) index =
      writeByte buffer index (bufferAt buffer acts index) act := by
  simp [bufferAt]

theorem writeByte_of_not_writesTo {byte : Option Byte} (hact : writesTo buffer act = false) :
    writeByte buffer index byte act = byte := by
  cases act with
  | memWrite target offset bytes =>
      have htarget : target ≠ buffer := by simpa [writesTo] using hact
      exact if_neg fun hboth => htarget hboth.1
  | _ => rfl

theorem bufferAt_after_of_not_writesTo (hact : writesTo buffer act = false) :
    bufferAt buffer (s.after act).acts index = bufferAt buffer s.acts index :=
  bufferAt_concat.trans (writeByte_of_not_writesTo hact)

theorem bufferAt_memWrite :
    bufferAt buffer (s.after (.memWrite buffer offset bytes)).acts index =
      if offset ≤ index ∧ index < offset + bytes.length then bytes[index - offset]?
      else bufferAt buffer s.acts index := by
  refine bufferAt_concat.trans ?_
  rw [writeByte]
  simp only [true_and]

/-- Only the actions that write to a buffer matter for it. -/
theorem bufferAt_filter (watched : DrvAct → Bool)
    (hwatched : ∀ act, writesTo buffer act = true → watched act = true) :
    bufferAt buffer (acts.filter watched) index = bufferAt buffer acts index := by
  induction acts using List.reverseRecOn with
  | nil => rfl
  | append_singleton acts act ih =>
      rw [List.filter_append, bufferAt_concat, ← ih]
      cases hact : watched act with
      | true => rw [List.filter_cons_of_pos hact, List.filter_nil, bufferAt_concat]
      | false =>
          have hkeeps : writesTo buffer act = false := by
            rw [Bool.eq_false_iff]
            exact fun hwrites => Bool.false_ne_true (hact.symm.trans (hwatched act hwrites))
          rw [List.filter_cons_of_neg (by simp [hact]), List.filter_nil, List.append_nil,
            writeByte_of_not_writesTo hkeeps]

end Buffers

section Watching

/-- What no reading changes: the watched actions so far, and the control block. -/
def watching (watched : DrvAct → Bool) (s : DrvState) : List DrvAct × DriverCB :=
  (s.acts.filter watched, s.cb)

variable {watched : DrvAct → Bool} {s after : DrvState} {act : DrvAct}
variable {buffer target : Buffer}

theorem watching_after (hact : watched act = false) :
    watching watched (s.after act) = watching watched s := by
  refine Prod.ext ?_ rfl
  rw [watching, watching, DrvState.after, List.filter_append,
    List.filter_cons_of_neg (by simp [hact]), List.filter_nil, List.append_nil]

theorem bufferAt_of_watching (hwatched : ∀ act, writesTo buffer act = true → watched act = true)
    (hafter : watching watched after = watching watched s) (index : ℕ) :
    bufferAt buffer after.acts index = bufferAt buffer s.acts index := by
  have hacts : after.acts.filter watched = s.acts.filter watched := congrArg Prod.fst hafter
  rw [← bufferAt_filter watched hwatched, hacts, bufferAt_filter watched hwatched]

theorem writesTo_other (htarget : target ≠ buffer) (offset : ℕ) (bytes : List Byte) :
    writesTo buffer (.memWrite target offset bytes) = false := by
  simpa [writesTo] using htarget

theorem leaves_emit (hact : watched act = false) : Leaves (watching watched) (emit act) :=
  leaves_modify fun _ => watching_after hact

theorem leaves_verifyProtocol (herror : watched (.fatalError .driverAbort) = false)
    (check : Bool) : Leaves (watching watched) (verifyProtocol check) :=
  leaves_ite leaves_pure (leaves_emit herror)

/-- Reading is not watched. -/
def IgnoresReads (watched : DrvAct → Bool) : Prop := ∀ count, watched (.ifRead count) = false

theorem leaves_nwpIfReadCheck (hreads : IgnoresReads watched) (count : ℕ) :
    Leaves (watching watched) (nwpIfReadCheck count) := by
  intro seen before hbefore
  rw [Ensures, nwpIfReadCheck]
  rw [ends_bind, ends_get, ends_ite]
  split
  · exact (watching_after (hreads count)).trans hbefore
  · trivial

theorem leaves_dumpWords (hreads : IgnoresReads watched) (words : ℕ) :
    Leaves (watching watched) (dumpWords words) := by
  induction words with
  | zero => exact leaves_pure
  | succ words ih => exact (leaves_nwpIfReadCheck hreads 4).bind fun _ => ih

variable (hwrites : ∀ offset bytes, watched (.memWrite target offset bytes) = false)

include hwrites

theorem leaves_readInto (hreads : IgnoresReads watched) (offset count : ℕ) :
    Leaves (watching watched) (readInto target offset count) := by
  apply (leaves_nwpIfReadCheck hreads count).bind
  intro bytes
  exact (leaves_emit (hwrites offset bytes)).bind fun _ => leaves_pure

theorem leaves_readIntoIf (hreads : IgnoresReads watched) (cond : Bool) (offset count : ℕ) :
    Leaves (watching watched) (readIntoIf cond target offset count) :=
  leaves_ite (leaves_readInto hwrites hreads offset count) leaves_pure

theorem leaves_readAligned (hreads : IgnoresReads watched) (len : BitVec 16) :
    Leaves (watching watched) (readAligned target len) := by
  apply (leaves_readIntoIf hwrites hreads _ 0 _).bind
  intro _
  apply leaves_runIf
  exact (leaves_nwpIfReadCheck hreads 4).bind fun _ => leaves_emit (hwrites _ _)

end Watching

section Reading

variable {buffer target : Buffer} {s middle after : DrvState} {count more : ℕ}

/-- Between two states `count` bytes were read, none of them into the buffer. -/
structure Passes (buffer : Buffer) (s : DrvState) (count : ℕ) (after : DrvState) : Prop where
  rx : after.rx = s.rx.drop count
  cb : after.cb = s.cb
  bytes : ∀ index, bufferAt buffer after.acts index = bufferAt buffer s.acts index

/-- Between two states `count` bytes were read, and `length` of them stand in the buffer
from `offset` on. -/
structure Fills (buffer : Buffer) (s : DrvState) (count offset length : ℕ) (after : DrvState) :
    Prop where
  rx : after.rx = s.rx.drop count
  cb : after.cb = s.cb
  bytes : ∀ index, bufferAt buffer after.acts index =
    if offset ≤ index ∧ index < offset + length then s.rx[index - offset]?
    else bufferAt buffer s.acts index

theorem Passes.refl : Passes buffer s 0 s := ⟨rfl, rfl, fun _ => rfl⟩

theorem Passes.trans (hfirst : Passes buffer s count middle)
    (hsecond : Passes buffer middle more after) : Passes buffer s (count + more) after := by
  refine ⟨?_, hsecond.cb.trans hfirst.cb, fun index => (hsecond.bytes index).trans
    (hfirst.bytes index)⟩
  rw [hsecond.rx, hfirst.rx, List.drop_drop]

/-- What a read leaves for the next one. -/
theorem length_of_passes (hpasses : Passes buffer s count middle)
    (hrx : count + more ≤ s.rx.length) : more ≤ middle.rx.length := by
  rw [hpasses.rx, List.length_drop]
  omega

theorem completes_nwpIfReadCheck_eq (hrx : count ≤ s.rx.length) :
    Completes (nwpIfReadCheck count) s fun bytes after =>
      bytes = s.rx.take count ∧
        after = ({ s with rx := s.rx.drop count } : DrvState).after (.ifRead count) := by
  rw [Completes, nwpIfReadCheck]
  rw [ends_bind, ends_get, if_pos hrx]
  exact ⟨rfl, rfl⟩

theorem completes_nwpIfReadCheck (buffer : Buffer) (hrx : count ≤ s.rx.length) :
    Completes (nwpIfReadCheck count) s fun bytes after =>
      bytes = s.rx.take count ∧ Passes buffer s count after := by
  apply (completes_nwpIfReadCheck_eq hrx).mono
  intro bytes after hafter
  obtain ⟨hbytes, rfl⟩ := hafter
  exact ⟨hbytes, rfl, rfl, fun index => bufferAt_after_of_not_writesTo rfl⟩

theorem completes_readInto_other (buffer : Buffer) (offset : ℕ) (htarget : target ≠ buffer)
    (hrx : count ≤ s.rx.length) :
    Completes (readInto target offset count) s fun _ after => Passes buffer s count after := by
  apply (completes_nwpIfReadCheck buffer hrx).bind
  intro bytes read hread
  rw [ends_bind, ends_emit]
  refine ⟨hread.2.rx, hread.2.cb, fun index => ?_⟩
  rw [bufferAt_after_of_not_writesTo (by simpa [writesTo] using htarget)]
  exact hread.2.bytes index

theorem completes_readInto (offset : ℕ) (hrx : count ≤ s.rx.length) :
    Completes (readInto buffer offset count) s fun _ after =>
      Fills buffer s count offset count after := by
  apply (completes_nwpIfReadCheck buffer hrx).bind
  intro bytes read hread
  rw [ends_bind, ends_emit]
  refine ⟨hread.2.rx, hread.2.cb, fun index => ?_⟩
  rw [bufferAt_memWrite, hread.1, List.length_take_of_le hrx, hread.2.bytes]
  by_cases hindex : offset ≤ index ∧ index < offset + count
  · rw [if_pos hindex, if_pos hindex, List.getElem?_take_of_lt (by omega)]
  · rw [if_neg hindex, if_neg hindex]

theorem completes_readIntoIf {cond : Bool} (offset : ℕ) (hcond : cond = false → count = 0)
    (hrx : count ≤ s.rx.length) :
    Completes (readIntoIf cond buffer offset count) s fun _ after =>
      Fills buffer s count offset count after := by
  rw [readIntoIf]
  cases cond with
  | true => exact completes_readInto offset hrx
  | false =>
      rw [hcond rfl]
      exact ⟨rfl, rfl, fun index => (if_neg (by omega)).symm⟩

theorem completes_readIntoIf_other (buffer : Buffer) {cond : Bool} (offset : ℕ)
    (htarget : target ≠ buffer) (hcond : cond = false → count = 0) (hrx : count ≤ s.rx.length) :
    Completes (readIntoIf cond target offset count) s fun _ after =>
      Passes buffer s count after := by
  rw [readIntoIf]
  cases cond with
  | true => exact completes_readInto_other buffer offset htarget hrx
  | false =>
      rw [hcond rfl]
      exact Passes.refl

theorem completes_dumpWords (buffer : Buffer) (words : ℕ) (hrx : 4 * words ≤ s.rx.length) :
    Completes (dumpWords words) s fun _ after => Passes buffer s (4 * words) after := by
  induction words generalizing s with
  | zero => exact Passes.refl
  | succ words ih =>
      have hsum : 4 * (words + 1) = 4 + 4 * words := by omega
      rw [hsum] at hrx ⊢
      apply (completes_nwpIfReadCheck buffer (by omega)).bind
      intro _ read hread
      apply (ih (length_of_passes hread.2 hrx)).mono
      exact fun _ after hafter => hread.2.trans hafter

/-- `len` bytes stand in the buffer, and whole words were read. -/
theorem completes_readAligned (len : BitVec 16) (hrx : alignSize len.toNat ≤ s.rx.length) :
    Completes (readAligned buffer len) s fun _ after =>
      Fills buffer s (alignSize len.toNat) 0 len.toNat after := by
  have hwords : wholeWords len + len.toNat % 4 = len.toNat := by
    rw [wholeWords]
    omega
  have hwhole : wholeWords len ≤ s.rx.length := by
    rw [alignSize] at hrx
    omega
  have hnone : decide (4 ≤ wholeWords len) = false → wholeWords len = 0 := by
    rw [decide_eq_false_iff_not]
    rw [wholeWords]
    omega
  have hread : Completes (readIntoIf (4 ≤ wholeWords len) buffer 0 (wholeWords len)) s
      fun _ after => Fills buffer s (wholeWords len) 0 (wholeWords len) after :=
    completes_readIntoIf 0 hnone hwhole
  apply hread.bind
  intro _ read hwords'
  rw [ends_runIf]
  by_cases htail : 0 < len.toNat % 4
  · have hsize : alignSize len.toNat = wholeWords len + 4 := by
      rw [alignSize, wholeWords]
      omega
    have hleft : 4 ≤ read.rx.length := by
      rw [hwords'.rx, List.length_drop]
      omega
    rw [if_pos htail]
    apply (completes_nwpIfReadCheck buffer hleft).bind
    intro tail tailRead htailRead
    refine ⟨?_, htailRead.2.cb.trans hwords'.cb, fun index => ?_⟩
    · rw [hsize]
      change tailRead.rx = _
      rw [htailRead.2.rx, hwords'.rx, List.drop_drop]
    · rw [bufferAt_memWrite, htailRead.2.bytes, hwords'.bytes, htailRead.1,
        List.take_take, List.length_take_of_le (by omega), hwords'.rx]
      by_cases hindex : index < len.toNat
      · rw [if_pos (by omega : 0 ≤ index ∧ index < 0 + len.toNat), Nat.sub_zero]
        by_cases hin : index < wholeWords len
        · rw [if_neg (by omega), if_pos (by omega)]
        · rw [if_pos (by omega), List.getElem?_take_of_lt (by omega), List.getElem?_drop]
          congr 1
          omega
      · rw [if_neg (by omega), if_neg (by omega), if_neg (by omega)]
  · have hsize : alignSize len.toNat = wholeWords len := by
      rw [alignSize, wholeWords]
      omega
    rw [if_neg htail, hsize]
    have hall : wholeWords len = len.toNat := by omega
    rw [← hall]
    exact hwords'

end Reading

section Searching

/-- The parameters of a message behind its search. -/
def foundExt (obj : ActiveObj) (ext : AsyncExt) : AsyncExt :=
  match obj with
  | .notSet | .endless => ext
  | .recv index => { ext with actionIndex := index }
  | .action index handler => { ext with asyncEvtHandler := handler, actionIndex := index }

variable (cfg : RxConfig) {s : DrvState}

/-- The search writes nothing but these parameters, and only if it finds an object. -/
theorem ensures_slDrvFindAndSetActiveObj (pool : Pool.PoolCB) (opcode : BitVec 16) (sd : ℕ) :
    Ensures (slDrvFindAndSetActiveObj cfg pool opcode sd) s fun _ after =>
      after = s.changeCB fun cb =>
        { cb with asyncExt := foundExt (activeObjOf cfg pool opcode sd) cb.asyncExt } := by
  rw [slDrvFindAndSetActiveObj, Ensures]
  cases activeObjOf cfg pool opcode sd with
  | notSet => exact rfl
  | recv index =>
      rw [ends_bind]
      exact rfl
  | action index handler =>
      rw [ends_bind]
      exact rfl
  | endless => trivial

end Searching

end SimpleLinkHost.Delivery
