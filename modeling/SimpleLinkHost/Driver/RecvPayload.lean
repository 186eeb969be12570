import SimpleLinkHost.Driver.CmdOpLocks
import SimpleLinkHost.Driver.CmdPayload
import SimpleLinkHost.Driver.CmdSequence
import SimpleLinkHost.Driver.DataOpLocks

/-!
# The data of a receive response

A receive response is taken by the object that waits for it, or, for the control socket, by a
branch with a buffer of its own.  Both read the arguments and then the data; they differ in the
last word, and neither compares the received length with the room it has.
-/

namespace SimpleLinkHost.RecvPayload

open CallOutcome ProgramInvariant Calls GlobalLock MsgWrite RxMsg MsgRead MsgFate Delivery
open DataOp (DataConfig ReadEnv slDrvDataReadOp)

section Takers

variable (cfg : RxConfig)

/-- Who takes a receive response. -/
inductive Taker
  | obj (index : ℕ)
  | ctrlSock
deriving DecidableEq

/-- The object that was found, or the branch for the control socket. -/
def takerOf (env : MsgEnv) (opcode : BitVec 16) (args : List Byte) : Option Taker :=
  match activeObjOf cfg env.pool opcode (recvSocket cfg args) with
  | .recv index => some (.obj index)
  | .action index _ => some (.obj index)
  | .notSet =>
      if cfg.multiSelect && cfg.recvSd args = env.multiSelectCB.ctrlSockFD then some .ctrlSock
      else none
  | .endless => none

/-- The part of the branch behind the search. -/
def takerPart (env : MsgEnv) (opcode : BitVec 16) (args : List Byte) : Taker → DrvM Unit
  | .obj _ => readRecvObj cfg env opcode args
  | .ctrlSock => readCtrlSock cfg opcode args

/-- `StatusOrLen` as a length: an error carries no data. -/
def recvLen (args : List Byte) : ℕ := (cfg.actDataSize args).toInt.toNat

variable {cfg} {env : MsgEnv} {opcode : BitVec 16} {s : DrvState}

/-- The interface, the control block and the buffers are as before. -/
structure Untouched (s after : DrvState) : Prop where
  rx : after.rx = s.rx
  cb : after.cb = s.cb
  bytes : ∀ buffer index, bufferAt buffer after.acts index = bufferAt buffer s.acts index

theorem Untouched.after {act : DrvAct} {middle : DrvState} (huntouched : Untouched s middle)
    (hact : ∀ buffer, writesTo buffer act = false) : Untouched s (middle.after act) := by
  refine ⟨huntouched.rx, huntouched.cb, fun buffer index => ?_⟩
  rw [bufferAt_after_of_not_writesTo (hact buffer)]
  exact huntouched.bytes buffer index

theorem completes_verifyProtocol_untouched {middle : DrvState} (huntouched : Untouched s middle)
    (check : Bool) :
    Completes (verifyProtocol check) middle fun _ after => Untouched s after := by
  cases check with
  | true => exact huntouched
  | false => exact huntouched.after fun _ => rfl

/-- The search finds the taker, and tells the object that it finds. -/
theorem completes_search {taker : Taker} {args : List Byte}
    (htaker : takerOf cfg env opcode args = some taker) :
    Completes (slDrvFindAndSetActiveObj cfg env.pool opcode (recvSocket cfg args)) s
      fun found after => found = decide (taker ≠ .ctrlSock) ∧ after.rx = s.rx ∧
        after.acts = s.acts ∧
        (∀ index, taker = .obj index → after.cb.asyncExt.actionIndex = index) ∧
        (taker = .ctrlSock →
          cfg.multiSelect = true ∧ cfg.recvSd args = env.multiSelectCB.ctrlSockFD) := by
  rw [takerOf] at htaker
  rw [Completes, slDrvFindAndSetActiveObj]
  split at htaker
  · rename_i index hobj
    rw [hobj, ← Option.some.inj htaker]
    refine ⟨rfl, rfl, rfl, fun other hother => ?_, by simp⟩
    exact Taker.obj.inj hother
  · rename_i index handler hobj
    rw [hobj, ← Option.some.inj htaker]
    refine ⟨rfl, rfl, rfl, fun other hother => ?_, by simp⟩
    exact Taker.obj.inj hother
  · rename_i hobj
    rw [hobj]
    split at htaker
    · rename_i hctrl
      rw [Bool.and_eq_true, decide_eq_true_eq] at hctrl
      rw [← Option.some.inj htaker]
      exact ⟨rfl, rfl, rfl, by simp, fun _ => hctrl⟩
    · cases htaker
  · cases htaker

/-- The rule for a receive response that is taken. -/
theorem completes_readRecvResp {taker : Taker} {last : DrvState → Prop}
    (hargs : cfg.recvArgsSize ≤ s.rx.length)
    (htaker : takerOf cfg env opcode (s.rx.take cfg.recvArgsSize) = some taker)
    (hpart : ∀ found : DrvState, found.rx = s.rx.drop cfg.recvArgsSize →
      (∀ buffer index, bufferAt buffer found.acts index = bufferAt buffer s.acts index) →
      (∀ index, taker = .obj index → found.cb.asyncExt.actionIndex = index) →
      Completes (takerPart cfg env opcode (s.rx.take cfg.recvArgsSize) taker) found
        fun _ read => last (read.after (.unlock .protectionLockObj))) :
    Completes (readRecvResp cfg env opcode) s fun _ after => last after := by
  rw [readRecvResp]
  apply (completes_nwpIfReadCheck_eq hargs).bind
  rintro _ read ⟨rfl, rfl⟩
  generalize hadvanced : ({ s with rx := s.rx.drop cfg.recvArgsSize } : DrvState) = advanced
  have hadvancedRx : advanced.rx = s.rx.drop cfg.recvArgsSize := by rw [← hadvanced]
  have hadvancedActs : advanced.acts = s.acts := by rw [← hadvanced]
  have hread : Untouched advanced (advanced.after (.ifRead cfg.recvArgsSize)) :=
    Untouched.after ⟨rfl, rfl, fun _ _ => rfl⟩ fun _ => rfl
  apply (completes_verifyProtocol_untouched hread _).bind
  intro _ verified hverified
  rw [protectionObjLockForever, ends_bind, ends_emit]
  apply (completes_search htaker).bind
  intro found set hset
  obtain ⟨rfl, hrx, hacts, hindex, hctrl⟩ := hset
  have hlocked : Untouched advanced (verified.after (.lock .protectionLockObj)) :=
    hverified.after fun _ => rfl
  have hsetRx : set.rx = s.rx.drop cfg.recvArgsSize :=
    calc set.rx = (verified.after (.lock .protectionLockObj)).rx := hrx
      _ = advanced.rx := hlocked.rx
      _ = s.rx.drop cfg.recvArgsSize := hadvancedRx
  have hsetBytes : ∀ buffer index, bufferAt buffer set.acts index =
      bufferAt buffer s.acts index := by
    intro buffer index
    rw [hacts, hlocked.bytes, hadvancedActs]
  have hread := hpart set hsetRx hsetBytes hindex
  cases taker with
  | obj index =>
      simp only [ne_eq, reduceCtorEq, not_false_eq_true, decide_true, Bool.not_true,
        Bool.and_false, Bool.false_and, Bool.false_eq_true, if_false, if_true]
      rw [ends_bind]
      exact hread
  | ctrlSock =>
      obtain ⟨hselect, hsock⟩ := hctrl rfl
      simp only [hselect, hsock, ne_eq, not_true_eq_false, decide_false, Bool.not_false,
        Bool.and_true, decide_true, if_true]
      rw [ends_bind]
      exact hread

end Takers

section Parts

variable {cfg : RxConfig} {env : MsgEnv} {opcode : BitVec 16} {args : List Byte}
variable {buffer : Buffer} {s middle last : DrvState} {count length more size : ℕ}

/-- Between two states `count` bytes were read, and the first `length` bytes of the buffer were
written. -/
structure Covers (buffer : Buffer) (s : DrvState) (count length : ℕ) (after : DrvState) :
    Prop where
  rx : after.rx = s.rx.drop count
  inside : ∀ index < length, (bufferAt buffer after.acts index).isSome
  beyond : ∀ index, length ≤ index →
    bufferAt buffer after.acts index = bufferAt buffer s.acts index

/-- A read goes on where the buffer was written to. -/
theorem Covers.fills (hcovers : Covers buffer s count length middle)
    (hfills : Fills buffer middle more length size last) (hsize : size ≤ middle.rx.length) :
    Covers buffer s (count + more) (length + size) last := by
  refine ⟨?_, fun index hindex => ?_, fun index hindex => ?_⟩
  · rw [hfills.rx, hcovers.rx, List.drop_drop]
  · rw [hfills.bytes]
    split
    · rw [List.getElem?_eq_getElem (by omega), Option.isSome_some]
    · exact hcovers.inside index (by omega)
  · rw [hfills.bytes, if_neg (by omega)]
    exact hcovers.beyond index (by omega)

theorem Covers.passes (hcovers : Covers buffer s count length middle)
    (hpasses : Passes buffer middle more last) : Covers buffer s (count + more) length last := by
  refine ⟨?_, fun index hindex => ?_, fun index hindex => ?_⟩
  · rw [hpasses.rx, hcovers.rx, List.drop_drop]
  · rw [hpasses.bytes]
    exact hcovers.inside index hindex
  · rw [hpasses.bytes]
    exact hcovers.beyond index hindex

theorem Covers.after {act : DrvAct} (hcovers : Covers buffer s count length middle)
    (hact : writesTo buffer act = false) : Covers buffer s count length (middle.after act) := by
  refine ⟨hcovers.rx, fun index hindex => ?_, fun index hindex => ?_⟩
  · rw [bufferAt_after_of_not_writesTo hact]
    exact hcovers.inside index hindex
  · rw [bufferAt_after_of_not_writesTo hact]
    exact hcovers.beyond index hindex

/-- The sizes of the SDK: the arguments begin with the first four bytes. -/
structure RecvSizes (cfg : RxConfig) : Prop where
  ipv4 : cfg.recvArgsSize ≤ cfg.recvFromIpv4ArgsSize
  ipv6 : cfg.recvArgsSize ≤ cfg.recvFromIpv6ArgsSize

theorem RecvSizes.le_expArgSize (hsizes : RecvSizes cfg) (opcode : BitVec 16) :
    cfg.recvArgsSize ≤ expArgSize cfg opcode := by
  rw [expArgSize]
  split
  · exact hsizes.ipv4
  · split
    · exact hsizes.ipv6
    · exact Nat.le_refl _

theorem recvLen_of_pos (hpos : 0 < (cfg.actDataSize args).toInt) :
    recvLen cfg args = (cfg.actDataSize args).toNat := by
  rw [recvLen, (CmdPayload.toNat_of_pos hpos).1, Int.toNat_natCast]

theorem recvLen_of_not_pos (hnot : ¬0 < (cfg.actDataSize args).toInt) : recvLen cfg args = 0 := by
  rw [recvLen]
  omega

/-- What the branch for the control socket reads of the data. -/
def ctrlSockLen (cfg : RxConfig) (args : List Byte) : ℕ := recvLen cfg args / 4 * 4

theorem covers_readCtrlSock (hsizes : RecvSizes cfg) (hargs : args.length = cfg.recvArgsSize)
    (hrx : expArgSize cfg opcode - cfg.recvArgsSize + ctrlSockLen cfg args ≤ s.rx.length) :
    Completes (readCtrlSock cfg opcode args) s fun _ after =>
      Covers .ctrlSockBuffer s (expArgSize cfg opcode - cfg.recvArgsSize + ctrlSockLen cfg args)
        (expArgSize cfg opcode + ctrlSockLen cfg args) after := by
  have hle := hsizes.le_expArgSize opcode
  have hcopied : Covers .ctrlSockBuffer s 0 cfg.recvArgsSize
      (s.after (.memWrite .ctrlSockBuffer 0 args)) := by
    refine ⟨rfl, fun index hindex => ?_, fun index hindex => ?_⟩
    · rw [bufferAt_memWrite, if_pos (by omega), List.getElem?_eq_getElem (by omega),
        Option.isSome_some]
    · rw [bufferAt_memWrite, if_neg (by omega)]
  have hnoArgs : decide (cfg.recvArgsSize < expArgSize cfg opcode) = false →
      expArgSize cfg opcode - cfg.recvArgsSize = 0 := by
    rw [decide_eq_false_iff_not]
    omega
  have hargsRx : expArgSize cfg opcode - cfg.recvArgsSize ≤
      (s.after (.memWrite .ctrlSockBuffer 0 args)).rx.length := (Nat.le_add_right _ _).trans hrx
  rw [Completes, readCtrlSock, ends_bind, ends_emit]
  apply (completes_readIntoIf cfg.recvArgsSize hnoArgs hargsRx).bind
  intro _ addressed hfills
  have haddressed := hcopied.fills hfills hargsRx
  rw [Nat.zero_add, Nat.add_sub_cancel' hle] at haddressed
  by_cases hpos : 0 < (cfg.actDataSize args).toInt
  · have hlen : wholeWords (cfg.actDataSize args) = ctrlSockLen cfg args := by
      rw [ctrlSockLen, recvLen_of_pos hpos, wholeWords]
    have hnoData : decide (0 < (cfg.actDataSize args).toInt ∧ 4 ≤ ctrlSockLen cfg args) = false →
        ctrlSockLen cfg args = 0 := by
      rw [decide_eq_false_iff_not, ctrlSockLen]
      omega
    have hdataRx : ctrlSockLen cfg args ≤ addressed.rx.length := by
      rw [haddressed.rx, List.length_drop]
      omega
    rw [hlen]
    apply (completes_readIntoIf (expArgSize cfg opcode) hnoData hdataRx).bind
    intro _ read hdata
    exact haddressed.fills hdata hdataRx
  · have hnone : ctrlSockLen cfg args = 0 := by rw [ctrlSockLen, recvLen_of_not_pos hpos]
    rw [hnone, readIntoIf, if_neg (by simp [hpos])]
    exact haddressed

theorem covers_readRecvObj (hrx : expArgSize cfg opcode - cfg.recvArgsSize +
      alignSize (recvLen cfg args) ≤ s.rx.length) :
    Completes (readRecvObj cfg env opcode args) s fun _ after =>
      Covers (.recvData s.cb.asyncExt.actionIndex) s
        (expArgSize cfg opcode - cfg.recvArgsSize + alignSize (recvLen cfg args))
        (recvLen cfg args) after := by
  generalize hindex : s.cb.asyncExt.actionIndex = index
  have hnoArgs : decide (cfg.recvArgsSize < expArgSize cfg opcode) = false →
      expArgSize cfg opcode - cfg.recvArgsSize = 0 := by
    rw [decide_eq_false_iff_not]
    omega
  rw [readRecvObj]
  apply (completes_verifyProtocol_untouched ⟨rfl, rfl, fun _ _ => rfl⟩ env.pArgsSet).bind
  intro _ verified hverified
  rw [ends_bind, ends_get, ends_bind, ends_emit, hverified.cb, hindex]
  have hcopied : Covers (.recvData index) s 0 0
      (verified.after (.memWrite (.recvArgs index) 0 args)) := by
    refine ⟨hverified.rx, fun _ hnone => absurd hnone (Nat.not_lt_zero _), fun other _ => ?_⟩
    rw [bufferAt_after_of_not_writesTo (writesTo_other (by simp) _ _)]
    exact hverified.bytes _ other
  have hargsRx : expArgSize cfg opcode - cfg.recvArgsSize ≤
      (verified.after (.memWrite (.recvArgs index) 0 args)).rx.length := by
    rw [hcopied.rx]
    exact (Nat.le_add_right _ _).trans hrx
  apply (completes_readIntoIf_other (.recvData index) cfg.recvArgsSize (by simp) hnoArgs
    hargsRx).bind
  intro _ addressed hpasses
  have haddressed := hcopied.passes hpasses
  rw [Nat.zero_add] at haddressed
  rw [ends_bind, ends_runIf]
  split
  · rename_i hpos
    rw [recvLen_of_pos hpos] at hrx ⊢
    apply (completes_verifyProtocol_untouched ⟨rfl, rfl, fun _ _ => rfl⟩ env.pDataSet).bind
    intro _ checked hchecked
    have hdataRx : alignSize (cfg.actDataSize args).toNat ≤ checked.rx.length := by
      rw [hchecked.rx, haddressed.rx, List.length_drop]
      omega
    have hidle : Passes (.recvData index) addressed 0 checked :=
      ⟨hchecked.rx, hchecked.cb, hchecked.bytes _⟩
    have hsize : (cfg.actDataSize args).toNat ≤ checked.rx.length := by
      rw [alignSize] at hdataRx
      omega
    apply Ends.mono (completes_readAligned (cfg.actDataSize args) hdataRx)
    · intro _ read hfills
      have hread := (haddressed.passes hidle).fills hfills hsize
      rw [Nat.zero_add] at hread
      exact hread.after rfl
    · exact fun _ _ hfalse => hfalse.elim
  · rename_i hpos
    rw [recvLen_of_not_pos hpos]
    exact haddressed.after rfl

/-- The action writes to the data of a receive. -/
def writesRecvData : DrvAct → Bool
  | .memWrite (.recvData _) _ _ => true
  | _ => false

theorem writesRecvData_of_writesTo {index : ℕ} (act : DrvAct)
    (hwrites : writesTo (.recvData index) act = true) : writesRecvData act = true := by
  cases act with
  | memWrite target offset bytes =>
      have htarget : target = .recvData index := by simpa [writesTo] using hwrites
      rw [htarget, writesRecvData]
  | _ => cases hwrites

theorem leaves_readCtrlSock :
    Leaves (watching writesRecvData) (readCtrlSock cfg opcode args) := by
  have hwrites (offset : ℕ) (bytes : List Byte) :
      writesRecvData (.memWrite .ctrlSockBuffer offset bytes) = false := rfl
  apply (leaves_emit (hwrites 0 args)).bind
  intro _
  apply (leaves_readIntoIf hwrites (fun _ => rfl) _ _ _).bind
  intro _
  apply (leaves_readIntoIf hwrites (fun _ => rfl) _ _ _).bind
  exact fun _ => leaves_pure

theorem leaves_readRecvObj :
    Leaves (watching (writesTo .ctrlSockBuffer)) (readRecvObj cfg env opcode args) := by
  have hargsWrites (index : ℕ) := @writesTo_other .ctrlSockBuffer (.recvArgs index) (by simp)
  have hdataWrites (index : ℕ) := @writesTo_other .ctrlSockBuffer (.recvData index) (by simp)
  apply (leaves_verifyProtocol rfl env.pArgsSet).bind
  intro _
  apply leaves_get.bind
  intro shared
  apply (leaves_emit (hargsWrites _ 0 args)).bind
  intro _
  apply (leaves_readIntoIf (hargsWrites _) (fun _ => rfl) _ _ _).bind
  intro _
  apply Leaves.bind
  · apply leaves_runIf
    apply (leaves_verifyProtocol rfl env.pDataSet).bind
    exact fun _ => leaves_readAligned (hdataWrites _) (fun _ => rfl) _
  · exact fun _ => leaves_emit rfl

/-- The buffer for the data. -/
def takerBuffer : Taker → Buffer
  | .obj index => .recvData index
  | .ctrlSock => .ctrlSockBuffer

/-- The bytes of data that are read. -/
def takerReads (cfg : RxConfig) (args : List Byte) : Taker → ℕ
  | .obj _ => alignSize (recvLen cfg args)
  | .ctrlSock => ctrlSockLen cfg args

/-- How far the buffer is written to. -/
def takerWrites (cfg : RxConfig) (opcode : BitVec 16) (args : List Byte) : Taker → ℕ
  | .obj _ => recvLen cfg args
  | .ctrlSock => expArgSize cfg opcode + ctrlSockLen cfg args

theorem ctrlSockLen_le (args : List Byte) :
    ctrlSockLen cfg args ≤ alignSize (recvLen cfg args) := by
  rw [ctrlSockLen, alignSize]
  omega

/-- What is read of a response that is taken, and where it is written to. -/
theorem covers_readRecvResp {taker : Taker} (hsizes : RecvSizes cfg)
    (htaker : takerOf cfg env opcode (s.rx.take cfg.recvArgsSize) = some taker)
    (hrx : expArgSize cfg opcode + alignSize (recvLen cfg (s.rx.take cfg.recvArgsSize)) ≤
      s.rx.length) :
    Completes (readRecvResp cfg env opcode) s fun _ after =>
      Covers (takerBuffer taker) s
          (expArgSize cfg opcode + takerReads cfg (s.rx.take cfg.recvArgsSize) taker)
          (takerWrites cfg opcode (s.rx.take cfg.recvArgsSize) taker) after ∧
        (taker = .ctrlSock → ∀ index byte, bufferAt (.recvData index) after.acts byte =
          bufferAt (.recvData index) s.acts byte) ∧
        (taker ≠ .ctrlSock → ∀ byte, bufferAt .ctrlSockBuffer after.acts byte =
          bufferAt .ctrlSockBuffer s.acts byte) := by
  have hle := hsizes.le_expArgSize opcode
  have hargs : cfg.recvArgsSize ≤ s.rx.length := by omega
  apply completes_readRecvResp hargs htaker
  have hlength : (s.rx.take cfg.recvArgsSize).length = cfg.recvArgsSize :=
    List.length_take_of_le hargs
  generalize s.rx.take cfg.recvArgsSize = args at htaker hrx hlength ⊢
  intro found hfoundRx hfoundBytes hindex
  have hleft : found.rx.length = s.rx.length - cfg.recvArgsSize := by
    rw [hfoundRx, List.length_drop]
  have hcovers : ∀ {buffer : Buffer} {more length : ℕ} {read : DrvState},
      Covers buffer found (expArgSize cfg opcode - cfg.recvArgsSize + more) length read →
      Covers buffer s (expArgSize cfg opcode + more) length
        (read.after (.unlock .protectionLockObj)) := by
    intro buffer more length read hread
    refine Covers.after ⟨?_, hread.inside, fun byte hbyte => ?_⟩ rfl
    · rw [hread.rx, hfoundRx, List.drop_drop, ← Nat.add_assoc, Nat.add_sub_cancel' hle]
    · exact (hread.beyond byte hbyte).trans (hfoundBytes buffer byte)
  cases taker with
  | obj index =>
      have hcovered : Completes (readRecvObj cfg env opcode args) found _ :=
        covers_readRecvObj (by omega)
      rw [hindex index rfl] at hcovered
      apply (Ends.and hcovered leaves_readRecvObj.ensures).mono
      · intro _ read hread
        refine ⟨hcovers hread.1, nofun, fun _ byte => ?_⟩
        rw [bufferAt_after_of_not_writesTo rfl,
          bufferAt_of_watching (fun _ hwrites => hwrites) hread.2]
        exact hfoundBytes _ byte
      · exact fun _ _ hfalse => hfalse.1.elim
  | ctrlSock =>
      have hdata : ctrlSockLen cfg args ≤ alignSize (recvLen cfg args) := ctrlSockLen_le args
      have hcovered : Completes (readCtrlSock cfg opcode args) found _ :=
        covers_readCtrlSock hsizes hlength (by omega)
      apply (Ends.and hcovered leaves_readCtrlSock.ensures).mono
      · intro _ read hread
        refine ⟨hcovers hread.1, fun _ index byte => ?_, fun hnot => absurd rfl hnot⟩
        rw [bufferAt_after_of_not_writesTo rfl,
          bufferAt_of_watching writesRecvData_of_writesTo hread.2]
        exact hfoundBytes _ byte
      · exact fun _ _ hfalse => hfalse.1.elim

end Parts

section Boundary

variable {cfg : RxConfig} {env : MsgEnv} {opcode : BitVec 16} {s : DrvState} {taker : Taker}

/-- A receive response is read up to its end, unless the branch for the control socket meets an
incomplete word. -/
theorem completes_readRecvResp_iff (hsizes : RecvSizes cfg)
    (htaker : takerOf cfg env opcode (s.rx.take cfg.recvArgsSize) = some taker)
    (hrx : expArgSize cfg opcode + alignSize (recvLen cfg (s.rx.take cfg.recvArgsSize)) ≤
      s.rx.length) :
    Completes (readRecvResp cfg env opcode) s fun _ after =>
      (after.rx = s.rx.drop (expArgSize cfg opcode +
          alignSize (recvLen cfg (s.rx.take cfg.recvArgsSize))) ↔
        (taker = .ctrlSock → 4 ∣ recvLen cfg (s.rx.take cfg.recvArgsSize))) := by
  apply (covers_readRecvResp hsizes htaker hrx).mono
  intro _ after hafter
  generalize s.rx.take cfg.recvArgsSize = args at hrx hafter ⊢
  rw [hafter.1.rx]
  cases taker with
  | obj index => exact iff_of_true rfl nofun
  | ctrlSock =>
      have hle : ctrlSockLen cfg args ≤ alignSize (recvLen cfg args) := ctrlSockLen_le args
      constructor
      · intro hdrop _
        have hlength := congrArg List.length hdrop
        rw [List.length_drop, List.length_drop, takerReads] at hlength
        rw [ctrlSockLen, alignSize] at hlength
        rw [alignSize] at hrx
        omega
      · intro haligned
        have hwhole := haligned rfl
        have hsame : ctrlSockLen cfg args = alignSize (recvLen cfg args) := by
          rw [ctrlSockLen, alignSize]
          omega
        rw [takerReads, hsame]

/-- A message of five bytes for the control socket. -/
def ctrlSockEnv : MsgEnv :=
  { CmdOpLocks.shortResponse with
    multiSelectCB := { (messageCBInit 1).multiSelectCB with ctrlSockFD := 3 } }

def ctrlSockState : DrvState :=
  .start [5, 0, 3, 0, 0x11, 0x12, 0x13, 0x14, 0x15, 0, 0, 0] 0 (messageCBInit 1)

theorem completes_ctrlSock :
    Completes (readRecvResp CmdOpLocks.smallRxConfig ctrlSockEnv 0x100A) ctrlSockState
      fun _ after => (after.rx = ctrlSockState.rx.drop 12 ↔
        (Taker.ctrlSock = .ctrlSock → 4 ∣ 5)) :=
  completes_readRecvResp_iff ⟨by decide, by decide⟩ (by decide) (by decide)

/-- The last word of the data stays in the interface. -/
theorem ctrlSock_short :
    ∃ after, (readRecvResp CmdOpLocks.smallRxConfig ctrlSockEnv 0x100A).run ctrlSockState =
        .ok () after ∧
      takerOf CmdOpLocks.smallRxConfig ctrlSockEnv 0x100A (ctrlSockState.rx.take 4) =
        some .ctrlSock ∧
      after.rx ≠ ctrlSockState.rx.drop (4 + alignSize 5) :=
  ⟨_, rfl, by decide, by decide⟩

end Boundary

section Room

/-- The actions of a run. -/
def actsOf {α : Type} : EStateM.Result RetCode DrvState α → List DrvAct
  | .ok _ after => after.acts
  | .error _ after => after.acts

/-- A receive request that was issued: a run of `_SlDrvDataReadOp` has made the caller's buffer
that of its pool object. -/
structure RecvRequest (dataCfg : DataConfig) where
  sd : Byte
  cmdCtrl : CmdCtrl
  ext : CmdExt
  pTxRxDescBuff : Option (ℕ → Byte)
  env : ReadEnv
  writesLeft : ℕ
  cb : DriverCB
  objIdx : ℕ
  issued : .setRespArgs objIdx ∈
    actsOf ((slDrvDataReadOp dataCfg sd cmdCtrl ext pTxRxDescBuff env).run
      (.start [] writesLeft cb))

/-- The bytes of the caller's buffer, `RxPayloadLen`. -/
def RecvRequest.room {dataCfg : DataConfig} (request : RecvRequest dataCfg) : ℕ :=
  request.ext.rxPayloadLen.toInt.toNat

/-- The call has written to a buffer within its room only. -/
def WritesBelow (buffer : Buffer) (room : ℕ) (s : DrvState) : Prop :=
  ∀ index, (bufferAt buffer s.acts index).isSome → index < room

variable {cfg : RxConfig} {dataCfg : DataConfig} {env : MsgEnv} {opcode : BitVec 16}
variable {s after : DrvState} {taker : Taker} {buffer : Buffer} {count length room : ℕ}

theorem Covers.writesBelow_iff (hcovers : Covers buffer s count length after)
    (hnone : ∀ index, bufferAt buffer s.acts index = none) :
    WritesBelow buffer room after ↔ length ≤ room := by
  constructor
  · intro hbelow
    by_contra hlt
    exact absurd (hbelow room (hcovers.inside room (by omega))) (Nat.lt_irrefl room)
  · intro hle index hsome
    by_contra hout
    rw [hcovers.beyond index (by omega), hnone] at hsome
    cases hsome

theorem writesBelow_of_none (hnone : ∀ index, bufferAt buffer s.acts index = none) :
    WritesBelow buffer room s := by
  intro index hsome
  rw [hnone] at hsome
  cases hsome

/-- The room of the buffer for the data. -/
def takerRoom (cfg : RxConfig) (request : RecvRequest dataCfg) : Taker → ℕ
  | .obj _ => request.room
  | .ctrlSock => cfg.recvFromIpv6ArgsSize

/-- A receive response stays within the buffer of the request, and within the local buffer of
the branch for the control socket, exactly if the length in it does. -/
theorem completes_readRecvResp_within_iff (hsizes : RecvSizes cfg)
    (request : RecvRequest dataCfg)
    (htaker : takerOf cfg env opcode (s.rx.take cfg.recvArgsSize) = some taker)
    (hobj : taker ≠ .ctrlSock → taker = .obj request.objIdx)
    (hnone : ∀ buffer index, bufferAt buffer s.acts index = none)
    (hrx : expArgSize cfg opcode + alignSize (recvLen cfg (s.rx.take cfg.recvArgsSize)) ≤
      s.rx.length) :
    Completes (readRecvResp cfg env opcode) s fun _ after =>
      (WritesBelow (.recvData request.objIdx) request.room after ∧
          WritesBelow .ctrlSockBuffer cfg.recvFromIpv6ArgsSize after ↔
        takerWrites cfg opcode (s.rx.take cfg.recvArgsSize) taker ≤
          takerRoom cfg request taker) := by
  apply (covers_readRecvResp hsizes htaker hrx).mono
  intro _ after hafter
  obtain ⟨hcovers, hdata, hsock⟩ := hafter
  have hiff (room : ℕ) : WritesBelow (takerBuffer taker) room after ↔ _ ≤ room :=
    hcovers.writesBelow_iff (hnone _)
  cases taker with
  | obj index =>
      obtain rfl : index = request.objIdx := Taker.obj.inj (hobj nofun)
      have hother : WritesBelow .ctrlSockBuffer cfg.recvFromIpv6ArgsSize after :=
        writesBelow_of_none fun byte => (hsock nofun byte).trans (hnone _ byte)
      rw [and_iff_left hother]
      exact hiff request.room
  | ctrlSock =>
      have hother : WritesBelow (.recvData request.objIdx) request.room after :=
        writesBelow_of_none fun byte => (hdata rfl _ byte).trans (hnone _ byte)
      rw [and_iff_right hother]
      exact hiff cfg.recvFromIpv6ArgsSize

/-- A request for four bytes. -/
def fourByteRequest : RecvRequest DataOpLocks.smallDataConfig where
  sd := 2
  cmdCtrl := { opcode := 0x9402, txDescLen := 4, rxDescLen := 0 }
  ext := { DataOpLocks.shortExt with rxPayloadLen := 4 }
  pTxRxDescBuff := none
  env := { DataOpLocks.timedOutRead with txPoolCnt := 2 }
  writesLeft := 10
  cb := messageCBInit 1
  objIdx := 0
  issued := by decide

/-- A response with eight bytes for the object of the request. -/
def eightByteEnv : MsgEnv := (CmdSequence.arriving 1 0x100A 20 []).message

def eightByteState : DrvState :=
  .start [8, 0, 2, 0, 0x11, 0x12, 0x13, 0x14, 0x15, 0x16, 0x17, 0x18] 0 (messageCBInit 1)

theorem completes_eightByte :
    Completes (readRecvResp CmdOpLocks.smallRxConfig eightByteEnv 0x100A) eightByteState
      fun _ after => (WritesBelow (.recvData 0) 4 after ∧ WritesBelow .ctrlSockBuffer 24 after ↔
        8 ≤ 4) :=
  completes_readRecvResp_within_iff ⟨by decide, by decide⟩ fourByteRequest
    (by decide : takerOf _ eightByteEnv 0x100A _ = some (.obj 0)) (fun _ => rfl)
    (fun _ _ => rfl) (by decide)

/-- Eight bytes are written to the four of the request. -/
theorem eightByte_overruns :
    ∃ after, (readRecvResp CmdOpLocks.smallRxConfig eightByteEnv 0x100A).run eightByteState =
        .ok () after ∧ fourByteRequest.room = 4 ∧
      bufferAt (.recvData fourByteRequest.objIdx) after.acts 7 = some 0x18 :=
  ⟨_, rfl, by decide, by decide⟩

end Room

end SimpleLinkHost.RecvPayload
