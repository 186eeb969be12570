import SimpleLinkHost.Driver.MsgRead

/-!
# What becomes of a message

How many bytes a message asks for follows from its header, its first argument
bytes and the parameters of the running command.  With the outcome of the search
for a waiting object this decides how `_SlDrvMsgRead` returns and which locks it
leaves taken.
-/

namespace SimpleLinkHost.MsgFate

open CallOutcome Calls GlobalLock MsgWrite RxMsg MsgRead
open Pool (PoolCB)

inductive Fate
  | done
  | syncLoss
  | noMemory
  /-- Too few bytes, found while no protection lock is taken. -/
  | short
  /-- Too few bytes, found under the protection lock. -/
  | shortProtected
  /-- A receive response that no object waits for. -/
  | unmatched
  | endless
deriving DecidableEq

variable (cfg : RxConfig)

section BytesAsked

/-- What `readAligned` reads. -/
def alignedNeed (len : BitVec 16) : ℕ :=
  (if 4 ≤ wholeWords len then wholeWords len else 0) + if 0 < len.toNat % 4 then 4 else 0

/-- The arguments of a receive response behind the first four bytes. -/
def argsNeed (opcode : BitVec 16) : ℕ :=
  if cfg.recvArgsSize < expArgSize cfg opcode then expArgSize cfg opcode - cfg.recvArgsSize else 0

def recvObjNeed (opcode : BitVec 16) (args : List Byte) : ℕ :=
  argsNeed cfg opcode +
    if 0 < (cfg.actDataSize args).toInt then alignedNeed (cfg.actDataSize args) else 0

def ctrlSockNeed (opcode : BitVec 16) (args : List Byte) : ℕ :=
  argsNeed cfg opcode +
    if 0 < (cfg.actDataSize args).toInt ∧ 4 ≤ wholeWords (cfg.actDataSize args) then
      wholeWords (cfg.actDataSize args)
    else 0

def cmdPayloadNeed (actDataSize rxPayloadLen : BitVec 16) : ℕ :=
  alignedNeed (cmdCopyLen actDataSize rxPayloadLen) +
    if rxPayloadLen.toInt < (cmdRestSize actDataSize rxPayloadLen).toInt then
      4 * (cmdDumpLen actDataSize rxPayloadLen / 4)
    else 0

def cmdExtNeed (actDataSize : BitVec 16) (ext : CmdExt) : ℕ :=
  if ext.rxPayloadLen = 0 ∨ actDataSize.toInt ≤ 0 then 0
  else cmdPayloadNeed actDataSize ext.rxPayloadLen

def cmdRespNeed (header : RespHeader) (cmdCtrl : CmdCtrl) (pCmdExt : Option CmdExt) : ℕ :=
  alignSize cmdCtrl.rxDescLen.toNat +
    (pCmdExt.map (cmdExtNeed (cmdActDataSize cfg header cmdCtrl))).getD 0

end BytesAsked

section Reads

/-- What reading leaves as it is; only a command response changes the second
part. -/
def readView (s : DrvState) :
    ((LockObj → Option ℕ) × CmdCtrl × RxMsgClass × Bool × Byte) × Option CmdExt :=
  ((s.held, s.cb.pCmdCtrl, s.cb.asyncExt.rxMsgClass, s.cb.waitForCmdResp, s.cb.rxDoneCnt),
    s.cb.pCmdExt)

/-- A program that reads `need` bytes. -/
def Reads {α : Type} (program : DrvM α) (s : DrvState) (need : ℕ)
    (good : α → DrvState → Prop) : Prop :=
  Consumes (fun s => s.rx.length) readView .apiAborted program s need good

variable {α β : Type} {s : DrvState} {program : DrvM α} {need more : ℕ}
variable {good : α → DrvState → Prop} {better : β → DrvState → Prop}

theorem readView_after {act : DrvAct} (hact : lockEvent act = none) :
    readView (s.after act) = readView s := by
  rw [readView, held_neutral hact]
  rfl

theorem readView_lock {middle : DrvState} {obj : LockObj} (hview : readView middle = readView s) :
    readView (middle.after (.lock obj)) = readView (s.after (.lock obj)) := by
  have hheld : middle.held = s.held := congrArg (·.1.1) hview
  have hrest := congrArg (fun view => (view.1.2, view.2)) hview
  rw [readView, readView, held_lock, held_lock, hheld]
  exact congrArg (fun rest => ((holding s.held obj, rest.1), rest.2)) hrest

theorem held_of_locked {middle : DrvState} {obj : LockObj}
    (hview : readView middle = readView (s.after (.lock obj))) :
    middle.held = holding s.held obj := by
  rw [← held_lock]
  exact congrArg (·.1.1) hview

/-- A section under a lock that is given back. -/
theorem readView_unlock {middle : DrvState} {obj : LockObj}
    (hview : readView middle = readView (s.after (.lock obj))) :
    readView (middle.after (.unlock obj)) = readView s := by
  have hheld := held_of_locked hview
  have hrest := congrArg (fun view => (view.1.2, view.2)) hview
  rw [readView, held_unlock, hheld, without_holding]
  exact congrArg (fun rest => ((s.held, rest.1), rest.2)) hrest

theorem reads_pure {value : α} (hgood : good value s) : Reads (pure value) s 0 good :=
  consumes_pure hgood

theorem reads_get : Reads get s 0 fun _ _ => True := ⟨rfl, rfl, trivial⟩

theorem reads_emit {act : DrvAct} (hact : lockEvent act = none) :
    Reads (emit act) s 0 fun _ _ => True :=
  ⟨rfl, readView_after hact, trivial⟩

theorem reads_modifyCB {change : DriverCB → DriverCB}
    (hview : readView (s.changeCB change) = readView s) :
    Reads (modifyCB change) s 0 fun _ _ => True :=
  ⟨rfl, hview, trivial⟩

theorem Reads.ends (hprogram : Reads program s need good) :
    Ends program s
      (fun value after => after.rx.length + need = s.rx.length ∧ readView after = readView s ∧
        good value after)
      fun ret after => ret = .apiAborted ∧ s.rx.length < need ∧ readView after = readView s :=
  hprogram

theorem Reads.bind {next : α → DrvM β} (hprogram : Reads program s need good)
    (hnext : ∀ value after, good value after → Reads (next value) after more better) :
    Reads (program >>= next) s (need + more) better :=
  Consumes.bind hprogram fun value after _ hgood => hnext value after hgood

/-- What follows reads nothing. -/
theorem Reads.bind_idle {next : α → DrvM β} (hprogram : Reads program s need good)
    (hnext : ∀ value after, good value after → Reads (next value) after 0 better) :
    Reads (program >>= next) s need better :=
  hprogram.bind hnext

theorem reads_runIf {cond : Prop} [Decidable cond] {program : DrvM Unit}
    (hprogram : Reads program s need fun _ _ => True) :
    Reads (runIf cond program) s (if cond then need else 0) fun _ _ => True := by
  rw [runIf]
  split
  · exact hprogram
  · exact reads_pure trivial

theorem reads_verifyProtocol (check : Bool) :
    Reads (verifyProtocol check) s 0 fun _ _ => True := by
  rw [verifyProtocol]
  split
  · exact reads_pure trivial
  · exact reads_emit rfl

theorem reads_nwpIfReadCheck (count : ℕ) :
    Reads (nwpIfReadCheck count) s count fun bytes _ => bytes = s.rx.take count := by
  simp only [Reads, Consumes, nwpIfReadCheck, ends_bind, ends_get]
  split
  · rename_i hcount
    refine ⟨?_, readView_after (s := { s with rx := s.rx.drop count }) rfl, rfl⟩
    change (s.rx.drop count).length + count = s.rx.length
    rw [List.length_drop]
    omega
  · rename_i hcount
    exact ⟨rfl, by omega, readView_after (s := { s with rx := [] }) rfl⟩

theorem reads_readInto (buffer : Buffer) (offset count : ℕ) :
    Reads (readInto buffer offset count) s count fun bytes _ => bytes = s.rx.take count := by
  apply (reads_nwpIfReadCheck count).bind_idle
  intro bytes after hbytes
  apply (reads_emit rfl).bind_idle
  exact fun _ _ _ => reads_pure hbytes

theorem reads_readIntoIf (cond : Bool) (buffer : Buffer) (offset count : ℕ) :
    Reads (readIntoIf cond buffer offset count) s (if cond then count else 0) fun bytes _ =>
      bytes = s.rx.take (if cond then count else 0) := by
  rw [readIntoIf]
  cases cond with
  | true => exact reads_readInto buffer offset count
  | false => exact reads_pure (by simp)

theorem reads_dumpWords (words : ℕ) : Reads (dumpWords words) s (4 * words) fun _ _ => True := by
  induction words generalizing s with
  | zero => exact reads_pure trivial
  | succ words ih =>
      have hsum : 4 * (words + 1) = 4 + 4 * words := by omega
      rw [hsum]
      exact (reads_nwpIfReadCheck 4).bind fun _ _ _ => ih

theorem reads_readAligned (buffer : Buffer) (len : BitVec 16) :
    Reads (readAligned buffer len) s (alignedNeed len) fun _ _ => True := by
  have htail : ∀ middle, Reads (readTail buffer len) middle 4 fun _ _ => True := by
    intro middle
    apply (reads_nwpIfReadCheck 4).bind_idle
    exact fun _ _ _ => reads_emit rfl
  have hwhole := reads_readIntoIf (s := s) (4 ≤ wholeWords len) buffer 0 (wholeWords len)
  simp only [decide_eq_true_eq] at hwhole
  exact hwhole.bind fun _ middle _ => reads_runIf (htail middle)

/-- The search changes neither the class of the message nor the locks. -/
theorem ends_slDrvFindAndSetActiveObj (pool : PoolCB) (opcode : BitVec 16) (sd : ℕ) :
    Ends (slDrvFindAndSetActiveObj cfg pool opcode sd) s
      (fun found after => activeObjOf cfg pool opcode sd ≠ .endless ∧
        (found ↔ activeObjOf cfg pool opcode sd ≠ .notSet) ∧
        after.rx = s.rx ∧ readView after = readView s)
      fun ret after => activeObjOf cfg pool opcode sd = .endless ∧ ret = .noReturn ∧
        readView after = readView s := by
  rw [slDrvFindAndSetActiveObj]
  cases activeObjOf cfg pool opcode sd <;> simp [readView]

end Reads

section Classes

variable {s : DrvState}

theorem alignSize_eq_of_dvd {size : ℕ} (hsize : 4 ∣ size) : alignSize size = size := by
  rw [alignSize]
  omega

theorem dvd_alignSize (size : ℕ) : 4 ∣ alignSize size := Nat.dvd_mul_left 4 _

/-- What an event stores and what it dumps make up the aligned payload. -/
theorem asyncStoredLen_add (len : BitVec 16) :
    (if 0 < len.toNat then asyncStoredLen cfg len else 0) +
      (if cfg.slAsyncMaxPayloadLen < alignSize len.toNat then
        4 * ((alignSize len.toNat - cfg.slAsyncMaxPayloadLen) / 4) else 0) =
      alignSize len.toNat := by
  have hmax := alignSize_eq_of_dvd cfg.slAsyncMaxPayloadLen_aligned
  have hdvd := dvd_alignSize len.toNat
  have hmaxDvd := cfg.slAsyncMaxPayloadLen_aligned
  rw [asyncStoredLen, hmax]
  by_cases hlen : 0 < len.toNat
  · rw [if_pos hlen]
    split_ifs <;> omega
  · have hzero : alignSize len.toNat = 0 := by
      rw [alignSize]
      omega
    simp [hlen, hzero]

theorem reads_readAsyncPayload (len : BitVec 16) :
    Reads (readAsyncPayload cfg len) s (alignSize len.toNat) fun payload _ =>
      payload = s.rx.take (if 0 < len.toNat then asyncStoredLen cfg len else 0) := by
  have hstored := reads_readIntoIf (s := s) (0 < len.toNat) .asyncBuf cfg.respHdrSize
    (asyncStoredLen cfg len)
  simp only [decide_eq_true_eq] at hstored
  rw [← asyncStoredLen_add cfg len, ← Nat.add_zero (if cfg.slAsyncMaxPayloadLen < _ then _ else 0)]
  apply hstored.bind
  intro payload middle hpayload
  apply (reads_runIf (reads_dumpWords _)).bind_idle
  exact fun _ _ _ => reads_pure hpayload

/-- What a returning `_SlDrvMsgRead` left taken, by the fate of its message. -/
def FateReturns (held : LockObj → Option ℕ) (ret : RetCode) (after : DrvState) : Fate → Prop
  | .done => False
  | .syncLoss | .unmatched => ret = .apiAborted ∧ after.held = without held .globalLockObj
  | .noMemory => ret = .mallocError ∧ after.held = held
  | .short => ret = .apiAborted ∧ after.held = held
  | .shortProtected => ret = .apiAborted ∧ after.held = holding held .protectionLockObj
  | .endless => ret = .noReturn ∧ after.held = holding held .protectionLockObj

def asyncFate (env : MsgEnv) (header : RespHeader) : Fate :=
  let len := rspPayloadLen cfg header
  let payload := env.rx.take (if 0 < len.toNat then asyncStoredLen cfg len else 0)
  if !env.asyncBufAllocated then .noMemory
  else if env.rx.length < alignSize len.toNat then .short
  else if activeObjOf cfg env.pool header.opcode (asyncEvtSd cfg header.opcode payload) = .endless
  then .endless
  else .done

theorem ends_readAsyncEvt (env : MsgEnv) (hdrBytes : List Byte) (header : RespHeader)
    (hrx : s.rx = env.rx) :
    Ends (readAsyncEvt cfg env hdrBytes header) s
      (fun _ after => asyncFate cfg env header = .done ∧ readView after = readView s)
      fun ret after => FateReturns s.held ret after (asyncFate cfg env header) := by
  rw [readAsyncEvt, ends_bind, ends_emit, ends_bind, ends_returnIf, asyncFate]
  cases hallocated : env.asyncBufAllocated with
  | false => exact ⟨rfl, held_neutral rfl⟩
  | true =>
      rw [if_neg (by simp), if_neg (by simp), ends_bind, ends_emit, ends_bind, ends_emit]
      generalize hcleared : (((s.after .malloc).after _).after _) = cleared
      have hview : readView cleared = readView s := by
        rw [← hcleared, readView_after rfl, readView_after rfl, readView_after rfl]
      have hclearedRx : cleared.rx = env.rx := by
        rw [← hcleared]
        exact hrx
      rw [ends_bind]
      apply (reads_readAsyncPayload cfg (rspPayloadLen cfg header)).ends.mono
      · intro payload read hread
        obtain ⟨hleft, hreadView, hpayload⟩ := hread
        rw [hclearedRx] at hleft hpayload
        rw [if_neg (by omega), ← hpayload, protectionObjLockForever, ends_bind, ends_emit,
          ends_bind]
        apply (ends_slDrvFindAndSetActiveObj cfg env.pool header.opcode _).mono
        · intro found set hset
          rw [if_neg hset.1]
          exact ⟨rfl, (readView_unlock hset.2.2.2).trans (hreadView.trans hview)⟩
        · intro ret set hset
          rw [if_pos hset.1]
          exact ⟨hset.2.1,
            held_of_locked (hset.2.2.trans (readView_lock (hreadView.trans hview)))⟩
      · intro ret after hafter
        obtain ⟨hret, hshort, hreadView⟩ := hafter
        rw [hclearedRx] at hshort
        rw [if_pos hshort]
        exact ⟨hret, congrArg (·.1.1) (hreadView.trans hview)⟩

def recvFate (env : MsgEnv) (opcode : BitVec 16) : Fate :=
  let args := env.rx.take cfg.recvArgsSize
  let obj := activeObjOf cfg env.pool opcode (recvSocket cfg args)
  if env.rx.length < cfg.recvArgsSize then .short
  else if obj = .endless then .endless
  else if cfg.multiSelect && obj = .notSet && cfg.recvSd args = env.multiSelectCB.ctrlSockFD then
    if env.rx.length < cfg.recvArgsSize + ctrlSockNeed cfg opcode args then .shortProtected
    else .done
  else if obj = .notSet then .unmatched
  else if env.rx.length < cfg.recvArgsSize + recvObjNeed cfg opcode args then .shortProtected
  else .done

theorem reads_readCtrlSock (opcode : BitVec 16) (args : List Byte) :
    Reads (readCtrlSock cfg opcode args) s (ctrlSockNeed cfg opcode args) fun _ _ => True := by
  have hargs := fun s => reads_readIntoIf (s := s) (cfg.recvArgsSize < expArgSize cfg opcode)
    .ctrlSockBuffer cfg.recvArgsSize (expArgSize cfg opcode - cfg.recvArgsSize)
  have hdata := fun s => reads_readIntoIf (s := s)
    (0 < (cfg.actDataSize args).toInt ∧ 4 ≤ wholeWords (cfg.actDataSize args)) .ctrlSockBuffer
    (expArgSize cfg opcode) (wholeWords (cfg.actDataSize args))
  simp only [decide_eq_true_eq] at hargs hdata
  rw [ctrlSockNeed, argsNeed, ← Nat.zero_add (_ + _), ← Nat.add_zero (if 0 < _ ∧ _ then _ else _)]
  apply (reads_emit rfl).bind
  intro _ copied _
  apply (hargs copied).bind
  intro _ read _
  apply (hdata read).bind
  exact fun _ _ _ => reads_pure trivial

theorem reads_readRecvData (index : ℕ) (pDataSet : Bool) (size : BitVec 16) :
    Reads (readRecvData index pDataSet size) s (alignedNeed size) fun _ _ => True := by
  rw [← Nat.zero_add (alignedNeed size)]
  exact (reads_verifyProtocol pDataSet).bind fun _ _ _ => reads_readAligned _ size

theorem reads_readRecvObj (env : MsgEnv) (opcode : BitVec 16) (args : List Byte) :
    Reads (readRecvObj cfg env opcode args) s (recvObjNeed cfg opcode args) fun _ _ => True := by
  have hargs := fun s index => reads_readIntoIf (s := s)
    (cfg.recvArgsSize < expArgSize cfg opcode) (.recvArgs index) cfg.recvArgsSize
    (expArgSize cfg opcode - cfg.recvArgsSize)
  simp only [decide_eq_true_eq] at hargs
  rw [recvObjNeed, argsNeed, ← Nat.zero_add (_ + _), ← Nat.zero_add (_ + _),
    ← Nat.zero_add (_ + _), ← Nat.add_zero (if 0 < _ then _ else _)]
  apply (reads_verifyProtocol env.pArgsSet).bind
  intro _ verified _
  apply reads_get.bind
  intro shared _ _
  apply (reads_emit rfl).bind
  intro _ copied _
  apply (hargs copied shared.cb.asyncExt.actionIndex).bind
  intro _ read _
  apply (reads_runIf (reads_readRecvData _ env.pDataSet _)).bind
  exact fun _ _ _ => reads_emit rfl

/-- The part of a receive response under the protection lock, once the search is
over: it reads and gives the lock back. -/
theorem ends_protected {program : DrvM Unit} {need : ℕ} {locked : DrvState}
    (hprogram : Reads program locked need fun _ _ => True)
    (hlocked : readView locked = readView (s.after (.lock .protectionLockObj))) :
    Ends (do program; protectionObjUnlock) locked
      (fun _ after => need ≤ locked.rx.length ∧ readView after = readView s)
      fun ret after => ret = .apiAborted ∧ locked.rx.length < need ∧
        after.held = holding s.held .protectionLockObj := by
  rw [ends_bind]
  apply hprogram.ends.mono
  · intro _ read hread
    exact ⟨by omega, readView_unlock (hread.2.1.trans hlocked)⟩
  · intro ret after hafter
    exact ⟨hafter.1, hafter.2.1, held_of_locked (hafter.2.2.trans hlocked)⟩

theorem ends_readRecvResp (env : MsgEnv) (opcode : BitVec 16) (hrx : s.rx = env.rx) :
    Ends (readRecvResp cfg env opcode) s
      (fun _ after => recvFate cfg env opcode = .done ∧ readView after = readView s)
      fun ret after => FateReturns s.held ret after (recvFate cfg env opcode) := by
  rw [readRecvResp, ends_bind]
  apply (reads_nwpIfReadCheck cfg.recvArgsSize).ends.mono
  · intro args read hread
    obtain ⟨hleft, hreadView, hargs⟩ := hread
    rw [hrx] at hleft hargs
    rw [ends_bind]
    apply (reads_verifyProtocol _).ends.mono
    · intro _ verified hverified
      have hview := hverified.2.1.trans hreadView
      have hlen : verified.rx.length + cfg.recvArgsSize = env.rx.length := by
        have := hverified.1
        omega
      rw [protectionObjLockForever, ends_bind, ends_emit, ends_bind]
      apply (ends_slDrvFindAndSetActiveObj cfg env.pool opcode (recvSocket cfg args)).mono
      · intro found set hset
        obtain ⟨hobj, hfound, hsetRx, hsetView⟩ := hset
        have hsetLen : set.rx.length + cfg.recvArgsSize = env.rx.length := by
          rw [hsetRx]
          exact hlen
        have hlocked : readView set = readView (s.after (.lock .protectionLockObj)) :=
          hsetView.trans (readView_lock hview)
        have hlong : ¬env.rx.length < cfg.recvArgsSize := by omega
        have hfate : recvFate cfg env opcode =
            if cfg.multiSelect && !found && cfg.recvSd args = env.multiSelectCB.ctrlSockFD then
              if env.rx.length < cfg.recvArgsSize + ctrlSockNeed cfg opcode args then
                .shortProtected
              else .done
            else if found then
              if env.rx.length < cfg.recvArgsSize + recvObjNeed cfg opcode args then
                .shortProtected
              else .done
            else .unmatched := by
          rw [recvFate, if_neg hlong, ← hargs, if_neg hobj]
          cases found <;> simp_all
        rw [hfate]
        split
        · apply (ends_protected (reads_readCtrlSock cfg opcode args) hlocked).mono
          · intro _ after hafter
            rw [if_neg (by omega)]
            exact ⟨rfl, hafter.2⟩
          · intro ret after hafter
            rw [if_pos (by omega)]
            exact ⟨hafter.1, hafter.2.2⟩
        · split
          · apply (ends_protected (reads_readRecvObj cfg env opcode args) hlocked).mono
            · intro _ after hafter
              rw [if_neg (by omega)]
              exact ⟨rfl, hafter.2⟩
            · intro ret after hafter
              rw [if_pos (by omega)]
              exact ⟨hafter.1, hafter.2.2⟩
          · have hheld : (set.after (.unlock .protectionLockObj)).held = s.held :=
              congrArg (·.1.1) (readView_unlock hlocked)
            rw [protectionObjUnlock, ends_bind, ends_emit]
            apply (completes_slDrvGlobalObjUnLock true _).bind
            intro _ after hafter
            rw [hheld] at hafter
            exact ⟨rfl, hafter.held⟩
      · intro ret set hset
        rw [recvFate, if_neg (by omega), ← hargs, if_pos hset.1]
        exact ⟨hset.2.1, held_of_locked (hset.2.2.trans (readView_lock hview))⟩
    · intro ret after hafter
      exact absurd hafter.2.1 (Nat.not_lt_zero _)
  · intro ret after hafter
    obtain ⟨hret, hshort, hreadView⟩ := hafter
    rw [hrx] at hshort
    rw [recvFate, if_pos hshort]
    exact ⟨hret, congrArg (·.1.1) hreadView⟩

/-- A program that reads `need` bytes and may change the parameters of the running
command. -/
def ReadsCmd (program : DrvM Unit) (s : DrvState) (need : ℕ) : Prop :=
  Consumes (fun s => s.rx.length) (fun s => (readView s).1) .apiAborted program s need
    fun _ _ => True

theorem Reads.cmd {program : DrvM Unit} {need : ℕ}
    (hprogram : Reads program s need fun _ _ => True) : ReadsCmd program s need :=
  Consumes.project Prod.fst hprogram

theorem ReadsCmd.ends {program : DrvM Unit} {need : ℕ} (hprogram : ReadsCmd program s need) :
    Ends program s
      (fun _ after => after.rx.length + need = s.rx.length ∧ (readView after).1 = (readView s).1)
      fun ret after => ret = .apiAborted ∧ s.rx.length < need ∧
        (readView after).1 = (readView s).1 :=
  Ends.mono hprogram (fun _ _ hafter => ⟨hafter.1, hafter.2.1⟩) fun _ _ hafter => hafter

theorem readsCmd_modifyCB {change : DriverCB → DriverCB}
    (hview : (readView (s.changeCB change)).1 = (readView s).1) :
    ReadsCmd (modifyCB change) s 0 :=
  ⟨rfl, hview, trivial⟩

theorem reads_readCmdPayload (actDataSize rxPayloadLen : BitVec 16) :
    Reads (readCmdPayload actDataSize rxPayloadLen) s (cmdPayloadNeed actDataSize rxPayloadLen)
      fun _ _ => True :=
  (reads_readAligned _ _).bind fun _ _ _ => reads_runIf (reads_dumpWords _)

theorem readsCmd_readCmdExt (actDataSize : BitVec 16) (ext : CmdExt) :
    ReadsCmd (readCmdExt actDataSize ext) s
      (if actDataSize.toInt ≤ 0 then 0 else cmdPayloadNeed actDataSize ext.rxPayloadLen) := by
  rw [← Nat.zero_add (if actDataSize.toInt ≤ 0 then _ else _)]
  apply Consumes.bind (readsCmd_modifyCB rfl)
  intro _ after _ _
  split
  · exact readsCmd_modifyCB rfl
  · exact (reads_readCmdPayload _ _).cmd

theorem readsCmd_readCmdResp (header : RespHeader) :
    ReadsCmd (readCmdResp cfg header) s (cmdRespNeed cfg header s.cb.pCmdCtrl s.cb.pCmdExt) := by
  have hdesc := Consumes.project Prod.fst (reads_readInto (s := s) .txRxDescBuff 0
    (alignSize s.cb.pCmdCtrl.rxDescLen.toNat))
  rw [ReadsCmd, Consumes, readCmdResp, ends_bind, ends_get]
  apply hdesc.bind
  intro _ read _ _
  cases hext : s.cb.pCmdExt with
  | none => exact consumes_pure trivial
  | some ext =>
      have hread := readsCmd_readCmdExt (s := read)
        (cmdActDataSize cfg header s.cb.pCmdCtrl) ext
      rw [Option.map_some, Option.getD_some, cmdExtNeed]
      by_cases hlen : ext.rxPayloadLen = 0
      · rw [if_pos (.inl hlen)]
        simp only [runIf, if_neg (not_not.mpr hlen)]
        exact consumes_pure trivial
      · simp only [runIf, if_pos hlen, hlen, false_or]
        exact hread

def cmdFate (env : MsgEnv) (header : RespHeader) (cmdCtrl : CmdCtrl)
    (pCmdExt : Option CmdExt) : Fate :=
  if env.rx.length < cmdRespNeed cfg header cmdCtrl pCmdExt then .short else .done

theorem ends_readCmdResp (env : MsgEnv) (header : RespHeader) (hrx : s.rx = env.rx) :
    Ends (readCmdResp cfg header) s
      (fun _ after => cmdFate cfg env header s.cb.pCmdCtrl s.cb.pCmdExt = .done ∧
        (readView after).1 = (readView s).1)
      fun ret after => FateReturns s.held ret after
        (cmdFate cfg env header s.cb.pCmdCtrl s.cb.pCmdExt) := by
  apply (readsCmd_readCmdResp cfg header).ends.mono
  · intro _ after hafter
    obtain ⟨hleft, hview⟩ := hafter
    rw [hrx] at hleft
    rw [cmdFate, if_neg (by omega)]
    exact ⟨rfl, hview⟩
  · intro ret after hafter
    obtain ⟨hret, hshort, hview⟩ := hafter
    rw [hrx] at hshort
    rw [cmdFate, if_pos hshort]
    exact ⟨hret, congrArg (·.1) hview⟩

theorem reads_signalSelectEntries (selectEntry : ℕ → Bool) (count : ℕ) :
    Reads (signalSelectEntries selectEntry count) s 0 fun _ _ => True := by
  induction count generalizing s with
  | zero => exact reads_pure trivial
  | succ count ih =>
      apply Reads.bind_idle ih
      intro _ after _
      rw [runIf]
      split
      · exact reads_emit rfl
      · exact reads_pure trivial

theorem reads_failSelect : Reads (failSelect cfg) s 0 fun _ _ => True := by
  apply Reads.bind_idle reads_get
  intro shared _ _
  apply Reads.bind_idle (reads_signalSelectEntries _ _)
  exact fun _ _ _ => reads_modifyCB rfl

theorem reads_readMultiSelectResp :
    Reads (readMultiSelectResp cfg) s (alignSize cfg.basicResponseSize) fun _ _ => True := by
  rw [← Nat.add_zero (alignSize _)]
  apply (reads_nwpIfReadCheck _).bind
  intro bytes read _
  apply Reads.bind_idle (reads_modifyCB rfl)
  intro _ stored _
  have hfail : Reads (runIf (cfg.basicResponseStatus bytes ≠ 0) (failSelect cfg)) stored
      (if cfg.basicResponseStatus bytes ≠ 0 then 0 else 0) fun _ _ => True :=
    reads_runIf (reads_failSelect cfg)
  rwa [ite_self] at hfail

def multiSelectFate (env : MsgEnv) : Fate :=
  if env.rx.length < alignSize cfg.basicResponseSize then .short else .done

/-- The fate of a message whose header was read, by its class. -/
def payloadFate (env : MsgEnv) (header : RespHeader) (cmdCtrl : CmdCtrl)
    (pCmdExt : Option CmdExt) : RxMsgClass → Fate
  | .asyncEvt => asyncFate cfg env header
  | .recvResp => recvFate cfg env header.opcode
  | .cmdResp => cmdFate cfg env header cmdCtrl pCmdExt
  | .multiSelectResp => multiSelectFate cfg env
  | .dummyMsg => .done

theorem ends_readPayload (env : MsgEnv) (hdrBytes : List Byte) (header : RespHeader)
    (rxMsgClass : RxMsgClass) (hrx : s.rx = env.rx) :
    Ends (readPayload cfg env hdrBytes header rxMsgClass) s
      (fun _ after =>
        payloadFate cfg env header s.cb.pCmdCtrl s.cb.pCmdExt rxMsgClass = .done ∧
          (readView after).1 = (readView s).1 ∧
          (rxMsgClass ≠ .cmdResp → after.cb.pCmdExt = s.cb.pCmdExt))
      fun ret after => FateReturns s.held ret after
        (payloadFate cfg env header s.cb.pCmdCtrl s.cb.pCmdExt rxMsgClass) := by
  cases rxMsgClass with
  | asyncEvt =>
      apply (ends_readAsyncEvt cfg env hdrBytes header hrx).mono
      · intro _ after hafter
        exact ⟨hafter.1, congrArg (·.1) hafter.2, fun _ => congrArg (·.2) hafter.2⟩
      · exact fun _ _ hafter => hafter
  | recvResp =>
      rw [readPayload, ends_bind]
      apply (ends_readRecvResp cfg env header.opcode hrx).mono
      · intro _ after hafter
        exact ⟨hafter.1, congrArg (·.1) hafter.2, fun _ => congrArg (·.2) hafter.2⟩
      · exact fun _ _ hafter => hafter
  | cmdResp =>
      rw [readPayload, ends_bind]
      apply (ends_readCmdResp cfg env header hrx).mono
      · intro _ after hafter
        exact ⟨hafter.1, hafter.2, fun hclass => absurd rfl hclass⟩
      · exact fun _ _ hafter => hafter
  | multiSelectResp =>
      rw [readPayload, ends_bind]
      apply (reads_readMultiSelectResp cfg).ends.mono
      · intro _ after hafter
        rw [hrx] at hafter
        rw [payloadFate, multiSelectFate, if_neg (by omega)]
        exact ⟨rfl, congrArg (·.1) hafter.2.1, fun _ => congrArg (·.2) hafter.2.1⟩
      · intro ret after hafter
        rw [hrx] at hafter
        rw [payloadFate, multiSelectFate, if_pos hafter.2.1]
        exact ⟨hafter.1, congrArg (·.1.1) hafter.2.2⟩
  | dummyMsg => exact ⟨rfl, rfl, fun _ => rfl⟩

end Classes

section Message

variable {s : DrvState}

/-- The class of a message, for the opcode of the running command. -/
def msgClass (env : MsgEnv) (cmdOpcode : BitVec 16) : RxMsgClass :=
  match env.hdr with
  | .header bytes => rxMsgClassOf cfg (cfg.respHeader bytes).opcode cmdOpcode
  | _ => .dummyMsg

/-- The fate of a message, for the parameters of the running command. -/
def msgFate (env : MsgEnv) (cmdCtrl : CmdCtrl) (pCmdExt : Option CmdExt) : Fate :=
  match env.hdr with
  | .header bytes =>
      payloadFate cfg env (cfg.respHeader bytes) cmdCtrl pCmdExt
        (msgClass cfg env cmdCtrl.opcode)
  | _ => .syncLoss

/-- Of the parameters only the length of the receive payload matters. -/
theorem msgFate_congr {pCmdExt pCmdExt' : Option CmdExt} (env : MsgEnv) (cmdCtrl : CmdCtrl)
    (hlen : pCmdExt.map (·.rxPayloadLen) = pCmdExt'.map (·.rxPayloadLen)) :
    msgFate cfg env cmdCtrl pCmdExt = msgFate cfg env cmdCtrl pCmdExt' := by
  have hneed : ∀ header, cmdRespNeed cfg header cmdCtrl pCmdExt =
      cmdRespNeed cfg header cmdCtrl pCmdExt' := by
    intro header
    cases pCmdExt <;> cases pCmdExt' <;> simp_all [cmdRespNeed, cmdExtNeed]
  have hfate : ∀ header rxMsgClass, payloadFate cfg env header cmdCtrl pCmdExt rxMsgClass =
      payloadFate cfg env header cmdCtrl pCmdExt' rxMsgClass := by
    intro header rxMsgClass
    cases rxMsgClass <;> simp only [payloadFate, cmdFate, hneed]
  unfold msgFate
  split
  · exact hfate _ _
  · rfl

/-- What a message that was read leaves for its caller. -/
structure MsgDone (env : MsgEnv) (s after : DrvState) : Prop where
  held : after.held = s.held
  pCmdCtrl : after.cb.pCmdCtrl = s.cb.pCmdCtrl
  rxMsgClass : after.cb.asyncExt.rxMsgClass = msgClass cfg env s.cb.pCmdCtrl.opcode
  waitForCmdResp : after.cb.waitForCmdResp = s.cb.waitForCmdResp
  rxDoneCnt : after.cb.rxDoneCnt = s.cb.rxDoneCnt
  pCmdExt : msgClass cfg env s.cb.pCmdCtrl.opcode ≠ .cmdResp → after.cb.pCmdExt = s.cb.pCmdExt

theorem ends_syncLoss :
    Ends (do slDrvGlobalObjUnLock true; emit (.fatalError .syncLoss); throw .apiAborted) s
      (fun (_ : List Byte) _ => False)
      fun ret after => ret = .apiAborted ∧ after.held = without s.held .globalLockObj := by
  apply (completes_slDrvGlobalObjUnLock true s).bind
  intro _ unlocked hunlocked
  exact ⟨rfl, (held_neutral rfl).trans hunlocked.held⟩

theorem ends_readHeader (hdr : RxHdr) :
    Ends (readHeader hdr) s (fun bytes after => hdr = .header bytes ∧ after = s)
      fun ret after => (∀ bytes, hdr ≠ .header bytes) ∧ ret = .apiAborted ∧
        after.held = without s.held .globalLockObj := by
  rw [readHeader, ends_bind, ends_attempt]
  cases hdr with
  | header bytes => exact ⟨rfl, rfl⟩
  | timeout =>
      rw [slDrvRxHdrRead, ends_throw, if_neg (by decide)]
      apply ends_syncLoss.mono
      · exact fun _ _ hfalse => hfalse.elim
      · exact fun ret after hafter => ⟨by simp, hafter⟩
  | shortTransfer =>
      have hreported := held_neutral (s := s) (rfl : lockEvent (.fatalError .driverAbort) = none)
      rw [slDrvRxHdrRead, ends_bind, ends_emit, ends_throw, if_neg (by decide)]
      apply (ends_syncLoss (s := s.after (.fatalError .driverAbort))).mono
      · exact fun _ _ hfalse => hfalse.elim
      · intro ret after hafter
        rw [hreported] at hafter
        exact ⟨by simp, hafter⟩

theorem completes_updateNwpStatus (header : RespHeader) (txSyncObjCount : ℕ) :
    Completes (updateNwpStatus cfg header txSyncObjCount) s fun _ after =>
      after.rx = s.rx ∧ readView after = readView s := by
  rw [Completes, updateNwpStatus, ends_bind, ends_modifyCB, ends_bind, ends_emit, ends_runIf]
  split
  · exact ⟨rfl, (readView_after rfl).trans (readView_after rfl)⟩
  · exact ⟨rfl, readView_after rfl⟩

/-- The classification sets the class and leaves the rest of the view. -/
theorem completes_slDrvClassifyRxMsg (opcode : BitVec 16) :
    Completes (slDrvClassifyRxMsg cfg opcode) s fun rxMsgClass after =>
      rxMsgClass = rxMsgClassOf cfg opcode s.cb.pCmdCtrl.opcode ∧ after.rx = s.rx ∧
        readView after =
          ((s.held, s.cb.pCmdCtrl, rxMsgClass, s.cb.waitForCmdResp, s.cb.rxDoneCnt),
            s.cb.pCmdExt) := by
  rw [Completes, slDrvClassifyRxMsg]
  rw [ends_bind]
  exact ⟨rfl, rfl, rfl⟩

theorem ends_slDrvMsgRead (env : MsgEnv) :
    Ends (slDrvMsgRead cfg env) s
      (fun _ after => msgFate cfg env s.cb.pCmdCtrl s.cb.pCmdExt = .done ∧
        MsgDone cfg env s after)
      fun ret after => FateReturns s.held ret after
        (msgFate cfg env s.cb.pCmdCtrl s.cb.pCmdExt) := by
  rw [slDrvMsgRead, ends_bind, ends_modify, ends_bind]
  apply (ends_readHeader env.hdr).mono
  · intro bytes found hfound
    obtain ⟨hhdr, hfound⟩ := hfound
    subst hfound
    apply (completes_updateNwpStatus cfg (cfg.respHeader bytes) env.txSyncObjCount).bind
    intro _ updated hupdated
    apply (completes_slDrvClassifyRxMsg cfg (cfg.respHeader bytes).opcode).bind
    intro rxMsgClass classified hclassified
    obtain ⟨hclass, hrx, hview⟩ := hclassified
    have hupdatedView : readView updated = readView s := hupdated.2
    have hcmdCtrl : updated.cb.pCmdCtrl = s.cb.pCmdCtrl := congrArg (·.1.2.1) hupdatedView
    have hcmdExt : classified.cb.pCmdExt = s.cb.pCmdExt :=
      (congrArg (·.2) hview).trans (congrArg (·.2) hupdatedView)
    have hctrl : classified.cb.pCmdCtrl = s.cb.pCmdCtrl :=
      (congrArg (·.1.2.1) hview).trans hcmdCtrl
    have hmsgClass : msgClass cfg env s.cb.pCmdCtrl.opcode = rxMsgClass := by
      rw [msgClass, hhdr, hclass, hcmdCtrl]
    have hfate : msgFate cfg env s.cb.pCmdCtrl s.cb.pCmdExt =
        payloadFate cfg env (cfg.respHeader bytes) classified.cb.pCmdCtrl
          classified.cb.pCmdExt rxMsgClass := by
      rw [msgFate, hhdr, hmsgClass, hctrl, hcmdExt]
    have hheld : classified.held = s.held :=
      (congrArg (·.1.1) hview).trans (congrArg (·.1.1) hupdatedView)
    rw [ends_bind, hfate]
    apply (ends_readPayload cfg env bytes (cfg.respHeader bytes) rxMsgClass
      (hrx.trans hupdated.1)).mono
    · intro _ read hread
      refine ⟨hread.1, ?_⟩
      have hlast : (readView (read.after .unmaskIntHdlr)).1 =
          (s.held, s.cb.pCmdCtrl, rxMsgClass, s.cb.waitForCmdResp, s.cb.rxDoneCnt) := by
        rw [readView_after rfl, hread.2.1, hview]
        exact congrArg (fun view => (view.1.1, view.1.2.1, rxMsgClass, view.1.2.2.2)) hupdatedView
      exact
        { held := congrArg (·.1) hlast
          pCmdCtrl := congrArg (·.2.1) hlast
          rxMsgClass := (congrArg (·.2.2.1) hlast).trans hmsgClass.symm
          waitForCmdResp := congrArg (·.2.2.2.1) hlast
          rxDoneCnt := congrArg (·.2.2.2.2) hlast
          pCmdExt := fun hother => (hread.2.2 (hmsgClass ▸ hother)).trans hcmdExt }
    · intro ret after hafter
      rwa [hheld] at hafter
  · intro ret after hafter
    have hfate : msgFate cfg env s.cb.pCmdCtrl s.cb.pCmdExt = .syncLoss := by
      rw [msgFate]
      cases hhdr : env.hdr with
      | header bytes => exact absurd hhdr (hafter.1 bytes)
      | timeout => rfl
      | shortTransfer => rfl
    rw [hfate]
    exact hafter.2

end Message

end SimpleLinkHost.MsgFate
