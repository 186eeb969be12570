import SimpleLinkHost.Core.ProgramInvariant
import SimpleLinkHost.Driver.CmdOpLocks
import SimpleLinkHost.Driver.Delivery

/-!
# The messages in front of a response

A command that waits for its response reads whatever comes before it: events are stored for
the spawn task, receive responses go to the object that waits for them, and dummies are
dropped.  Neither an event handler nor the buffer of the command sees anything of this.
-/

namespace SimpleLinkHost.CmdSequence

open CallOutcome ProgramInvariant Calls GlobalLock MsgWrite RxMsg MsgRead MsgFate CmdOp
open CmdOpLocks Delivery

section Stage

/-- The actions that an event handler or the buffer of a command sees. -/
def watched : DrvAct → Bool
  | .eventHandler _ _ => true
  | act => writesTo .txRxDescBuff act

/-- What no reading changes: the watched actions so far, and the control block. -/
def stage (s : DrvState) : List DrvAct × DriverCB := (s.acts.filter watched, s.cb)

variable {s : DrvState} {act : DrvAct} {buffer : Buffer}

theorem stage_after (hact : watched act = false) : stage (s.after act) = stage s :=
  watching_after hact

theorem filter_after (hact : watched act = false) :
    (s.after act).acts.filter watched = s.acts.filter watched :=
  congrArg Prod.fst (stage_after hact)

theorem watched_memWrite {offset : ℕ} {bytes : List Byte} (hbuffer : buffer ≠ .txRxDescBuff) :
    watched (.memWrite buffer offset bytes) = false :=
  writesTo_other hbuffer offset bytes

theorem leaves_emit (hact : watched act = false) : Leaves stage (emit act) :=
  Delivery.leaves_emit hact

theorem leaves_nwpIfReadCheck (count : ℕ) : Leaves stage (nwpIfReadCheck count) :=
  Delivery.leaves_nwpIfReadCheck (fun _ => rfl) count

theorem leaves_readIntoIf (cond : Bool) (offset count : ℕ) (hbuffer : buffer ≠ .txRxDescBuff) :
    Leaves stage (readIntoIf cond buffer offset count) :=
  Delivery.leaves_readIntoIf (fun _ _ => watched_memWrite hbuffer) (fun _ => rfl) cond offset count

theorem leaves_dumpWords (words : ℕ) : Leaves stage (dumpWords words) :=
  Delivery.leaves_dumpWords (fun _ => rfl) words

theorem leaves_readAligned (len : BitVec 16) (hbuffer : buffer ≠ .txRxDescBuff) :
    Leaves stage (readAligned buffer len) :=
  Delivery.leaves_readAligned (fun _ _ => watched_memWrite hbuffer) (fun _ => rfl) len

theorem leaves_verifyProtocol (check : Bool) : Leaves stage (verifyProtocol check) :=
  Delivery.leaves_verifyProtocol rfl check

theorem leaves_slDrvGlobalObjUnLock (decrement : Bool) :
    Leaves stage (slDrvGlobalObjUnLock decrement) := by
  apply (leaves_emit rfl).bind
  intro _
  apply leaves_ite
  · apply (leaves_emit rfl).bind
    intro _
    exact (leaves_emit rfl).bind fun _ => leaves_emit rfl
  · exact leaves_pure

variable (cfg : RxConfig)

theorem leaves_readCtrlSock (opcode : BitVec 16) (args : List Byte) :
    Leaves stage (readCtrlSock cfg opcode args) := by
  apply (leaves_emit (watched_memWrite (by decide))).bind
  intro _
  apply (leaves_readIntoIf _ _ _ (by decide)).bind
  intro _
  apply (leaves_readIntoIf _ _ _ (by decide)).bind
  exact fun _ => leaves_pure

theorem leaves_readRecvObj (env : MsgEnv) (opcode : BitVec 16) (args : List Byte) :
    Leaves stage (readRecvObj cfg env opcode args) := by
  apply (leaves_verifyProtocol _).bind
  intro _
  apply leaves_get.bind
  intro shared
  apply (leaves_emit (watched_memWrite (by simp))).bind
  intro _
  apply (leaves_readIntoIf _ _ _ (by simp)).bind
  intro _
  apply Leaves.bind
  · apply leaves_runIf
    apply (leaves_verifyProtocol _).bind
    exact fun _ => leaves_readAligned _ (by simp)
  · exact fun _ => leaves_emit rfl

end Stage

section Backstage

/-- What the messages in front of a response leave as it is. -/
def backstage (s : DrvState) : List DrvAct × List SpawnMsgItem :=
  (s.acts.filter watched, s.cb.spawnMsgList)

variable {α : Type} {program : DrvM α} {s : DrvState}
variable (cfg : RxConfig)

theorem leaves_backstage (hprogram : Leaves stage program) : Leaves backstage program :=
  hprogram.project fun seen => (seen.1, seen.2.spawnMsgList)

theorem backstage_of_stage {after : DrvState} (hstage : stage after = stage s) :
    backstage after = backstage s :=
  congrArg (fun seen => (seen.1, seen.2.spawnMsgList)) hstage

theorem leaves_modifyCB {change : DriverCB → DriverCB}
    (hchange : ∀ cb, (change cb).spawnMsgList = cb.spawnMsgList) :
    Leaves backstage (modifyCB change) :=
  leaves_modify fun s => congrArg (s.acts.filter watched, ·) (hchange s.cb)

theorem leaves_slDrvFindAndSetActiveObj (pool : Pool.PoolCB) (opcode : BitVec 16) (sd : ℕ) :
    Leaves backstage (slDrvFindAndSetActiveObj cfg pool opcode sd) := by
  rw [slDrvFindAndSetActiveObj]
  split
  · exact leaves_pure
  · apply Leaves.bind
    · exact leaves_modifyCB fun _ => rfl
    · exact fun _ => leaves_pure
  · apply Leaves.bind
    · exact leaves_modifyCB fun _ => rfl
    · exact fun _ => leaves_pure
  · exact leaves_throw

theorem leaves_readRecvResp (env : MsgEnv) (opcode : BitVec 16) :
    Leaves backstage (readRecvResp cfg env opcode) := by
  have hunlock : Leaves backstage protectionObjUnlock := leaves_backstage (leaves_emit rfl)
  apply (leaves_backstage (leaves_nwpIfReadCheck _)).bind
  intro args
  apply (leaves_backstage (leaves_verifyProtocol _)).bind
  intro _
  apply (leaves_backstage (leaves_emit rfl)).bind
  intro _
  apply (leaves_slDrvFindAndSetActiveObj cfg _ _ _).bind
  intro found
  apply leaves_ite
  · exact (leaves_backstage (leaves_readCtrlSock cfg _ _)).bind fun _ => hunlock
  · apply leaves_ite
    · exact (leaves_backstage (leaves_readRecvObj cfg _ _ _)).bind fun _ => hunlock
    · apply hunlock.bind
      intro _
      exact (leaves_backstage (leaves_slDrvGlobalObjUnLock _)).bind fun _ => leaves_throw

theorem leaves_updateNwpStatus (header : RespHeader) (txSyncObjCount : ℕ) :
    Leaves backstage (updateNwpStatus cfg header txSyncObjCount) := by
  apply Leaves.bind
  · exact leaves_modifyCB fun _ => rfl
  · intro _
    apply (leaves_backstage (leaves_emit rfl)).bind
    exact fun _ => leaves_backstage (leaves_runIf (leaves_emit rfl))

theorem leaves_slDrvClassifyRxMsg (opcode : BitVec 16) :
    Leaves backstage (slDrvClassifyRxMsg cfg opcode) := by
  apply leaves_get.bind
  intro shared
  apply Leaves.bind
  · exact leaves_modifyCB fun _ => rfl
  · exact fun _ => leaves_pure

end Backstage

section Events

variable (cfg : RxConfig) {s : DrvState}

/-- The bytes of an event that its buffer holds. -/
def evtBytes (env : MsgEnv) (hdrBytes : List Byte) : List Byte :=
  let len := rspPayloadLen cfg (cfg.respHeader hdrBytes)
  hdrBytes ++ env.rx.take (if 0 < len.toNat then asyncStoredLen cfg len else 0)

/-- The handler of an event: that of the object which waits for it, or that of its
opcode. -/
def evtHandler (env : MsgEnv) (hdrBytes : List Byte) : Option EvtHandler :=
  let header := cfg.respHeader hdrBytes
  let len := rspPayloadLen cfg header
  let payload := env.rx.take (if 0 < len.toNat then asyncStoredLen cfg len else 0)
  match activeObjOf cfg env.pool header.opcode (asyncEvtSd cfg header.opcode payload) with
  | .action _ handler => handler
  | _ => asyncEvtHandlerOf cfg header.opcode

/-- What a message read in command context leaves for the spawn list. -/
def evtOf (cmdOpcode : BitVec 16) (env : MsgEnv) : Option (Option EvtHandler × List Byte) :=
  match env.hdr with
  | .header hdrBytes =>
      if rxMsgClassOf cfg (cfg.respHeader hdrBytes).opcode cmdOpcode = .asyncEvt then
        some (evtHandler cfg env hdrBytes, evtBytes cfg env hdrBytes)
      else none
  | _ => none

/-- How the search for an event ends. -/
def evtActiveObj (env : MsgEnv) (hdrBytes : List Byte) : ActiveObj :=
  let header := cfg.respHeader hdrBytes
  let len := rspPayloadLen cfg header
  let payload := env.rx.take (if 0 < len.toNat then asyncStoredLen cfg len else 0)
  activeObjOf cfg env.pool header.opcode (asyncEvtSd cfg header.opcode payload)

theorem evtHandler_eq {env : MsgEnv} {hdrBytes : List Byte} {ext : AsyncExt}
    (hhandler : ext.asyncEvtHandler = asyncEvtHandlerOf cfg (cfg.respHeader hdrBytes).opcode) :
    (foundExt (evtActiveObj cfg env hdrBytes) ext).asyncEvtHandler =
      evtHandler cfg env hdrBytes := by
  rw [evtHandler]
  change _ = match evtActiveObj cfg env hdrBytes with
    | .action _ handler => handler
    | _ => asyncEvtHandlerOf cfg (cfg.respHeader hdrBytes).opcode
  cases evtActiveObj cfg env hdrBytes with
  | action index handler => rfl
  | recv index => exact hhandler
  | notSet => exact hhandler
  | endless => exact hhandler

/-- The actions of reading an event are not watched. -/
structure IgnoresEvt (seen : DrvAct → Bool) : Prop where
  reads : IgnoresReads seen
  writes : ∀ offset bytes, seen (.memWrite .asyncBuf offset bytes) = false
  malloc : seen .malloc = false
  lock : seen (.lock .protectionLockObj) = false
  unlock : seen (.unlock .protectionLockObj) = false

variable {seen : DrvAct → Bool}

theorem leaves_readAsyncPayload (hseen : IgnoresEvt seen) (len : BitVec 16) :
    Leaves (watching seen) (readAsyncPayload cfg len) := by
  apply (Delivery.leaves_readIntoIf hseen.writes hseen.reads _ _ _).bind
  intro payload
  apply (leaves_runIf (Delivery.leaves_dumpWords hseen.reads _)).bind
  exact fun _ => leaves_pure

/-- The rule for an event: its bytes are delivered, and its search is all that the control block
sees of it. -/
theorem ensures_readAsyncEvt (hseen : IgnoresEvt seen) {env : MsgEnv} {hdrBytes : List Byte}
    (hrx : s.rx = env.rx) :
    Ensures (readAsyncEvt cfg env hdrBytes (cfg.respHeader hdrBytes)) s fun out after =>
      watching seen after = (s.acts.filter seen,
        { s.cb with
          asyncExt := foundExt (evtActiveObj cfg env hdrBytes) s.cb.asyncExt }) ∧
        out.asyncBuf = evtBytes cfg env hdrBytes ∧
        out.outMsgReadLen + hdrBytes.length =
          cfg.respHdrSize + (evtBytes cfg env hdrBytes).length := by
  rw [Ensures, readAsyncEvt]
  rw [ends_bind, ends_emit, ends_bind, ends_returnIf]
  split
  · trivial
  · rw [ends_bind, ends_emit, ends_bind, ends_emit]
    generalize hcleared : (((s.after .malloc).after _).after _) = cleared
    have hsame : watching seen cleared = watching seen s := by
      rw [← hcleared, watching_after (hseen.writes _ _), watching_after (hseen.writes _ _),
        watching_after hseen.malloc]
    have hclearedRx : cleared.rx = env.rx := by
      rw [← hcleared]
      exact hrx
    have hpayload := (reads_readAsyncPayload cfg (s := cleared)
      (rspPayloadLen cfg (cfg.respHeader hdrBytes))).ends
    rw [hclearedRx] at hpayload
    have hread := (leaves_readAsyncPayload cfg hseen
      (rspPayloadLen cfg (cfg.respHeader hdrBytes))).ensures.and
        (hpayload.mono (fun _ _ hafter => hafter) fun _ _ _ => trivial)
    apply hread.bind
    intro payload read hboth
    obtain ⟨hreadSame, -, -, hpayload⟩ := hboth
    rw [Ensures, protectionObjLockForever, ends_bind, ends_emit]
    have hlocked : watching seen (read.after (.lock .protectionLockObj)) = watching seen s :=
      calc watching seen (read.after (.lock .protectionLockObj)) = watching seen read :=
            watching_after hseen.lock
        _ = watching seen cleared := hreadSame
        _ = watching seen s := hsame
    apply (ensures_slDrvFindAndSetActiveObj cfg env.pool (cfg.respHeader hdrBytes).opcode
      (asyncEvtSd cfg (cfg.respHeader hdrBytes).opcode payload)).bind
    intro _ set hset
    subst hset hpayload
    refine ⟨(watching_after hseen.unlock).trans ?_, rfl, ?_⟩
    · exact congrArg (fun found => (found.1,
        { found.2 with
          asyncExt := foundExt (evtActiveObj cfg env hdrBytes) found.2.asyncExt })) hlocked
    · simp only [evtBytes, List.length_append]
      omega

end Events

section Messages

variable (cfg : RxConfig) {s : DrvState} {env : MsgEnv} {hdrBytes : List Byte}

/-- The classification sets the handler of the opcode, for an event. -/
theorem ensures_slDrvClassifyRxMsg (opcode : BitVec 16) :
    Ensures (slDrvClassifyRxMsg cfg opcode) s fun rxMsgClass after =>
      rxMsgClass = rxMsgClassOf cfg opcode s.cb.pCmdCtrl.opcode ∧ after.rx = s.rx ∧
        after.cb.pCmdCtrl = s.cb.pCmdCtrl ∧
        after.cb.asyncExt.asyncEvtHandler =
          if rxMsgClass = .asyncEvt then asyncEvtHandlerOf cfg opcode else none := by
  rw [Ensures, slDrvClassifyRxMsg]
  rw [ends_bind]
  exact ⟨rfl, rfl, rfl, rfl⟩

/-- A view of the state in which the header of a message is not seen. -/
structure IgnoresHeader {View : Type} (view : DrvState → View) : Prop where
  shared : ∀ (s : DrvState) (rx : List Byte) (multiSelectCB : MultiSelectCB),
    view { s with rx := rx, cb := { s.cb with multiSelectCB := multiSelectCB } } = view s
  status : ∀ header txSyncObjCount, Leaves view (updateNwpStatus cfg header txSyncObjCount)
  classify : ∀ opcode, Leaves view (slDrvClassifyRxMsg cfg opcode)

/-- The rule for a message whose header has arrived: what its class asks for happens in a
state that has been told of the header. -/
theorem ensures_slDrvMsgRead {View : Type} {view : DrvState → View}
    (hview : IgnoresHeader cfg view) (good : MsgReadOut → DrvState → Prop)
    (hhdr : env.hdr = .header hdrBytes)
    (hpayload : ∀ told : DrvState, told.rx = env.rx → view told = view s →
      told.cb.pCmdCtrl = s.cb.pCmdCtrl →
      told.cb.asyncExt.asyncEvtHandler =
        (if rxMsgClassOf cfg (cfg.respHeader hdrBytes).opcode s.cb.pCmdCtrl.opcode = .asyncEvt then
          asyncEvtHandlerOf cfg (cfg.respHeader hdrBytes).opcode
        else none) →
      Ensures (readPayload cfg env hdrBytes (cfg.respHeader hdrBytes)
        (rxMsgClassOf cfg (cfg.respHeader hdrBytes).opcode s.cb.pCmdCtrl.opcode)) told good) :
    Ensures (slDrvMsgRead cfg env) s fun out after =>
      ∃ read, good out read ∧ after = read.after .unmaskIntHdlr := by
  rw [Ensures, slDrvMsgRead]
  rw [ends_bind, ends_modify, hhdr, readHeader, bind_assoc, ends_bind, ends_attempt]
  generalize hshared : ({ s with
    rx := env.rx, cb := { s.cb with multiSelectCB := env.multiSelectCB } } : DrvState) = shared
  have hsharedView : view shared = view s := hshared ▸ hview.shared s env.rx env.multiSelectCB
  have hsharedRx : shared.rx = env.rx := by rw [← hshared]
  have hsharedCtrl : shared.cb.pCmdCtrl = s.cb.pCmdCtrl := by rw [← hshared]
  change Ends (updateNwpStatus cfg (cfg.respHeader hdrBytes) env.txSyncObjCount >>= _) shared _ _
  have hstatus : Ensures (updateNwpStatus cfg (cfg.respHeader hdrBytes) env.txSyncObjCount) shared
      fun _ after => after.rx = shared.rx ∧ readView after = readView shared :=
    (completes_updateNwpStatus cfg (cfg.respHeader hdrBytes) env.txSyncObjCount).ends
  apply (hstatus.and (hview.status (cfg.respHeader hdrBytes) env.txSyncObjCount).ensures).bind
  intro _ updated hupdated
  obtain ⟨⟨hrx, hreadView⟩, hsame⟩ := hupdated
  have hctrl : updated.cb.pCmdCtrl = s.cb.pCmdCtrl :=
    (congrArg (·.1.2.1) hreadView).trans hsharedCtrl
  apply ((ensures_slDrvClassifyRxMsg cfg (cfg.respHeader hdrBytes).opcode).and
    (hview.classify (cfg.respHeader hdrBytes).opcode).ensures).bind
  intro rxMsgClass told htold
  obtain ⟨⟨hclass, htoldRx, htoldCtrl, hhandler⟩, htoldSame⟩ := htold
  rw [hctrl] at hclass
  subst hclass
  have htoldRx' : told.rx = env.rx :=
    calc told.rx = updated.rx := htoldRx
      _ = shared.rx := hrx
      _ = env.rx := hsharedRx
  have htoldView : view told = view s :=
    calc view told = view updated := htoldSame
      _ = view shared := hsame
      _ = view s := hsharedView
  apply (hpayload told htoldRx' htoldView (htoldCtrl.trans hctrl) hhandler).bind
  intro out read hread
  exact ⟨read, hread, rfl⟩

theorem ignoresHeader_backstage : IgnoresHeader cfg backstage where
  shared := fun _ _ _ => rfl
  status := leaves_updateNwpStatus cfg
  classify := leaves_slDrvClassifyRxMsg cfg

theorem backstage_unmask {read : DrvState} :
    backstage (read.after .unmaskIntHdlr) = backstage read :=
  backstage_of_stage (stage_after rfl)

theorem ignoresEvt_watched : IgnoresEvt watched where
  reads := fun _ => rfl
  writes := fun _ _ => watched_memWrite (by decide)
  malloc := rfl
  lock := rfl
  unlock := rfl

/-- An event, read in command context. -/
theorem ensures_readEvt (hhdr : env.hdr = .header hdrBytes)
    (hlength : hdrBytes.length = cfg.respHdrSize)
    (hclass : rxMsgClassOf cfg (cfg.respHeader hdrBytes).opcode s.cb.pCmdCtrl.opcode =
      .asyncEvt) :
    Ensures (slDrvMsgRead cfg env) s fun out after =>
      backstage after = backstage s ∧
        after.cb.asyncExt.asyncEvtHandler = evtHandler cfg env hdrBytes ∧
        out.asyncBuf.take out.outMsgReadLen = evtBytes cfg env hdrBytes := by
  have hread := ensures_slDrvMsgRead cfg (s := s) (ignoresHeader_backstage cfg) (fun out read =>
    backstage read = backstage s ∧
      read.cb.asyncExt.asyncEvtHandler = evtHandler cfg env hdrBytes ∧
      out.asyncBuf.take out.outMsgReadLen = evtBytes cfg env hdrBytes) hhdr ?_
  · apply hread.mono
    intro out after hafter
    obtain ⟨read, hgood, hafter⟩ := hafter
    rw [hafter]
    exact ⟨backstage_unmask.trans hgood.1, hgood.2⟩
  · intro told hrx hback _ hhandler
    rw [hclass, if_pos rfl] at hhandler
    rw [hclass, readPayload]
    apply (ensures_readAsyncEvt cfg ignoresEvt_watched hrx).mono
    intro out after hafter
    obtain ⟨hsame, hbytes, hlen⟩ := hafter
    refine ⟨?_, ?_, ?_⟩
    · exact (congrArg (fun seen => (seen.1, seen.2.spawnMsgList)) hsame).trans hback
    · rw [← evtHandler_eq cfg hhandler]
      exact congrArg (fun seen => seen.2.asyncExt.asyncEvtHandler) hsame
    · have hall : out.outMsgReadLen = (evtBytes cfg env hdrBytes).length := by omega
      rw [hbytes, hall, List.take_length]

/-- A receive response or a dummy, read in command context. -/
theorem ensures_readOther (hhdr : env.hdr = .header hdrBytes)
    (hclass : rxMsgClassOf cfg (cfg.respHeader hdrBytes).opcode s.cb.pCmdCtrl.opcode =
        .recvResp ∨
      rxMsgClassOf cfg (cfg.respHeader hdrBytes).opcode s.cb.pCmdCtrl.opcode = .dummyMsg) :
    Ensures (slDrvMsgRead cfg env) s fun _ after => backstage after = backstage s := by
  have hread := ensures_slDrvMsgRead cfg (s := s) (ignoresHeader_backstage cfg)
    (fun _ read => backstage read = backstage s) hhdr ?_
  · apply hread.mono
    intro out after hafter
    obtain ⟨read, hgood, hafter⟩ := hafter
    rw [hafter]
    exact backstage_unmask.trans hgood
  · intro told _ hback _ _
    cases hclass with
    | inl hrecv =>
        rw [hrecv, readPayload]
        apply (leaves_readRecvResp cfg env (cfg.respHeader hdrBytes).opcode).ensures.bind
        exact fun _ _ hafter => hafter.trans hback
    | inr hdummy =>
        rw [hdummy]
        exact hback

/-- The bytes of a response that its command is given. -/
def descBytes (cmdCtrl : CmdCtrl) (env : MsgEnv) : List Byte :=
  env.rx.take (alignSize cmdCtrl.rxDescLen.toNat)

theorem leaves_readCmdExt (actDataSize : BitVec 16) (ext : CmdExt) :
    Leaves backstage (readCmdExt actDataSize ext) := by
  apply Leaves.bind
  · exact leaves_modifyCB fun _ => rfl
  · intro _
    apply leaves_ite
    · exact leaves_modifyCB fun _ => rfl
    · apply leaves_backstage
      apply (leaves_readAligned _ (by decide)).bind
      exact fun _ => leaves_runIf (leaves_dumpWords _)

/-- The response, read in command context: its descriptor is written once. -/
theorem ensures_readResponse (hhdr : env.hdr = .header hdrBytes)
    (hclass : rxMsgClassOf cfg (cfg.respHeader hdrBytes).opcode s.cb.pCmdCtrl.opcode =
      .cmdResp) :
    Ensures (slDrvMsgRead cfg env) s fun _ after =>
      backstage after = (s.acts.filter watched ++
        [.memWrite .txRxDescBuff 0 (descBytes s.cb.pCmdCtrl env)], s.cb.spawnMsgList) := by
  have hread := ensures_slDrvMsgRead cfg (s := s) (ignoresHeader_backstage cfg) (fun _ read =>
    backstage read = (s.acts.filter watched ++
      [.memWrite .txRxDescBuff 0 (descBytes s.cb.pCmdCtrl env)], s.cb.spawnMsgList)) hhdr ?_
  · apply hread.mono
    intro out after hafter
    obtain ⟨read, hgood, hafter⟩ := hafter
    rw [hafter]
    exact backstage_unmask.trans hgood
  · intro told hrx hback hctrl _
    rw [hclass, readPayload]
    rw [Ensures, readCmdResp]
    rw [bind_assoc, ends_bind, ends_get, readInto, bind_assoc, bind_assoc]
    have hbytes := (reads_nwpIfReadCheck (s := told)
      (alignSize told.cb.pCmdCtrl.rxDescLen.toNat)).ends
    apply ((leaves_nwpIfReadCheck _).ensures.and
      (hbytes.mono (fun _ _ hafter => hafter) fun _ _ _ => trivial)).bind
    intro bytes read hboth
    obtain ⟨hstage, -, -, hbytes⟩ := hboth
    rw [hctrl, hrx] at hbytes
    have hwritten : backstage (read.after (.memWrite .txRxDescBuff 0 bytes)) =
        (s.acts.filter watched ++
          [.memWrite .txRxDescBuff 0 (descBytes s.cb.pCmdCtrl env)], s.cb.spawnMsgList) := by
      have hbefore : backstage read = backstage s := (backstage_of_stage hstage).trans hback
      have hacts : read.acts.filter watched = s.acts.filter watched := congrArg Prod.fst hbefore
      rw [backstage, DrvState.after, List.filter_append, hacts, hbytes]
      exact congrArg (_, ·) (congrArg Prod.snd hbefore)
    rw [Ensures, ends_bind, ends_bind, ends_emit, ends_pure, ← hwritten]
    cases told.cb.pCmdExt with
    | none => exact rfl
    | some ext =>
        rw [ends_bind]
        exact (leaves_runIf (leaves_readCmdExt _ ext)).ensures

end Messages

section Arrival

variable (cfg : RxConfig)

/-- A message that may come in front of the response, with the buffers and the object that
it needs. -/
inductive Unsolicited (cmdOpcode : BitVec 16) (round : CmdRound) : Prop
  | asyncEvt (hdrBytes : List Byte) (active : List ℕ)
      (hdr : round.message.hdr = .header hdrBytes)
      (length : hdrBytes.length = cfg.respHdrSize)
      (rxMsgClass : rxMsgClassOf cfg (cfg.respHeader hdrBytes).opcode cmdOpcode = .asyncEvt)
      (payload : alignSize (rspPayloadLen cfg (cfg.respHeader hdrBytes)).toNat ≤
        round.message.rx.length)
      (asyncBuf : round.message.asyncBufAllocated = true)
      (item : round.spawnInsert.itemAllocated = true)
      (buffer : round.spawnInsert.bufferAllocated = true)
      (linked : IndexList.Linked round.message.pool.next cfg.maxConcurrentActions
        round.message.pool.activePoolIdx active)
  | dummyMsg (hdrBytes : List Byte)
      (hdr : round.message.hdr = .header hdrBytes)
      (rxMsgClass : rxMsgClassOf cfg (cfg.respHeader hdrBytes).opcode cmdOpcode = .dummyMsg)
  | recvResp (hdrBytes args : List Byte) (index : ℕ)
      (hdr : round.message.hdr = .header hdrBytes)
      (rxMsgClass : rxMsgClassOf cfg (cfg.respHeader hdrBytes).opcode cmdOpcode = .recvResp)
      (arguments : args = round.message.rx.take cfg.recvArgsSize)
      (object : activeObjOf cfg round.message.pool (cfg.respHeader hdrBytes).opcode
        (recvSocket cfg args) = .recv index)
      (payload : cfg.recvArgsSize + recvObjNeed cfg (cfg.respHeader hdrBytes).opcode args ≤
        round.message.rx.length)

/-- The response of the running command, with all the bytes that are asked for. -/
structure IsResponse (cmdCtrl : CmdCtrl) (pCmdExt : Option CmdExt) (env : MsgEnv)
    (hdrBytes : List Byte) : Prop where
  hdr : env.hdr = .header hdrBytes
  rxMsgClass : rxMsgClassOf cfg (cfg.respHeader hdrBytes).opcode cmdCtrl.opcode = .cmdResp
  payload : cmdRespNeed cfg (cfg.respHeader hdrBytes) cmdCtrl pCmdExt ≤ env.rx.length

/-- The messages that a waiting command meets, one after the other; where no message is
pending it waits until the interrupt handler signals it. -/
inductive Arrives : Byte → List CmdRound → List CmdRound → Prop
  | nil (rxDoneCnt : Byte) : Arrives rxDoneCnt [] []
  | waits {rxDoneCnt : Byte} {round : CmdRound} {rounds messages : List CmdRound}
      (idle : round.rxIrqCnt = rxDoneCnt) (signalled : round.waitStatus = 0)
      (rest : Arrives rxDoneCnt rounds messages) :
      Arrives rxDoneCnt (round :: rounds) messages
  | reads {rxDoneCnt : Byte} {round : CmdRound} {rounds messages : List CmdRound}
      (pending : round.rxIrqCnt ≠ rxDoneCnt)
      (rest : Arrives (rxDoneCnt + 1) rounds messages) :
      Arrives rxDoneCnt (round :: rounds) (round :: messages)

variable {round : CmdRound} {s : DrvState}

/-- A walk along the list of active objects ends. -/
theorem activeObjOf_ne_endless {pool : Pool.PoolCB} {active : List ℕ}
    (hlinked : IndexList.Linked pool.next cfg.maxConcurrentActions pool.activePoolIdx active)
    (opcode : BitVec 16) (sd : ℕ) : activeObjOf cfg pool opcode sd ≠ .endless := by
  have hwalk : ∀ (items : List ℕ) (steps index : ℕ) (opcode : BitVec 16), items.length < steps →
      IndexList.Linked pool.next cfg.maxConcurrentActions index items →
      findActiveObj cfg pool sd steps index opcode ≠ .endless := by
    intro items
    induction items with
    | nil =>
        intro steps index opcode hsteps hnil
        cases steps with
        | zero => exact absurd hsteps (Nat.not_lt_zero _)
        | succ steps =>
            rw [findActiveObj, if_pos (le_of_eq (IndexList.linked_nil.mp hnil).symm)]
            exact nofun
    | cons item items ih =>
        intro steps index opcode hsteps hcons
        obtain ⟨hindex, hlt, hrest⟩ := hcons
        cases steps with
        | zero => exact absurd hsteps (Nat.not_lt_zero _)
        | succ steps =>
            rw [findActiveObj, if_neg (by omega)]
            simp only
            split
            · exact nofun
            · split
              · exact nofun
              · rw [hindex]
                exact ih steps _ _ (by simpa using hsteps) hrest
  have hlength := hlinked.length_le
  exact hwalk active _ _ opcode (by omega) hlinked

theorem msgFate_unsolicited (hround : Unsolicited cfg s.cb.pCmdCtrl.opcode round) :
    msgFate cfg round.message s.cb.pCmdCtrl s.cb.pCmdExt = .done := by
  cases hround with
  | asyncEvt hdrBytes active hdr length rxMsgClass payload asyncBuf item buffer linked =>
      rw [msgFate, msgClass, hdr]
      simp only [rxMsgClass, payloadFate, asyncFate]
      rw [asyncBuf, if_neg (by simp), if_neg (by omega),
        if_neg (activeObjOf_ne_endless cfg linked _ _)]
  | dummyMsg hdrBytes hdr rxMsgClass =>
      rw [msgFate, msgClass, hdr]
      simp only [rxMsgClass, payloadFate]
  | recvResp hdrBytes args index hdr rxMsgClass arguments object payload =>
      rw [msgFate, msgClass, hdr]
      simp only [rxMsgClass, payloadFate, recvFate]
      rw [← arguments, object, if_neg (by omega), if_neg (by simp), if_neg (by simp),
        if_neg (by simp), if_neg (by omega)]

theorem msgFate_response {resp : MsgEnv} {hdrBytes : List Byte}
    (hresp : IsResponse cfg s.cb.pCmdCtrl s.cb.pCmdExt resp hdrBytes) :
    msgFate cfg resp s.cb.pCmdCtrl s.cb.pCmdExt = .done := by
  have hpayload := hresp.payload
  rw [msgFate, msgClass, hresp.hdr]
  simp only [hresp.rxMsgClass, payloadFate, cmdFate]
  rw [if_neg (by omega)]

/-- A message that is done for is read. -/
theorem completes_slDrvMsgRead {env : MsgEnv} {good : MsgReadOut → DrvState → Prop}
    (hfate : msgFate cfg env s.cb.pCmdCtrl s.cb.pCmdExt = .done)
    (hgood : Ensures (slDrvMsgRead cfg env) s good) :
    Completes (slDrvMsgRead cfg env) s fun out after =>
      MsgDone cfg env s after ∧ good out after := by
  have hends := ends_slDrvMsgRead cfg env (s := s)
  rw [hfate] at hends
  apply (hends.and hgood).mono
  · exact fun _ _ hafter => ⟨hafter.1.2, hafter.2⟩
  · exact fun _ _ hafter => hafter.1

end Arrival

section Loop

variable (cfg : RxConfig) {s : DrvState} {round resp : CmdRound} {hdrBytes : List Byte}
variable {lockRequired : Bool}

/-- The event of a message is behind the others in the spawn list, if it is one. -/
def Inserts (before after : List SpawnMsgItem) (events : List (Option EvtHandler × List Byte)) :
    Prop :=
  ∃ items, after = before ++ items ∧
    items.map (fun item => (item.asyncHndlr, item.buffer)) = events

theorem Inserts.trans {before middle after : List SpawnMsgItem}
    {events more : List (Option EvtHandler × List Byte)} (hfirst : Inserts before middle events)
    (hsecond : Inserts middle after more) : Inserts before after (events ++ more) := by
  obtain ⟨items, hitems, hevents⟩ := hfirst
  obtain ⟨others, hothers, hmore⟩ := hsecond
  refine ⟨items ++ others, ?_, ?_⟩
  · rw [hothers, hitems, List.append_assoc]
  · rw [List.map_append, hevents, hmore]

/-- What one message in front of the response leaves behind. -/
structure Stored (s : DrvState) (round : CmdRound) (after : DrvState) : Prop where
  pCmdCtrl : after.cb.pCmdCtrl = s.cb.pCmdCtrl
  pCmdExt : after.cb.pCmdExt = s.cb.pCmdExt
  waitForCmdResp : after.cb.waitForCmdResp = s.cb.waitForCmdResp
  rxDoneCnt : after.cb.rxDoneCnt = s.cb.rxDoneCnt + 1
  acts : after.acts.filter watched = s.acts.filter watched
  spawnMsgList : Inserts s.cb.spawnMsgList after.cb.spawnMsgList
    (evtOf cfg s.cb.pCmdCtrl.opcode round.message).toList

/-- An event for which there are buffers goes to the end of the spawn list. -/
theorem completes_storeAsyncEvt_allocated {env : SpawnInsert} (out : MsgReadOut)
    (hitem : env.itemAllocated = true) (hbuffer : env.bufferAllocated = true) :
    Completes (storeAsyncEvt env out) s fun _ after =>
      stage after = (s.acts.filter watched,
        { s.cb with
          spawnMsgList := s.cb.spawnMsgList ++
            [{ actionIndex := s.cb.asyncExt.actionIndex
               asyncHndlr := s.cb.asyncExt.asyncEvtHandler
               buffer := out.asyncBuf.take out.outMsgReadLen }] }) := by
  rw [Completes, storeAsyncEvt, slSpawnMsgListInsert, protectionObjLockForever, protectionObjUnlock]
  simp only [hitem, hbuffer, Bool.not_true, Bool.false_eq_true, if_false, ends_bind, ends_emit,
    ends_modifyCB, ends_pure, ends_runIf, reduceCtorEq]
  rw [stage_after rfl, stage_after rfl]
  refine Prod.ext ?_ rfl
  exact (filter_after (s := (s.after (.lock .protectionLockObj)).after .malloc) rfl).trans
    ((filter_after (s := s.after (.lock .protectionLockObj)) rfl).trans (filter_after rfl))

theorem msgClass_of_header {env : MsgEnv} {cmdOpcode : BitVec 16} {rxMsgClass : RxMsgClass}
    (hhdr : env.hdr = .header hdrBytes)
    (hclass : rxMsgClassOf cfg (cfg.respHeader hdrBytes).opcode cmdOpcode = rxMsgClass) :
    msgClass cfg env cmdOpcode = rxMsgClass := by
  rw [msgClass, hhdr]
  exact hclass

/-- A message that is no event leaves nothing for the spawn list. -/
theorem evtOf_of_ne {env : MsgEnv} {cmdOpcode : BitVec 16} (hhdr : env.hdr = .header hdrBytes)
    (hclass : msgClass cfg env cmdOpcode ≠ .asyncEvt) : evtOf cfg cmdOpcode env = none := by
  rw [msgClass, hhdr] at hclass
  rw [evtOf, hhdr]
  exact if_neg hclass

/-- `RxDoneCnt++` -/
def counted (s : DrvState) : DrvState :=
  s.changeCB fun cb => { cb with rxDoneCnt := cb.rxDoneCnt + 1 }

/-- The rule for a round that reads a message: it is counted and handled by its class. -/
theorem completes_readCmdMsg {good : MsgReadOut → DrvState → Prop} {last : Unit → DrvState → Prop}
    (hfate : msgFate cfg round.message s.cb.pCmdCtrl s.cb.pCmdExt = .done)
    (hgood : Ensures (slDrvMsgRead cfg round.message) s good)
    (hlast : ∀ out read, MsgDone cfg round.message s read → good out read →
      Completes (handleCmdMsg round.spawnInsert out
        (msgClass cfg round.message s.cb.pCmdCtrl.opcode)) (counted read) last) :
    Completes (readCmdMsg cfg lockRequired round) s last := by
  rw [Completes, readCmdMsg, ends_bind, ends_attempt]
  apply Ends.mono (completes_slDrvMsgRead cfg hfate hgood)
  · intro out read hread
    rw [ends_bind, ends_modifyCB, ends_bind, ends_get, DrvState.changeCB_cb, hread.1.rxMsgClass]
    exact hlast out read hread.1 hread.2
  · exact fun _ _ hfalse => hfalse.elim

theorem stored_of_backstage {read : DrvState} (hdone : MsgDone cfg round.message s read)
    (hback : backstage read = backstage s)
    (hclass : msgClass cfg round.message s.cb.pCmdCtrl.opcode ≠ .cmdResp)
    (hevt : evtOf cfg s.cb.pCmdCtrl.opcode round.message = none) :
    Stored cfg s round (counted read) where
  pCmdCtrl := hdone.pCmdCtrl
  pCmdExt := hdone.pCmdExt hclass
  waitForCmdResp := hdone.waitForCmdResp
  rxDoneCnt := congrArg (· + 1) hdone.rxDoneCnt
  acts := congrArg Prod.fst hback
  spawnMsgList := by
    rw [hevt]
    exact ⟨[], (congrArg Prod.snd hback).trans (List.append_nil _).symm, rfl⟩

theorem completes_readEvtRound
    (hfate : msgFate cfg round.message s.cb.pCmdCtrl s.cb.pCmdExt = .done)
    (hhdr : round.message.hdr = .header hdrBytes) (hlength : hdrBytes.length = cfg.respHdrSize)
    (hclass : rxMsgClassOf cfg (cfg.respHeader hdrBytes).opcode s.cb.pCmdCtrl.opcode = .asyncEvt)
    (hitem : round.spawnInsert.itemAllocated = true)
    (hbuffer : round.spawnInsert.bufferAllocated = true) :
    Completes (readCmdMsg cfg lockRequired round) s fun _ after => Stored cfg s round after := by
  have hmsgClass := msgClass_of_header cfg hhdr hclass
  have hevt : evtOf cfg s.cb.pCmdCtrl.opcode round.message =
      some (evtHandler cfg round.message hdrBytes, evtBytes cfg round.message hdrBytes) := by
    rw [evtOf, hhdr]
    exact if_pos hclass
  apply completes_readCmdMsg cfg hfate (ensures_readEvt cfg hhdr hlength hclass)
  intro out read hdone hgood
  obtain ⟨hback, hhandler, hbytes⟩ := hgood
  rw [hmsgClass]
  apply (completes_storeAsyncEvt_allocated (s := counted read) out hitem hbuffer).mono
  intro _ after hafter
  have hcb := congrArg Prod.snd hafter
  exact
    { pCmdCtrl := (congrArg DriverCB.pCmdCtrl hcb).trans hdone.pCmdCtrl
      pCmdExt := (congrArg DriverCB.pCmdExt hcb).trans
        (hdone.pCmdExt (by rw [hmsgClass]; exact nofun))
      waitForCmdResp := (congrArg DriverCB.waitForCmdResp hcb).trans hdone.waitForCmdResp
      rxDoneCnt := (congrArg DriverCB.rxDoneCnt hcb).trans (congrArg (· + 1) hdone.rxDoneCnt)
      acts := (congrArg Prod.fst hafter).trans (congrArg Prod.fst hback)
      spawnMsgList := by
        refine ⟨[{ actionIndex := read.cb.asyncExt.actionIndex
                   asyncHndlr := read.cb.asyncExt.asyncEvtHandler
                   buffer := out.asyncBuf.take out.outMsgReadLen }], ?_, ?_⟩
        · exact (congrArg DriverCB.spawnMsgList hcb).trans
            (congrArg (· ++ _) (congrArg Prod.snd hback))
        · rw [hevt, ← hhandler, ← hbytes]
          rfl }

/-- A round that reads one of the messages in front of the response. -/
theorem completes_readUnsolicited (hround : Unsolicited cfg s.cb.pCmdCtrl.opcode round) :
    Completes (readCmdMsg cfg lockRequired round) s fun _ after => Stored cfg s round after := by
  have hfate := msgFate_unsolicited cfg hround
  cases hround with
  | asyncEvt hdrBytes active hdr length rxMsgClass payload asyncBuf item buffer linked =>
      exact completes_readEvtRound cfg hfate hdr length rxMsgClass item buffer
  | dummyMsg hdrBytes hdr rxMsgClass =>
      have hclass := msgClass_of_header cfg hdr rxMsgClass
      have hevt := evtOf_of_ne cfg hdr (by rw [hclass]; exact nofun)
      apply completes_readCmdMsg cfg hfate (ensures_readOther cfg hdr (.inr rxMsgClass))
      intro out read hdone hback
      rw [hclass]
      exact stored_of_backstage cfg hdone hback (by rw [hclass]; exact nofun) hevt
  | recvResp hdrBytes args index hdr rxMsgClass arguments object payload =>
      have hclass := msgClass_of_header cfg hdr rxMsgClass
      have hevt := evtOf_of_ne cfg hdr (by rw [hclass]; exact nofun)
      apply completes_readCmdMsg cfg hfate (ensures_readOther cfg hdr (.inl rxMsgClass))
      intro out read hdone hback
      rw [hclass]
      exact stored_of_backstage cfg hdone hback (by rw [hclass]; exact nofun) hevt

/-- What a command has once its response was read. -/
structure Responded (s : DrvState) (messages : List CmdRound) (resp : CmdRound)
    (after : DrvState) : Prop where
  waitForCmdResp : after.cb.waitForCmdResp = false
  rxDoneCnt : after.cb.rxDoneCnt = s.cb.rxDoneCnt + BitVec.ofNat 8 (messages.length + 1)
  acts : after.acts.filter watched = s.acts.filter watched ++
    [.memWrite .txRxDescBuff 0 (descBytes s.cb.pCmdCtrl resp.message)]
  spawnMsgList : Inserts s.cb.spawnMsgList after.cb.spawnMsgList
    (messages.filterMap fun round => evtOf cfg s.cb.pCmdCtrl.opcode round.message)

/-- The round that reads the response. -/
theorem completes_readResponse
    (hresp : IsResponse cfg s.cb.pCmdCtrl s.cb.pCmdExt resp.message hdrBytes) :
    Completes (readCmdMsg cfg lockRequired resp) s fun _ after =>
      Responded cfg s [] resp after := by
  have hclass := msgClass_of_header cfg hresp.hdr hresp.rxMsgClass
  apply completes_readCmdMsg cfg (msgFate_response cfg hresp)
    (ensures_readResponse cfg hresp.hdr hresp.rxMsgClass)
  intro out read hdone hback
  rw [hclass, Completes, handleCmdMsg, ends_bind, ends_modifyCB, ends_emit]
  exact
    { waitForCmdResp := rfl
      rxDoneCnt := congrArg (· + 1) hdone.rxDoneCnt
      acts := (filter_after (s := (counted read).changeCB _) rfl).trans (congrArg Prod.fst hback)
      spawnMsgList := ⟨[], (congrArg Prod.snd hback).trans (List.append_nil _).symm, rfl⟩ }

/-- Reading goes on behind one more message. -/
theorem Stored.responded {stored after : DrvState} {messages : List CmdRound}
    (hstored : Stored cfg s round stored) (hresponded : Responded cfg stored messages resp after) :
    Responded cfg s (round :: messages) resp after where
  waitForCmdResp := hresponded.waitForCmdResp
  rxDoneCnt := by
    have hcount : BitVec.ofNat 8 (messages.length + 1 + 1) =
        1 + BitVec.ofNat 8 (messages.length + 1) := by
      rw [Nat.add_comm (messages.length + 1) 1]
      exact BitVec.ofNat_add 1 (messages.length + 1)
    rw [hresponded.rxDoneCnt, hstored.rxDoneCnt, List.length_cons, BitVec.add_assoc, hcount]
  acts := by
    rw [hresponded.acts, hstored.acts, hstored.pCmdCtrl]
  spawnMsgList := by
    have hboth := hstored.spawnMsgList.trans hresponded.spawnMsgList
    rw [hstored.pCmdCtrl] at hboth
    rw [List.filterMap_cons]
    cases hevt : evtOf cfg s.cb.pCmdCtrl.opcode round.message with
    | none => simpa [hevt] using hboth
    | some evt => simpa [hevt] using hboth

/-- The loop of `_SlDrvMsgReadCmdCtx`, by induction on what arrives. -/
theorem completes_readUntilCmdResp (cmdOpcode : BitVec 16) {rxDoneCnt : Byte}
    {rounds arriving messages : List CmdRound} (harrives : Arrives rxDoneCnt rounds arriving)
    (hdone : s.cb.rxDoneCnt = rxDoneCnt) (hwait : s.cb.waitForCmdResp = true)
    (hsplit : arriving = messages ++ [resp])
    (hmessages : ∀ round ∈ messages, Unsolicited cfg s.cb.pCmdCtrl.opcode round)
    (hresp : IsResponse cfg s.cb.pCmdCtrl s.cb.pCmdExt resp.message hdrBytes) :
    Completes (readUntilCmdResp cfg cmdOpcode lockRequired rounds) s fun _ after =>
      Responded cfg s messages resp after := by
  induction harrives generalizing s messages with
  | nil rxDoneCnt => simp at hsplit
  | waits idle signalled rest ih =>
      rw [Completes, readUntilCmdResp, ends_bind, ends_get, if_pos hwait, hdone,
        if_neg (not_not.mpr idle), ends_bind, waitForCmdMsg, ends_runIf,
        if_neg (not_not.mpr signalled)]
      exact ih hdone hwait hsplit hmessages hresp
  | reads pending rest ih =>
      rw [Completes, readUntilCmdResp, ends_bind, ends_get, if_pos hwait, hdone, if_pos pending]
      cases messages with
      | nil =>
          obtain ⟨hround, hrest⟩ := List.cons.inj hsplit
          subst hround
          apply (completes_readResponse cfg hresp).bind
          intro _ read hread
          cases rest with
          | nil rxDoneCnt =>
              rw [readUntilCmdResp, ends_bind, ends_get, hread.waitForCmdResp, ends_returnIf]
              exact hread
          | waits idle signalled rest =>
              rw [readUntilCmdResp, ends_bind, ends_get, hread.waitForCmdResp]
              exact hread
          | reads pending rest => cases hrest
      | cons first messages =>
          obtain ⟨hround, hrest⟩ := List.cons.inj hsplit
          subst hround
          apply (completes_readUnsolicited cfg (hmessages _ List.mem_cons_self)).bind
          intro _ read hread
          rw [← hread.pCmdCtrl] at hmessages hresp
          rw [← hread.pCmdExt] at hresp
          have hnext := ih (hread.rxDoneCnt.trans (congrArg (· + 1) hdone))
            (hread.waitForCmdResp.trans hwait) hrest
            (fun round hround => hmessages round (List.mem_cons_of_mem _ hround)) hresp
          apply hnext.mono
          exact fun _ after hafter => hread.responded cfg hafter

end Loop

section Result

variable (cfg : RxConfig) {s : DrvState}

/-- The calls of event handlers so far. -/
def handlerCalls (acts : List DrvAct) : List DrvAct :=
  acts.filter fun act =>
    match act with
    | .eventHandler _ _ => true
    | _ => false

theorem handlerCalls_watched (acts : List DrvAct) :
    handlerCalls (acts.filter watched) = handlerCalls acts := by
  rw [handlerCalls, handlerCalls, List.filter_filter]
  congr 1
  funext act
  cases act with
  | eventHandler handler message => rfl
  | _ => rfl

/-- What `_SlDrvMsgReadCmdCtx` does behind its loop. -/
theorem completes_afterLoop (lockRequired : Bool) (rxIrqCntAfter : Byte) :
    Completes (do
      let numOfItems ← slSpawnMsgListGetCount
      runIf (0 < numOfItems) (emit (.spawnFromCmd true))
      unlockIfRequired lockRequired
      let s ← get
      runIf (rxIrqCntAfter ≠ s.cb.rxDoneCnt) (emit (.spawnFromCmd false))) s fun _ after =>
        stage after = stage s := by
  have hcount : Completes slSpawnMsgListGetCount s fun _ after => stage after = stage s := by
    rw [Completes, slSpawnMsgListGetCount, protectionObjLockForever, protectionObjUnlock]
    rw [ends_bind, ends_get, ends_bind, ends_emit, ends_bind, ends_emit]
    exact (stage_after rfl).trans (stage_after rfl)
  have hspawn : ∀ (cond : Prop) [Decidable cond] (fromCmdProcess : Bool) (before : DrvState),
      Completes (runIf cond (emit (.spawnFromCmd fromCmdProcess))) before fun _ after =>
        stage after = stage before := by
    intro cond _ fromCmdProcess before
    rw [Completes, ends_runIf]
    split
    · exact stage_after rfl
    · rfl
  have hunlock : ∀ before, Completes (unlockIfRequired lockRequired) before fun _ after =>
      stage after = stage before := by
    intro before
    rw [Completes, unlockIfRequired, ends_runIf]
    split
    · apply ((completes_slDrvGlobalObjUnLock true before).and
        (leaves_slDrvGlobalObjUnLock true).ensures).mono
      · exact fun _ _ hafter => hafter.2
      · exact fun _ _ hafter => hafter.1
    · rfl
  apply hcount.bind
  intro numOfItems counted hcounted
  apply (hspawn _ _ counted).bind
  intro _ spawned hspawned
  apply (hunlock spawned).bind
  intro _ unlocked hunlocked
  rw [ends_bind, ends_get]
  apply (hspawn _ _ unlocked).mono
  intro _ after hafter
  calc stage after = stage unlocked := hafter
    _ = stage spawned := hunlocked
    _ = stage counted := hspawned
    _ = stage s := hcounted

/-- Whatever comes before the response, the command gets its response, and the events stand
in the spawn list in the order of their arrival, none of them handled. -/
theorem cmdCtx_reads_sequence {cmdOpcode : BitVec 16} {lockRequired : Bool} {env : CmdEnv}
    {messages : List CmdRound} {resp : CmdRound} {hdrBytes : List Byte}
    (hwait : s.cb.waitForCmdResp = true)
    (harrives : Arrives s.cb.rxDoneCnt env.rounds (messages ++ [resp]))
    (hmessages : ∀ round ∈ messages, Unsolicited cfg s.cb.pCmdCtrl.opcode round)
    (hresp : IsResponse cfg s.cb.pCmdCtrl s.cb.pCmdExt resp.message hdrBytes) :
    ∃ final, (slDrvMsgReadCmdCtx cfg cmdOpcode lockRequired env).run s = .ok () final ∧
      (∀ index < alignSize s.cb.pCmdCtrl.rxDescLen.toNat,
        bufferAt .txRxDescBuff final.acts index = resp.message.rx[index]?) ∧
      final.cb.waitForCmdResp = false ∧
      final.cb.rxDoneCnt = s.cb.rxDoneCnt + BitVec.ofNat 8 (messages.length + 1) ∧
      (∃ items, final.cb.spawnMsgList = s.cb.spawnMsgList ++ items ∧
        items.map (fun item => (item.asyncHndlr, item.buffer)) =
          messages.filterMap fun round => evtOf cfg s.cb.pCmdCtrl.opcode round.message) ∧
      handlerCalls final.acts = handlerCalls s.acts := by
  have hcall : Completes (slDrvMsgReadCmdCtx cfg cmdOpcode lockRequired env) s fun _ after =>
      Responded cfg s messages resp after := by
    apply (completes_readUntilCmdResp cfg cmdOpcode harrives rfl hwait rfl hmessages hresp).bind
    intro _ read hread
    apply (completes_afterLoop lockRequired env.rxIrqCntAfter).mono
    intro _ after hafter
    have hcb : after.cb = read.cb := congrArg Prod.snd hafter
    exact
      { waitForCmdResp := hcb ▸ hread.waitForCmdResp
        rxDoneCnt := hcb ▸ hread.rxDoneCnt
        acts := (congrArg Prod.fst hafter).trans hread.acts
        spawnMsgList := hcb ▸ hread.spawnMsgList }
  rw [Completes, Ends] at hcall
  split at hcall
  · rename_i _ final hrun
    refine ⟨final, hrun, ?_, hcall.waitForCmdResp, hcall.rxDoneCnt, hcall.spawnMsgList, ?_⟩
    · intro index hindex
      have hlong : alignSize s.cb.pCmdCtrl.rxDescLen.toNat ≤ resp.message.rx.length :=
        (Nat.le_add_right _ _).trans hresp.payload
      rw [← bufferAt_filter watched (by
        intro act hact
        cases act with
        | memWrite target offset bytes => exact hact
        | _ => cases hact), hcall.acts]
      refine bufferAt_concat.trans ?_
      rw [writeByte, descBytes, List.length_take_of_le hlong,
        if_pos ⟨rfl, Nat.zero_le _, by omega⟩, Nat.sub_zero, List.getElem?_take_of_lt hindex]
    · rw [← handlerCalls_watched final.acts, hcall.acts, handlerCalls, List.filter_append]
      exact (List.append_nil _).trans (handlerCalls_watched s.acts)
  · exact hcall.elim

end Result

section Arriving

/-- A message with this opcode and these bytes behind its header, where a receive on socket
two is waiting. -/
def arriving (rxIrqCnt : Byte) (opcode : BitVec 16) (len : Byte) (rx : List Byte) :
    CmdRound where
  rxIrqCnt := rxIrqCnt
  message :=
    { hdr := .header [opcode.setWidth 8, (opcode >>> 8).setWidth 8, len, 0, 10, 0, 0, 6, 0, 0,
        0, 0, 0, 0, 0, 0]
      rx := rx
      txSyncObjCount := 0
      asyncBufAllocated := true
      pool :=
        { Pool.slDrvDriverCBInit Pool.smallConfig with
          activePoolIdx := 0
          objPool := fun _ =>
            { actionID := 26
              additionalData := 2
              nextIndex := 4
              pRespArgs := none
              syncObj := false
              syncObjDeletes := 0 } }
      pArgsSet := true
      pDataSet := true
      multiSelectCB := (messageCBInit 1).multiSelectCB }
  spawnInsert := { itemAllocated := true, bufferAllocated := true, pendingRespArgs := false }
  waitStatus := 0
  deviceStarted := true

/-- An event, a wait, a receive response, a dummy, and the response. -/
def arrivingEnv : CmdEnv where
  provisioningInProgress := false
  globalLock := freeGlobalLock
  restartRequired := false
  rounds :=
    [ arriving 1 0x0C9A 16 [1, 2, 3, 4],
      arriving 1 0 12 [],
      arriving 2 0x100A 16 [0, 0, 2, 0],
      arriving 3 0x0063 12 [],
      arriving 4 0x4400 16 [7, 0, 0, 0] ]
  rxIrqCntAfter := 4

/-- A command with a descriptor of four bytes that waits for its response. -/
def waitingState : DrvState :=
  .start [] 10
    { messageCBInit 1 with
      pCmdCtrl := { opcode := 0x8400, txDescLen := 0, rxDescLen := 4 }
      waitForCmdResp := true }

theorem reads_sequence_of_four :
    ∃ final, (slDrvMsgReadCmdCtx smallRxConfig 0x8400 true arrivingEnv).run waitingState =
        .ok () final ∧
      bufferAt .txRxDescBuff final.acts 0 = some 7 ∧ final.cb.rxDoneCnt = 4 ∧
      final.cb.spawnMsgList.length = 1 := by
  have harrives : Arrives 0 arrivingEnv.rounds
      ([ arriving 1 0x0C9A 16 [1, 2, 3, 4],
         arriving 2 0x100A 16 [0, 0, 2, 0],
         arriving 3 0x0063 12 [] ] ++
        [arriving 4 0x4400 16 [7, 0, 0, 0]]) := by
    apply Arrives.reads (by decide)
    refine Arrives.waits (by decide) rfl ?_
    apply Arrives.reads (by decide)
    apply Arrives.reads (by decide)
    apply Arrives.reads (by decide)
    exact Arrives.nil _
  have hmessages : ∀ round ∈
      [ arriving 1 0x0C9A 16 [1, 2, 3, 4],
        arriving 2 0x100A 16 [0, 0, 2, 0],
        arriving 3 0x0063 12 [] ],
      Unsolicited smallRxConfig waitingState.cb.pCmdCtrl.opcode round := by
    intro round hround
    simp only [List.mem_cons, List.not_mem_nil, or_false] at hround
    rcases hround with hround | hround | hround
    · subst hround
      exact .asyncEvt _ [0] rfl rfl (by decide) (by decide) rfl rfl rfl ⟨rfl, by decide, rfl⟩
    · subst hround
      exact .recvResp _ _ 0 rfl (by decide) rfl (by decide) (by decide)
    · subst hround
      exact .dummyMsg _ rfl (by decide)
  obtain ⟨final, hrun, hdesc, -, hcount, hitems, -⟩ :=
    @cmdCtx_reads_sequence smallRxConfig waitingState 0x8400 true _ _ _ _ rfl harrives hmessages
      ⟨rfl, by decide, by decide⟩
  obtain ⟨items, hlist, hevents⟩ := hitems
  refine ⟨final, hrun, hdesc 0 (by decide), hcount, ?_⟩
  have hlength := congrArg List.length hevents
  rw [List.length_map] at hlength
  rw [hlist, List.length_append, hlength]
  rfl

end Arriving

end SimpleLinkHost.CmdSequence
