import SimpleLinkHost.Core.LastWrite
import SimpleLinkHost.Netdev.LinkReport

/-!
# Two readers of the link

`netdev_wlan_cc3220sf_get_status` takes an address for a working network, and
`netdev_wlan_cc3220sf_is_linkup` asks for the association too.  The events that the driver
receives decide whether the two agree.
-/

namespace SimpleLinkHost.LinkStatus

open CallOutcome ProgramInvariant Cc3220sf LinkReport LastWrite

variable {rebootOnFatalError : Bool} {start d after : Desc}

section Readers

/-- The `NETWORK_STATUS_*` codes of the driver. -/
inductive NetworkStatus
  | offline
  | waitAp
  | connected
  | ready
  | provisioningStart
  | provisioningConnect
  | provisioningIpAcquired
  | provisioningSuccess
  | fwDownloadStart
  | fwDownloadComplete
  | fwDownloadError
deriving DecidableEq

/-- `netdev_wlan_cc3220sf_is_linkup` -/
def isLinkup (d : Desc) : ℕ :=
  if .connected ∈ d.wlanStatus ∧ .ipAcquired ∈ d.wlanStatus then 1 else 0

/-- The status of the link, where nothing of higher priority goes on. -/
def linkStatus (status : Finset StatusBit) : NetworkStatus :=
  if .ipAcquired ∈ status then .ready
  else if .connected ∈ status then .connected
  else if .running ∈ status then .waitAp
  else .offline

def provisioningStatus (status : Finset StatusBit) : NetworkStatus :=
  if .provSuccess ∈ status then .provisioningSuccess
  else if .provIpAcquired ∈ status then .provisioningIpAcquired
  else if .provConnect ∈ status then .provisioningConnect
  else .provisioningStart

/-- `netdev_wlan_cc3220sf_get_status` -/
def getStatus (d : Desc) : NetworkStatus :=
  if .fwDlError ∈ d.wlanStatus then .fwDownloadError
  else if .fwDlDone ∈ d.wlanStatus then .fwDownloadComplete
  else if .fwDlStart ∈ d.wlanStatus then .fwDownloadStart
  else if .provMode ∈ d.wlanStatus then provisioningStatus d.wlanStatus
  else linkStatus d.wlanStatus

/-- `network_is_online` for the device behind an interface, if there is one. -/
def networkIsOnline (device : Option Desc) : ℕ :=
  if device.map getStatus = some .ready then 1 else 0

end Readers

section Receives

/-- A callback sends an event, or the driver receives one. -/
inductive LinkAct
  | send (event : Cc3220sfEvent)
  | receive

def linkStep (rebootOnFatalError : Bool) (d : Desc) : LinkAct → Option Desc
  | .send event => some (sendEvent event d)
  | .receive =>
      match (recvEvent rebootOnFatalError).run d with
      | .ok _ after => some after
      | .error _ _ => none

/-- The events among what the thread has done. -/
def consumed (outputs : List Output) : List Cc3220sfEvent :=
  outputs.filterMap fun
    | .consumed event => some event
    | _ => none

/-- The events received since `start`. -/
def consumedSince (start d : Desc) : List Cc3220sfEvent :=
  consumed (d.outputs.drop start.outputs.length)

end Receives

section Property

/-- Neither provisioning nor a firmware download goes on. -/
def OnlyLink (d : Desc) : Prop :=
  .provMode ∉ d.wlanStatus ∧ .fwDlStart ∉ d.wlanStatus ∧ .fwDlDone ∉ d.wlanStatus ∧
    .fwDlError ∉ d.wlanStatus

/-- READY, and online, is what the device is exactly while its link is up. -/
def Agrees (d : Desc) : Prop :=
  (getStatus d = .ready ↔ isLinkup d = 1) ∧ (networkIsOnline (some d) = 1 ↔ isLinkup d = 1)

/-- The device is associated behind the events. -/
def connectedBehind (events : List Cc3220sfEvent) (initially : Bool) : Bool :=
  flagBehind (fun event => event ∈ [.connected, .disconnect, .error, .fatalError])
    (fun event => event = .connected) events initially

/-- The device has an address behind the events. -/
def acquiredBehind (events : List Cc3220sfEvent) (initially : Bool) : Bool :=
  flagBehind (fun event => event ∈ [.ipAcquired, .error, .fatalError])
    (fun event => event = .ipAcquired) events initially

/-- Where the events leave the device with an address, they leave it associated. -/
def LossesReset (start : Desc) (events : List Cc3220sfEvent) : Prop :=
  acquiredBehind events (.ipAcquired ∈ start.wlanStatus) = true →
    connectedBehind events (.connected ∈ start.wlanStatus) = true

end Property

theorem agrees_iff (honly : OnlyLink d) :
    Agrees d ↔ (.ipAcquired ∈ d.wlanStatus → .connected ∈ d.wlanStatus) := by
  have hstatus : getStatus d = .ready ↔ .ipAcquired ∈ d.wlanStatus := by
    rw [getStatus, if_neg honly.2.2.2, if_neg honly.2.2.1, if_neg honly.2.1, if_neg honly.1,
      linkStatus]
    split
    · exact iff_of_true rfl (by assumption)
    · refine iff_of_false ?_ (by assumption)
      split
      · decide
      · split
        · decide
        · decide
  have honline : networkIsOnline (some d) = 1 ↔ getStatus d = .ready := by
    simp [networkIsOnline]
  have hlink : isLinkup d = 1 ↔ .connected ∈ d.wlanStatus ∧ .ipAcquired ∈ d.wlanStatus := by
    simp [isLinkup]
  rw [Agrees, honline, hstatus, hlink, and_self]
  constructor
  · exact fun hagrees hacquired => (hagrees.mp hacquired).1
  · exact fun himplies => ⟨fun hacquired => ⟨himplies hacquired, hacquired⟩, And.right⟩

section Runs

variable {acts : List LinkAct}

theorem consumed_append (earlier later : List Output) :
    consumed (earlier ++ later) = consumed earlier ++ consumed later :=
  List.filterMap_append

theorem consumed_map (events : List Cc3220sfEvent) : consumed (events.map .consumed) = events := by
  rw [consumed, List.filterMap_map]
  exact List.filterMap_some

variable {event : Cc3220sfEvent} {events : List Cc3220sfEvent} {status : Finset StatusBit}

theorem connected_concat {initially : Bool}
    (hstatus : .connected ∈ status ↔ connectedBehind events initially = true) :
    .connected ∈ statusAfter event status ↔
      connectedBehind (events ++ [event]) initially = true := by
  apply flagBehind_concat (StatusBit.connected ∈ ·) _ _ hstatus
  · cases event <;> simp [statusAfter]
  · cases event <;> simp [statusAfter]

theorem acquired_concat {initially : Bool}
    (hstatus : .ipAcquired ∈ status ↔ acquiredBehind events initially = true) :
    .ipAcquired ∈ statusAfter event status ↔
      acquiredBehind (events ++ [event]) initially = true := by
  apply flagBehind_concat (StatusBit.ipAcquired ∈ ·) _ _ hstatus
  · cases event <;> simp [statusAfter]
  · cases event <;> simp [statusAfter]

/-- The two bits of the link are what the events since `start` have made them. -/
def Follows (start d : Desc) : Prop :=
  ∃ record, d.outputs = start.outputs ++ record ∧
    (.connected ∈ d.wlanStatus ↔
      connectedBehind (consumed record) (.connected ∈ start.wlanStatus) = true) ∧
    (.ipAcquired ∈ d.wlanStatus ↔
      acquiredBehind (consumed record) (.ipAcquired ∈ start.wlanStatus) = true)

theorem follows_start : Follows start start := by
  refine ⟨[], (List.append_nil _).symm, ?_, ?_⟩
  · simp [connectedBehind, flagBehind, lastWrite, consumed]
  · simp [acquiredBehind, flagBehind, lastWrite, consumed]

theorem follows_step {act : LinkAct} (hfollows : Follows start d)
    (hstep : linkStep rebootOnFatalError d act = some after) : Follows start after := by
  obtain ⟨record, houtputs, hconnected, hacquired⟩ := hfollows
  cases act with
  | send event =>
      rw [linkStep, Option.some.injEq, sendEvent] at hstep
      subst hstep
      split
      · exact ⟨record, houtputs, hconnected, hacquired⟩
      · exact ⟨record, houtputs, hconnected, hacquired⟩
  | receive =>
      rw [linkStep] at hstep
      split at hstep
      · rename_i event next hrun
        rw [Option.some.injEq] at hstep
        obtain ⟨hevent, hstatus, hrecord⟩ := ensures_recvEvent.of_run hrun
        rw [hstep] at hstatus hrecord
        refine ⟨record ++ (d.eventQ.take 1).map .consumed, ?_, ?_⟩
        · rw [hrecord, houtputs, List.append_assoc]
        · rw [consumed_append, consumed_map, hstatus, received]
          cases d.eventQ with
          | nil =>
              simp only [List.take_nil, List.append_nil]
              exact ⟨hconnected, hacquired⟩
          | cons event rest => exact ⟨connected_concat hconnected, acquired_concat hacquired⟩
      · cases hstep

theorem follows_run (hrun : Transition.run (linkStep rebootOnFatalError) start acts = some d) :
    Follows start d :=
  Transition.run_invariant (fun _ _ _ => follows_step) follows_start hrun

/-- Where only the link decides, the readers agree exactly behind the events that leave no
address without the association. -/
theorem agrees_iff_lossesReset
    (hrun : Transition.run (linkStep rebootOnFatalError) start acts = some d)
    (honly : OnlyLink d) : Agrees d ↔ LossesReset start (consumedSince start d) := by
  obtain ⟨record, houtputs, hconnected, hacquired⟩ := follows_run hrun
  rw [agrees_iff honly, hconnected, hacquired, LossesReset, consumedSince, houtputs,
    List.drop_left]

/-- The device is associated and gets its address. -/
def linked : List LinkAct :=
  [.send .running, .receive, .send .connected, .receive, .send .ipAcquired, .receive]

theorem agrees_linked :
    ∃ d, Transition.run (linkStep false) (started 0 0 0 false) linked = some d ∧
      getStatus d = .ready ∧ Agrees d := by
  have hchecks : (Transition.run (linkStep false) (started 0 0 0 false) linked).any fun d =>
      getStatus d = .ready ∧ .provMode ∉ d.wlanStatus ∧ .fwDlStart ∉ d.wlanStatus ∧
        .fwDlDone ∉ d.wlanStatus ∧ .fwDlError ∉ d.wlanStatus ∧
          consumedSince (started 0 0 0 false) d = [.running, .connected, .ipAcquired] := by
    decide +kernel
  rw [Option.any_eq_true] at hchecks
  obtain ⟨d, hrun, hchecked⟩ := hchecks
  obtain ⟨hready, hprov, hstart, hdone, herror, hevents⟩ := of_decide_eq_true hchecked
  refine ⟨d, hrun, hready, (agrees_iff_lossesReset hrun ⟨hprov, hstart, hdone, herror⟩).mpr ?_⟩
  rw [LossesReset, hevents]
  decide

/-- The association is lost behind the address. -/
theorem not_agrees_unlinked :
    ∃ d, Transition.run (linkStep false) (started 0 0 0 false)
        (linked ++ [.send .disconnect, .receive]) = some d ∧ OnlyLink d ∧ ¬Agrees d := by
  have hchecks : (Transition.run (linkStep false) (started 0 0 0 false)
      (linked ++ [.send .disconnect, .receive])).any fun d =>
        getStatus d = .ready ∧ isLinkup d = 0 ∧ .provMode ∉ d.wlanStatus ∧
          .fwDlStart ∉ d.wlanStatus ∧ .fwDlDone ∉ d.wlanStatus ∧ .fwDlError ∉ d.wlanStatus := by
    decide +kernel
  rw [Option.any_eq_true] at hchecks
  obtain ⟨d, hrun, hchecked⟩ := hchecks
  obtain ⟨hready, hdown, honly⟩ := of_decide_eq_true hchecked
  refine ⟨d, hrun, honly, fun hagrees => ?_⟩
  have hup := hagrees.1.mp hready
  rw [hdown] at hup
  cases hup

end Runs

end SimpleLinkHost.LinkStatus
