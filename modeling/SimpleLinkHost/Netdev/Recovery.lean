import Mathlib.Algebra.GroupWithZero.Nat
import Mathlib.Data.Prod.Lex
import SimpleLinkHost.Core.Progress
import SimpleLinkHost.Netdev.InitStatus
import SimpleLinkHost.Netdev.NetDiagram

/-!
# The way back to a connection

Whatever has happened to it, the driver's thread can come to IDLE again, with the connection
reported to the listener: time-outs and errors lead through STOP to a new start, and the
NWP can send what a start needs.  The two states that are never left are the exception.
-/

namespace SimpleLinkHost.Recovery

open CallOutcome ProgramInvariant Progress Simulation
open Cc3220sf FatalReset Notifications InitStatus NetDiagram
open Transition (run)

variable {d after : Desc} {state : Cc3220sfState} {bound : ℕ}

section Frames

/-- What neither a handler nor the end of STOP can touch. -/
def holdings (d : Desc) :
    List Cc3220sfEvent × Finset StatusBit × Bool × List (List Cc3220sfEvent) × BitVec 32 :=
  (d.eventQ, d.wlanStatus, d.doProvisioning, d.arriving, d.sleepTime)

/-- An invariant of the receives, and of what the handlers do to the holdings. -/
structure Steady (inv : Desc → Prop) : Prop where
  receive : ∀ d, inv d → Completes (recvEvent false) d fun _ after => inv after
  othersSend : ∀ d, inv d → Completes letOthersSend d fun _ after => inv after
  narrow : ∀ d, inv d → inv { d with wlanStatus := d.wlanStatus ∩ {.fwInstall} }
  provMode : ∀ d, inv d → inv { d with wlanStatus := insert .provMode d.wlanStatus }
  sleepTime : ∀ d time, time.toNat ≤ 5000 → inv d → inv { d with sleepTime := time }
  of_holdings : ∀ d after, holdings after = holdings d → inv d → inv after

variable {inv : Desc → Prop}

theorem Steady.awaitStopped (hsteady : Steady inv) (tries : ℕ) (hinv : inv d) :
    Completes (awaitStopped false tries) d fun _ after => inv after := by
  induction tries generalizing d with
  | zero => exact hinv
  | succ tries ih =>
      rw [Completes, Cc3220sf.awaitStopped, ends_bind, ends_get, ends_ite]
      split
      · apply (hsteady.othersSend d hinv).bind
        intro _ slept hslept
        apply (hsteady.receive slept hslept).bind
        exact fun _ received hreceived => ih hreceived
      · exact hinv

theorem Steady.notifyDownThenStop (hsteady : Steady inv) (hinv : inv d) :
    Completes notifyDownThenStop d fun _ after => inv after :=
  hsteady.of_holdings d _ rfl hinv

/-- A handler that receives keeps what holds behind its first receive. -/
theorem Steady.receiving (hsteady : Steady inv) (hreceives : receives state = true)
    (hfirst : Completes (recvEvent false) d fun _ after => inv after) :
    Completes (smHandler false state) d fun _ after => inv after := by
  have hsame {before after : Desc} (hinv : inv before)
      (hholdings : holdings after = holdings before) : inv after :=
    hsteady.of_holdings before after hholdings hinv
  cases state with
  | start =>
      apply hfirst.bind
      intro _ received hinv
      rw [ends_bind, ends_get, ends_ite]
      split
      · exact hsame hinv rfl
      · rw [ends_bind, ends_runIf]
        split <;> exact hsame hinv rfl
  | wait4Start =>
      apply hfirst.bind
      intro _ received hinv
      rw [ends_bind, ends_get, ends_ite, ends_ite]
      split
      · exact hsame hinv rfl
      · split
        · exact hsame (hsteady.sleepTime received 1000 (by decide) hinv) rfl
        · exact hinv
  | stop =>
      apply hfirst.bind
      intro _ received hinv
      rw [emit, ends_bind, ends_modify]
      have hdisable : inv { received with
          outputs := received.outputs ++ [.slWifiConnDisable] } := hsame hinv rfl
      apply (hsteady.awaitStopped 10 hdisable).bind
      exact fun _ stopped hstopped => hsteady.narrow stopped hstopped
  | waitConnectAp | waitIp =>
      apply hfirst.bind
      intro _ received hinv
      rw [ends_bind, ends_get, ends_ite, ends_ite]
      split
      · exact hsame hinv rfl
      · split <;> exact hinv
  | handleEvent =>
      apply hfirst.bind
      intro event received hinv
      cases event with
      | fwInstall => exact hsteady.notifyDownThenStop hinv
      | fatalError => exact hsame hinv rfl
      | _ =>
          rw [rebootOrIdle, ends_bind, ends_get, ends_ite]
          split
          · exact hsteady.notifyDownThenStop hinv
          · exact hinv
  | waitFwInstall =>
      apply hfirst.bind
      intro _ received hinv
      rw [ends_bind, ends_get, ends_bind, ends_runIf]
      split
      · exact hsame hinv rfl
      · exact hinv
  | waitProvision =>
      apply hfirst.bind
      intro _ received hinv
      rw [ends_bind, ends_get, ends_bind, ends_runIf]
      split
      · exact hsame (hsteady.provMode received hinv) rfl
      · exact hinv
  | _ => cases hreceives

/-- The other handlers keep it too, but that INIT may wait for the NWP. -/
theorem Steady.other (hsteady : Steady inv) (hreceives : receives state = false)
    (hstopped : state = .init → .running ∉ d.wlanStatus) (hinv : inv d) :
    Completes (smHandler false state) d fun _ after => inv after := by
  have hsame {before after : Desc} (hinv : inv before)
      (hholdings : holdings after = holdings before) : inv after :=
    hsteady.of_holdings before after hholdings hinv
  cases state with
  | init =>
      rw [Completes, smHandler, smInit, ends_bind, ends_get, ends_bind, ends_runIf,
        if_neg (hstopped rfl)]
      exact hinv
  | startNetwork =>
      rw [Completes, smHandler, smStartNetwork, ends_bind, ends_get, ends_ite]
      split
      · exact hsame hinv rfl
      · exact hinv
  | notifyUp =>
      rw [Completes, smHandler, smNotifyup, ends_bind, ends_modify, ends_bind, ends_get, ends_bind,
        ends_runIf]
      split <;> exact hsame hinv rfl
  | notifyDown => exact hsame (hsteady.sleepTime d 2000 (by decide) hinv) rfl
  | idle =>
      rw [Completes, smHandler, smIdle, ends_bind, ends_get, ends_ite, ends_ite]
      split
      · exact hinv
      · split
        · exact hinv
        · rw [ends_bind, ends_runIf]
          split
          · exact hsame hinv rfl
          · exact hinv
  | error => exact hsame (hsteady.sleepTime d 2000 (by decide) hinv) rfl
  | checkProfiles | startHttp | checkConnection | httpMessage => exact hsame hinv rfl
  | sleep | ready | getStatistics | startProv => exact hinv
  | _ => cases hreceives

end Frames

section Calls

variable {delay : BitVec 32} {arriving : List (List Cc3220sfEvent)}

/-- A call of `netdev_wlan_cc3220sf_exec` whose handler falls through. -/
theorem exec_step {falls : Cc3220sfState → Desc → Prop}
    (hhandler : Completes (smHandler false d.state)
      { d with arriving := arriving, timer := d.timer + delay } falls) :
    ∃ next handled connectedTime, falls next handled ∧
      step false d (.exec delay arriving) = some
        { handled with state := next, connectedTime := connectedTime, arriving := [] } := by
  have hexec : Completes (exec false delay) { d with arriving := arriving } fun _ final =>
      ∃ next handled connectedTime, falls next handled ∧
        final = { handled with state := next, connectedTime := connectedTime } := by
    rw [Completes, exec, ends_bind, ends_modify, ends_bind, ends_get]
    apply hhandler.bind
    intro next handled hfalls
    rw [ends_bind, ends_modify, ends_modify]
    split
    · exact ⟨next, handled, _, hfalls, rfl⟩
    · exact ⟨next, handled, handled.connectedTime, hfalls, rfl⟩
  rw [Completes, Ends] at hexec
  rw [step]
  split at hexec
  · case h_1 final hrun =>
      obtain ⟨next, handled, connectedTime, hfalls, rfl⟩ := hexec
      exact ⟨next, handled, connectedTime, hfalls, by rw [hrun]⟩
  · exact hexec.elim

/-- The device never has to sleep long. -/
def SleepsShort (d : Desc) : Prop := d.sleepTime.toNat ≤ 5000

theorem steady_sleepsShort : Steady SleepsShort where
  receive d hshort := by
    rw [Completes, recvEvent, ends_bind, ends_get]
    split
    · exact hshort
    · rename_i event rest _
      simp only [emit, ends_bind, ends_modify, ends_get, ends_runIf, Bool.false_eq_true, false_and,
        and_false, if_false]
      cases event <;> exact hshort
  othersSend d hshort := by
    have hsends : Leaves Desc.sleepTime letOthersSend := leaves_letOthersSend fun _ _ _ => rfl
    exact (congrArg BitVec.toNat (hsends.of_run rfl)).trans_le hshort
  narrow _ hshort := hshort
  provMode _ hshort := hshort
  sleepTime _ _ htime _ := htime
  of_holdings _ _ hsame hshort := by
    simp only [holdings, Prod.mk.injEq] at hsame
    rw [SleepsShort, hsame.2.2.2.2]
    exact hshort

theorem sleepsShort_step {act : NetAct} (hstopped : Stopped d) (hshort : SleepsShort d)
    (hstep : step false d act = some after) : SleepsShort after := by
  cases hact : isExec act with
  | false =>
      obtain ⟨event, -, rfl⟩ | ⟨-, -, rfl⟩ | ⟨-, rfl⟩ := other_of_step hact hstep
      · rw [sendEvent]
        split <;> exact hshort
      · exact hshort
      · exact hshort
  | true =>
      obtain ⟨delay, arriving, rfl⟩ := exec_of_isExec hact
      have hcalled : SleepsShort { d with arriving := arriving, timer := d.timer + delay } := hshort
      have hhandler : Completes (smHandler false d.state)
          { d with arriving := arriving, timer := d.timer + delay }
          fun _ after => SleepsShort after := by
        cases hreceives : receives d.state with
        | true =>
            have hfirst := steady_sleepsShort.receive _ hcalled
            exact steady_sleepsShort.receiving hreceives hfirst
        | false => exact steady_sleepsShort.other hreceives hstopped.inInit hcalled
      obtain ⟨next, handled, connectedTime, hhandled, hfinal⟩ := exec_step hhandler
      rw [hstep, Option.some.injEq] at hfinal
      rw [hfinal]
      exact hhandled

end Calls

section Fit

/-- No installation is asked for, no provisioning is wanted and nothing more is on its way to a
queue that is no longer than the bound. -/
structure Fit (bound : ℕ) (d : Desc) : Prop where
  wlanStatus : .fwInstall ∉ d.wlanStatus
  eventQ : .fwInstall ∉ d.eventQ
  doProvisioning : d.doProvisioning = false
  arriving : d.arriving = []
  sleepsShort : SleepsShort d
  length_le : d.eventQ.length ≤ bound

theorem fwInstall_not_mem_statusAfter {event : Cc3220sfEvent} {status : Finset StatusBit}
    (hstatus : .fwInstall ∉ status) (hevent : event ≠ .fwInstall) :
    .fwInstall ∉ statusAfter event status := by
  cases event <;> simp_all [statusAfter]

/-- A receive makes room in the queue. -/
theorem Fit.receive (hfit : Fit bound d) :
    Completes (recvEvent false) d fun _ after => Fit (bound - 1) after := by
  rw [Completes, recvEvent, ends_bind, ends_get]
  have hlength := hfit.length_le
  split
  · rename_i hqueue
    refine { hfit with length_le := ?_ }
    rw [hqueue]
    exact Nat.zero_le _
  · rename_i event rest hqueue
    simp only [emit, ends_bind, ends_modify, ends_get, ends_runIf, Bool.false_eq_true, false_and,
      and_false, if_false, ends_pure]
    have hevents := hfit.eventQ
    rw [hqueue, List.mem_cons, not_or] at hevents
    rw [hqueue, List.length_cons] at hlength
    have hstatus : .fwInstall ∉ statusAfter event d.wlanStatus :=
      fwInstall_not_mem_statusAfter hfit.wlanStatus (Ne.symm hevents.1)
    have hrest : rest.length ≤ bound - 1 := by omega
    cases event <;>
      exact ⟨hstatus, hevents.2, hfit.doProvisioning, hfit.arriving, hfit.sleepsShort, hrest⟩

theorem steady_fit : Steady (Fit bound) where
  receive d hfit := by
    apply hfit.receive.mono
    exact fun _ after hafter => { hafter with length_le := hafter.length_le.trans (Nat.sub_le _ _) }
  othersSend d hfit := by
    rw [Completes, letOthersSend, ends_modify, hfit.arriving]
    exact hfit
  narrow d hfit :=
    { hfit with
      wlanStatus := fun hmem => hfit.wlanStatus (Finset.mem_of_mem_inter_left hmem) }
  provMode d hfit := { hfit with wlanStatus := by simpa using hfit.wlanStatus }
  sleepTime d time htime hfit := { hfit with sleepsShort := htime }
  of_holdings d after hsame hfit := by
    simp only [holdings, Prod.mk.injEq] at hsame
    obtain ⟨hqueue, hstatus, hprovisioning, harriving, hsleepTime⟩ := hsame
    refine ⟨hstatus ▸ hfit.wlanStatus, hqueue ▸ hfit.eventQ, hprovisioning ▸ hfit.doProvisioning,
      harriving ▸ hfit.arriving, ?_, hqueue ▸ hfit.length_le⟩
    rw [SleepsShort, hsleepTime]
    exact hfit.sleepsShort

/-- The room in the queue behind a call. -/
def roomBehind (state : Cc3220sfState) (bound : ℕ) : ℕ :=
  if receives state then bound - 1 else bound

theorem fit_smHandler (hstopped : state = .init → .running ∉ d.wlanStatus) (hfit : Fit bound d) :
    Completes (smHandler false state) d fun _ after => Fit (roomBehind state bound) after := by
  cases hreceives : receives state with
  | true =>
      rw [roomBehind, if_pos hreceives]
      exact steady_fit.receiving hreceives hfit.receive
  | false =>
      rw [roomBehind, if_neg (by simp [hreceives])]
      exact steady_fit.other hreceives hstopped hfit

end Fit

section Free

/-- The states that are never left. -/
def isSink : Cc3220sfState → Bool
  | .waitFwInstall | .waitProvision => true
  | _ => false

/-- Of the states that lead to one that is never left, START takes the other way. -/
theorem completes_start (hfit : Fit bound d) :
    Completes (smHandler false .start) d fun next _ => next = .wait4Start := by
  apply hfit.receive.bind
  intro _ received hreceived
  rw [ends_bind, ends_get, ends_ite, if_neg hreceived.wlanStatus, ends_bind, ends_runIf]
  split <;> rfl

theorem completes_startNetwork (hfit : Fit bound d) :
    Completes (smHandler false .startNetwork) d fun next _ => next = .waitConnectAp := by
  rw [Completes, smHandler, smStartNetwork, ends_bind, ends_get, ends_ite, hfit.doProvisioning]
  rfl

/-- A handler leads along the diagram, to a state that is left again. -/
theorem free_smHandler (hinOrder : InOrder d) (hfree : isSink d.state = false)
    (hfit : Fit bound d) :
    Ensures (smHandler false d.state) d
      fun next _ => next ∈ nextStates d.state ∧ isSink next = false := by
  have hmoves : Ensures (smHandler false d.state) d fun next _ => next ∈ nextStates d.state := by
    apply (moves_smHandler d.state).mono
    intro next after hmoved
    have hedge : Edge d.state .request next :=
      edge_of_successor hinOrder.nstate_mem hinOrder.used _ hmoved.2
    exact hedge
  have hused := hinOrder.used
  cases hstate : d.state with
  | start =>
      rw [hstate] at hmoves
      apply (hmoves.and (completes_start hfit).ends).mono
      rintro next after ⟨hnext, rfl⟩
      exact ⟨hnext, rfl⟩
  | startNetwork =>
      rw [hstate] at hmoves
      apply (hmoves.and (completes_startNetwork hfit).ends).mono
      rintro next after ⟨hnext, rfl⟩
      exact ⟨hnext, rfl⟩
  | waitFwInstall | waitProvision =>
      rw [hstate] at hfree
      cases hfree
  | ready | getStatistics | startProv | checkConnection =>
      rw [hstate] at hused
      cases hused
  | _ =>
      rw [hstate] at hmoves
      apply hmoves.mono
      intro next after hnext
      refine ⟨hnext, ?_⟩
      revert next
      decide

end Free

section Calls

/-- The device is on its way, or can be. -/
structure Able (d : Desc) : Prop where
  inOrder : InOrder d
  stopped : Stopped d
  free : isSink d.state = false
  fit : Fit d.eventQ.length { d with arriving := [] }

/-- The device in front of the handler of a call during which nothing is sent. -/
abbrev called (period : BitVec 32) (d : Desc) : Desc :=
  { d with arriving := [], timer := d.timer + period }

theorem Able.fit_called (hable : Able d) (period : BitVec 32) :
    Fit d.eventQ.length (called period d) :=
  steady_fit.of_holdings { d with arriving := [] } _ rfl hable.fit

/-- A call whose handler is known to fall through in some way. -/
theorem Able.call (hable : Able d) (period : BitVec 32) {falls : Cc3220sfState → Desc → Prop}
    (hfalls : Ensures (smHandler false d.state) (called period d) falls) :
    ∃ next handled connectedTime, falls next handled ∧ next ∈ nextStates d.state ∧
      step false d (.exec period []) = some
        { handled with state := next, connectedTime := connectedTime, arriving := [] } ∧
      Able { handled with state := next, connectedTime := connectedTime, arriving := [] } ∧
      handled.eventQ.length ≤ roomBehind d.state d.eventQ.length := by
  have hinOrder : InOrder (called period d) :=
    ⟨hable.inOrder.alternates, hable.inOrder.toldUp_iff, hable.inOrder.nstate_mem,
      hable.inOrder.used⟩
  have hfit : Completes (smHandler false d.state) (called period d)
      fun _ after => Fit (roomBehind d.state d.eventQ.length) after :=
    fit_smHandler hable.stopped.inInit (hable.fit_called period)
  have hfree := free_smHandler hinOrder hable.free (hable.fit_called period)
  have hall := (Ends.and hfit (hfree.and hfalls)).mono
    (fun _ _ hafter => hafter) fun _ _ hreturns => hreturns.1
  obtain ⟨next, handled, connectedTime, ⟨hhandled, ⟨hnext, hnextFree⟩, hfell⟩, hstep⟩ :=
    exec_step hall
  refine ⟨next, handled, connectedTime, hfell, hnext, hstep, ?_, hhandled.length_le⟩
  refine ⟨inOrder_step hable.inOrder hstep, stopped_step hable.inOrder hable.stopped hstep,
    hnextFree, ?_⟩
  exact ⟨hhandled.wlanStatus, hhandled.eventQ, hhandled.doProvisioning, rfl, hhandled.sleepsShort,
    le_rfl⟩

end Calls

section Up

variable {period : BitVec 32}

/-- What the way up takes: calls, and what the NWP sends in a start. -/
def Needed (period : BitVec 32) (act : NetAct) : Prop :=
  act = .exec period [] ∨ act ∈ [.send .running, .send .connected, .send .ipAcquired]

/-- The event a state waits for. -/
def awaited : Cc3220sfState → Option Cc3220sfEvent
  | .wait4Start => some .running
  | .waitConnectAp => some .connected
  | .waitIp => some .ipAcquired
  | _ => none

/-- The order of the states on the way to IDLE. -/
def toGo : Cc3220sfState → ℕ
  | .notifyUp | .httpMessage => 1
  | .startHttp => 2
  | .waitIp => 3
  | .waitConnectAp => 4
  | .startNetwork => 5
  | .checkProfiles => 6
  | .wait4Start => 7
  | .start => 8
  | .init => 9
  | .stop => 10
  | .notifyDown | .sleep => 11
  | .handleEvent | .error => 12
  | _ => 0

/-- A state that neither waits nor sleeps goes on towards IDLE. -/
theorem toGo_lt (hidle : state ≠ .idle) (hsleep : state ≠ .sleep)
    (hawaited : awaited state = none) :
    ∀ next ∈ nextStates state, isSink next = false → toGo next < toGo state := by
  cases state with
  | idle => exact absurd rfl hidle
  | sleep => exact absurd rfl hsleep
  | wait4Start | waitConnectAp | waitIp => cases hawaited
  | _ => decide

/-- A state goes on as soon as it receives the event it waits for. -/
theorem passes {event : Cc3220sfEvent} (hinOrder : InOrder d)
    (hawaited : awaited d.state = some event) (hqueue : d.eventQ = [event]) :
    Ensures (smHandler false d.state) (called period d)
      fun next _ => toGo next < toGo d.state := by
  have hnstate := hinOrder.nstate_mem
  cases hstate : d.state with
  | wait4Start =>
      rw [hstate] at hawaited hnstate
      cases hawaited
      have hreturn := List.mem_singleton.mp (hnstate rfl)
      rw [Ensures, smHandler, smWait4Start, recvEvent, ends_bind, ends_bind, ends_get, hqueue]
      simp [emit, ends_runIf, statusAfter, countEvent, hreturn, toGo]
  | waitConnectAp =>
      rw [hstate] at hawaited
      cases hawaited
      rw [Ensures, smHandler, smWaitConnectAp, recvEvent, ends_bind, ends_bind, ends_get, hqueue]
      simp [emit, ends_runIf, statusAfter, countEvent, toGo]
  | waitIp =>
      rw [hstate] at hawaited
      cases hawaited
      rw [Ensures, smHandler, smWaitIp, recvEvent, ends_bind, ends_bind, ends_get, hqueue]
      simp [emit, ends_runIf, statusAfter, countEvent, toGo]
  | _ =>
      rw [hstate] at hawaited
      cases hawaited

/-- Nothing on the way up asks for an installation. -/
theorem Able.send {event : Cc3220sfEvent} (hable : Able d) (hevent : event ≠ .fwInstall)
    (hqueue : d.eventQ = []) :
    step false d (.send event) = some { d with eventQ := [event] } ∧
      Able { d with eventQ := [event] } := by
  have hsends : step false d (.send event) = some { d with eventQ := [event] } := by
    simp [step, sendEvent, hqueue]
  refine ⟨hsends, inOrder_step hable.inOrder hsends,
    stopped_step hable.inOrder hable.stopped hsends, hable.free, ?_⟩
  exact
    { hable.fit with
      eventQ := fun hmem => hevent (List.mem_singleton.mp hmem).symm
      length_le := le_rfl }

/-- How long the device still has to sleep: its timer may have to wrap first. -/
def toSleep (d : Desc) : ℕ :=
  if d.timer.toNat < 2 ^ 31 then 2 ^ 31 - d.timer.toNat else 2 ^ 31 + 1

theorem toSleep_lt (hperiod : 0 < period.toNat) (hbound : period.toNat ≤ 2 ^ 31)
    (htimer : after.timer = d.timer + period) (hearly : after.timer.toNat < 5000) :
    toSleep after < toSleep d := by
  have htoNat : after.timer.toNat = (d.timer.toNat + period.toNat) % 2 ^ 32 := by
    rw [htimer, BitVec.toNat_add]
  have hd := d.timer.isLt
  rw [toSleep, toSleep, if_pos (by omega)]
  split <;> omega

theorem completes_sleep :
    Completes (smHandler false .sleep) d fun next handled => handled = d ∧
      next = if d.sleepTime.toNat ≤ d.timer.toNat then d.nstate else .sleep :=
  ⟨rfl, rfl⟩

/-- A device that sleeps wakes up for a new start. -/
theorem Able.wakes (hable : Able d) (hperiod : 0 < period.toNat) (hbound : period.toNat ≤ 2 ^ 31)
    (hsleep : d.state = .sleep) :
    CanReach (step false) (Needed period)
      (fun after => Able after ∧ after.eventQ.length ≤ d.eventQ.length ∧
        after.state ∈ [.init, .stop]) d := by
  have hprogress (s : Desc)
      (hs : Able s ∧ s.eventQ.length ≤ d.eventQ.length ∧ s.state = .sleep) :
      CanReach (step false) (Needed period) (fun s' =>
        (Able s' ∧ s'.eventQ.length ≤ d.eventQ.length ∧ s'.state ∈ [.init, .stop]) ∨
        (Able s' ∧ s'.eventQ.length ≤ d.eventQ.length ∧ s'.state = .sleep) ∧
          toSleep s' < toSleep s) s := by
    obtain ⟨hs, hlength, hstate⟩ := hs
    have hnstate := hs.inOrder.nstate_mem
    rw [hstate] at hnstate
    have hcall : Completes (smHandler false s.state) (called period s) fun next handled =>
        handled = called period s ∧
          next = if s.sleepTime.toNat ≤ (s.timer + period).toNat then s.nstate else .sleep := by
      rw [hstate]
      exact completes_sleep
    obtain ⟨next, handled, connectedTime, ⟨rfl, rfl⟩, -, hstep, hafter, -⟩ :=
      hs.call period hcall.ends
    apply CanReach.of_step (.inl rfl) hstep
    apply CanReach.of_goal
    by_cases hawake : s.sleepTime.toNat ≤ (s.timer + period).toNat
    · refine .inl ⟨hafter, hlength, ?_⟩
      rw [if_pos hawake]
      exact hnstate rfl
    · refine .inr ⟨⟨hafter, hlength, if_neg hawake⟩, toSleep_lt hperiod hbound rfl ?_⟩
      have hshort : s.sleepTime.toNat ≤ 5000 := hs.fit.sleepsShort
      exact (not_le.mp hawake).trans_le hshort
  exact canReach_of_rank toSleep hprogress ⟨hable, le_rfl, hsleep⟩

/-- How far the device is from IDLE: what it still has to receive, and then its state. -/
def distance (d : Desc) : ℕ ×ₗ ℕ := toLex (d.eventQ.length, toGo d.state)

theorem distance_lt (hlength : after.eventQ.length ≤ d.eventQ.length)
    (hstate : toGo after.state < toGo d.state) : distance after < distance d := by
  rw [distance, distance, Prod.Lex.toLex_lt_toLex]
  rcases hlength.lt_or_eq with hshorter | hsame
  · exact .inl hshorter
  · exact .inr ⟨hsame, hstate⟩

theorem roomBehind_le (state : Cc3220sfState) (bound : ℕ) : roomBehind state bound ≤ bound := by
  rw [roomBehind]
  split
  · exact Nat.sub_le _ _
  · exact le_rfl

/-- Where the device does not wait, a call brings it closer to IDLE. -/
theorem Able.goesOn (hable : Able d) (hidle : d.state ≠ .idle) (hsleep : d.state ≠ .sleep)
    (hawaited : awaited d.state = none) :
    CanReach (step false) (Needed period) (fun s => Able s ∧ distance s < distance d) d := by
  have hends : Ensures (smHandler false d.state) (called period d) fun _ _ => True := by
    rw [Ensures, Ends]
    split <;> trivial
  obtain ⟨next, handled, connectedTime, -, hnext, hstep, hafter, hroom⟩ := hable.call period hends
  apply CanReach.of_step (.inl rfl) hstep
  refine .of_goal ⟨hafter, distance_lt (hroom.trans (roomBehind_le _ _)) ?_⟩
  exact toGo_lt hidle hsleep hawaited next hnext hafter.free

theorem receives_of_awaited {event : Cc3220sfEvent} (hawaited : awaited state = some event) :
    receives state = true ∧ Needed period (.send event) ∧ event ≠ .fwInstall := by
  cases state with
  | wait4Start | waitConnectAp | waitIp =>
      cases hawaited
      exact ⟨rfl, .inr (by simp), by decide⟩
  | _ => cases hawaited

/-- Where it waits, it has an event less to receive, or receives the one it waits for. -/
theorem Able.waits {event : Cc3220sfEvent} (hable : Able d)
    (hawaited : awaited d.state = some event) :
    CanReach (step false) (Needed period) (fun s => Able s ∧ distance s < distance d) d := by
  obtain ⟨hreceives, hneeded, hevent⟩ := receives_of_awaited hawaited
  cases hqueue : d.eventQ with
  | nil =>
      obtain ⟨hsends, hsent⟩ := hable.send hevent hqueue
      apply CanReach.of_step hneeded hsends
      obtain ⟨next, handled, connectedTime, hlower, -, hstep, hafter, hroom⟩ :=
        hsent.call period (passes hsent.inOrder hawaited rfl)
      apply CanReach.of_step (.inl rfl) hstep
      refine .of_goal ⟨hafter, distance_lt ?_ hlower⟩
      rw [roomBehind, if_pos hreceives] at hroom
      exact hroom.trans (Nat.zero_le _)
  | cons first rest =>
      have hends : Ensures (smHandler false d.state) (called period d) fun _ _ => True := by
        rw [Ensures, Ends]
        split <;> trivial
      obtain ⟨next, handled, connectedTime, -, -, hstep, hafter, hroom⟩ := hable.call period hends
      apply CanReach.of_step (.inl rfl) hstep
      refine .of_goal ⟨hafter, ?_⟩
      rw [distance, distance, Prod.Lex.toLex_lt_toLex]
      rw [roomBehind, if_pos hreceives, hqueue, List.length_cons, Nat.add_sub_cancel] at hroom
      exact .inl (hroom.trans_lt (by simp [hqueue]))

/-- A device that is able to comes up. -/
theorem Able.comesUp (hable : Able d) (hperiod : 0 < period.toNat)
    (hbound : period.toNat ≤ 2 ^ 31) :
    CanReach (step false) (Needed period) (fun up => up.state = .idle ∧ ToldUp up) d := by
  have hprogress (s : Desc) (hs : Able s) :
      CanReach (step false) (Needed period) (fun s' => (s'.state = .idle ∧ ToldUp s') ∨
        Able s' ∧ distance s' < distance s) s := by
    have hcloser {s : Desc} {goal : Desc → Prop}
        (hreach : CanReach (step false) (Needed period) goal s) :
        CanReach (step false) (Needed period)
          (fun s' => (s'.state = .idle ∧ ToldUp s') ∨ goal s') s :=
      hreach.trans fun _ hreached => .of_goal (.inr hreached)
    by_cases hidle : s.state = .idle
    · refine .of_goal (.inl ⟨hidle, hs.inOrder.toldUp_iff.mpr ?_⟩)
      rw [hidle]
      rfl
    · by_cases hsleep : s.state = .sleep
      · apply hcloser
        apply (hs.wakes hperiod hbound hsleep).trans
        rintro awake ⟨hawake, hlength, hstate⟩
        refine .of_goal ⟨hawake, distance_lt hlength ?_⟩
        rw [hsleep]
        simp only [List.mem_cons, List.not_mem_nil, or_false] at hstate
        rcases hstate with hinit | hstop
        · rw [hinit]
          decide
        · rw [hstop]
          decide
      · cases hawaited : awaited s.state with
        | none => exact hcloser (hs.goesOn hidle hsleep hawaited)
        | some event => exact hcloser (hs.waits hawaited)
  exact canReach_of_rank distance hprogress hable

end Up

section Runs

variable {totalFatalErrors totalRecoveries totalDisconnects : BitVec 32} {doProvisioning : Bool}
variable {acts : List NetAct}

/-- What the way up takes for granted of the device. -/
def Sound (d : Desc) : Prop := InOrderAndStopped d ∧ SleepsShort d

theorem sound_run
    (hrun : run (step false)
      (started totalFatalErrors totalRecoveries totalDisconnects doProvisioning) acts = some d) :
    Sound d := by
  have hkeeps (s : Desc) (act : NetAct) (next : Desc) (hsound : Sound s)
      (hstep : step false s act = some next) : Sound next :=
    ⟨⟨inOrder_step hsound.1.1 hstep, stopped_step hsound.1.1 hsound.1.2 hstep⟩,
      sleepsShort_step hsound.1.2 hsound.2 hstep⟩
  have hshort : (5000 : BitVec 32).toNat ≤ 5000 := by decide
  have hfirst : run (step false)
      (started totalFatalErrors totalRecoveries totalDisconnects doProvisioning) [] =
      some (started totalFatalErrors totalRecoveries totalDisconnects doProvisioning) := rfl
  have hstart : Sound
      (started totalFatalErrors totalRecoveries totalDisconnects doProvisioning) :=
    ⟨inOrderAndStopped_run hfirst, hshort⟩
  exact Transition.run_invariant hkeeps hstart hrun

/-- A walk does not leave a sink. -/
theorem walk_of_sink {last : Cc3220sfState} {calls : List NetAct} (hsink : isSink state = true)
    (hwalk : Walk Edge state calls last) : last = state := by
  induction hwalk with
  | nil => rfl
  | @cons state middle last call calls hedge _ ih =>
      have hstays : middle = state := by
        cases state with
        | waitFwInstall | waitProvision => exact List.mem_singleton.mp hedge
        | _ => cases hsink
      rw [ih (hstays ▸ hsink), hstays]

/-- From every state of a run in which no installation is asked for and no provisioning is
wanted, the connection can be reported again by calls at any rate, if the NWP sends what it
sends in a start; only two states are never left, whatever is done. -/
theorem comes_up (period : BitVec 32) (hperiod : 0 < period.toNat) (hbound : period.toNat ≤ 2 ^ 31)
    (hrun : run (step false)
      (started totalFatalErrors totalRecoveries totalDisconnects doProvisioning) acts = some d) :
    (d.state ≠ .waitFwInstall → d.state ≠ .waitProvision → .fwInstall ∉ d.wlanStatus →
      .fwInstall ∉ d.eventQ → d.doProvisioning = false →
      ∃ more up, (∀ act ∈ more, Needed period act) ∧ run (step false) d more = some up ∧
        up.state = .idle ∧ ToldUp up) ∧
    (d.state = .waitFwInstall ∨ d.state = .waitProvision →
      ∀ more after, run (step false) d more = some after → after.state = d.state) := by
  obtain ⟨⟨hinOrder, hstopped⟩, hshort⟩ := sound_run hrun
  constructor
  · intro hinstall hprovision hstatus hqueue hprovisioning
    have hfree : isSink d.state = false := by
      cases hstate : d.state with
      | waitFwInstall => exact absurd hstate hinstall
      | waitProvision => exact absurd hstate hprovision
      | _ => rfl
    have hable : Able d :=
      ⟨hinOrder, hstopped, hfree, ⟨hstatus, hqueue, hprovisioning, rfl, hshort, le_rfl⟩⟩
    exact hable.comesUp hperiod hbound
  · intro hsink more after hmore
    apply walk_of_sink _ (walk_of_acts hinOrder hmore)
    rcases hsink with hsink | hsink
    · rw [hsink]
      rfl
    · rw [hsink]
      rfl

/-- The device has given up on an access point, with events that it has still to take. -/
def untilGivenUp : List NetAct :=
  untilConnecting ++ [.exec 10001 [], .send .disconnect, .send .ipLost]

theorem comes_up_givenUp :
    ∃ d, run (step false) (started 0 0 0 false) untilGivenUp = some d ∧ d.state = .error ∧
      ∃ more up, (∀ act ∈ more, Needed 100 act) ∧ run (step false) d more = some up ∧
        up.state = .idle ∧ ToldUp up := by
  have hchecks : (run (step false) (started 0 0 0 false) untilGivenUp).any fun d =>
      d.state = .error ∧ .fwInstall ∉ d.wlanStatus ∧ .fwInstall ∉ d.eventQ ∧
        d.doProvisioning = false := by
    decide +kernel
  rw [Option.any_eq_true] at hchecks
  obtain ⟨d, hrun, hd⟩ := hchecks
  obtain ⟨hstate, hstatus, hqueue, hprovisioning⟩ := of_decide_eq_true hd
  have hup := (comes_up 100 (by decide) (by decide) hrun).1 (by rw [hstate]; decide)
    (by rw [hstate]; decide) hstatus hqueue hprovisioning
  exact ⟨d, hrun, hstate, hup⟩

end Runs

end SimpleLinkHost.Recovery
