import DeviceHal.Ipacm.Listener
import DeviceHal.Ipacm.NatAppInv

namespace DeviceHal.Ipacm

open Lib

universe v

variable {δ : Type v} {drv : NatDriver δ} {view : DriverView δ} {s : Listener δ}

/-- The WAN is up exactly when there is a table, and it is that of the WAN address. -/
def WanAgrees (s : Listener δ) : Prop :=
  s.wanUp = true ↔ s.natInst.natTableHdl ≠ 0 ∧ s.natInst.pubIpAddr = s.wanIpaddr

/-- After the WAN goes down for the current address, any way up makes a table. -/
def WanRetries (drv : NatDriver δ) (s : Listener δ) : Prop :=
  ∀ ipv4Addr, ipv4Addr ≠ 0 →
    (listenerStep drv s (.wanDown s.wanIpaddr)).wanUpReady drv ipv4Addr ≠ none

def listenerRun (drv : NatDriver δ) (s : Listener δ) (evt : ListenerEvent) : Option (Listener δ) :=
  some (listenerStep drv s evt)

def WanEvents (_ : Listener δ) : ListenerEvent → Prop
  | .wanUp _ _ => True
  | .wanDown _ => True
  | _ => False

/-- If the event comes to make a table, the driver makes it. -/
def TableMade (drv : NatDriver δ) (s : Listener δ) : ListenerEvent → Prop
  | .wanUp ipv4Addr _ => ∀ t, s.wanUpReady drv ipv4Addr = some t →
    (drv.ipaNatAddIpv4Tbl ipv4Addr t.natInst.cache.length t.natInst.natTableHdl t.natInst.dev).1 = 0
  | _ => True

def DeletesServed (drv : NatDriver δ) (view : DriverView δ) : Prop :=
  ∀ d, view.tbl d ≠ 0 → (drv.ipaNatDelIpv4Tbl (view.tbl d) d).1 = 0

structure WanInv (view : DriverView δ) (s : Listener δ) : Prop where
  agree : NatAppInv 0 view s.natInst
  up : s.wanUp = true → s.natInst.natTableHdl ≠ 0 ∧ s.natInst.pubIpAddr = s.wanIpaddr
  down : s.wanUp = false → s.natInst.natTableHdl = 0

theorem WanInv.agrees (h : WanInv view s) : WanAgrees s := by
  refine ⟨h.up, fun hs => ?_⟩
  by_contra hdown
  exact hs.1 (h.down (by simpa using hdown))

theorem deleteTable_served (served : DeletesServed drv view) {a : NatApp Conntrack δ}
    (inv : NatAppInv 0 view a) (hz : a.natTableHdl ≠ 0) :
    (a.deleteTable drv a.pubIpAddr).1 = 0 ∧
      (a.deleteTable drv a.pubIpAddr).2.natTableHdl = 0 := by
  have hret := served a.dev (by rw [inv.tbl]; exact hz)
  rw [inv.tbl] at hret
  unfold NatApp.deleteTable
  rw [if_neg hz, if_neg (not_not.mpr rfl)]
  generalize drv.ipaNatDelIpv4Tbl a.natTableHdl a.dev = r at hret
  obtain ⟨ret, d⟩ := r
  dsimp only at hret ⊢
  rw [if_neg (not_not.mpr hret)]
  exact ⟨rfl, rfl⟩

theorem WanInv.triggerWANDown (laws : DriverLaws drv view) (served : DeletesServed drv view)
    (h : WanInv view s) (up : s.wanUp = true) :
    WanInv view (s.triggerWANDown drv s.wanIpaddr) ∧
      (s.triggerWANDown drv s.wanIpaddr).wanUp = false := by
  obtain ⟨hz, hpub⟩ := h.up up
  have hinv := h.agree.deleteTable laws s.wanIpaddr
  have hdel := deleteTable_served served h.agree hz
  unfold Listener.triggerWANDown
  rw [← hpub] at hinv ⊢
  generalize s.natInst.deleteTable drv s.natInst.pubIpAddr = r at hinv hdel
  obtain ⟨ret, a⟩ := r
  dsimp only at hinv hdel ⊢
  rw [if_neg (not_not.mpr hdel.1)]
  exact ⟨⟨hinv, fun hup => Bool.noConfusion hup, fun _ => hdel.2⟩, rfl⟩

theorem triggerWANDown_other {wanAddr : UInt32} (hz : s.natInst.natTableHdl ≠ 0)
    (other : s.natInst.pubIpAddr ≠ wanAddr) : s.triggerWANDown drv wanAddr = s := by
  unfold Listener.triggerWANDown NatApp.deleteTable
  rw [if_neg hz, if_pos other]
  rfl

theorem WanInv.wanDown (laws : DriverLaws drv view) (served : DeletesServed drv view)
    (h : WanInv view s) (ipv4Addr : UInt32) :
    WanInv view (listenerStep drv s (.wanDown ipv4Addr)) := by
  change WanInv view (if s.wanUp then s.triggerWANDown drv ipv4Addr else s)
  cases up : s.wanUp with
  | false => exact h
  | true =>
    obtain ⟨hz, hpub⟩ := h.up up
    by_cases hip : s.wanIpaddr = ipv4Addr
    · rw [← hip]
      exact (h.triggerWANDown laws served up).1
    · rw [triggerWANDown_other hz (hpub.trans_ne hip)]
      exact h

theorem WanInv.retries (laws : DriverLaws drv view) (served : DeletesServed drv view)
    (h : WanInv view s) : WanRetries drv s := by
  intro ipv4Addr hip
  change (if s.wanUp then s.triggerWANDown drv s.wanIpaddr else s).wanUpReady drv ipv4Addr ≠ none
  have ready : ∀ t : Listener δ, t.wanUp = false → t.wanUpReady drv ipv4Addr ≠ none := by
    intro t down
    simp [Listener.wanUpReady, hip, down]
  cases up : s.wanUp with
  | false => exact ready s up
  | true => exact ready _ (h.triggerWANDown laws served up).2

variable {ipv4Addr : UInt32}

theorem WanInv.ready (laws : DriverLaws drv view) (served : DeletesServed drv view)
    (h : WanInv view s) {t : Listener δ}
    (ready : s.wanUpReady drv ipv4Addr = some t) :
    NatAppInv 0 view t.natInst ∧ t.natInst.natTableHdl = 0 := by
  unfold Listener.wanUpReady at ready
  split at ready
  next => cases ready
  next =>
    split at ready
    next up =>
      split at ready
      next =>
        cases ready
        obtain ⟨h', down⟩ := h.triggerWANDown laws served up
        exact ⟨h'.agree, h'.down down⟩
      next => cases ready
    next up =>
      cases ready
      exact ⟨h.agree, h.down (by simpa using up)⟩

theorem addTable_made (laws : DriverLaws drv view) {a : NatApp Conntrack δ}
    (inv : NatAppInv 0 view a) (single : a.natTableHdl = 0) (pubIp : UInt32) :
    ((drv.ipaNatAddIpv4Tbl pubIp a.cache.length a.natTableHdl a.dev).1 = 0 →
      (a.addTable drv pubIp).2.natTableHdl ≠ 0 ∧ (a.addTable drv pubIp).2.pubIpAddr = pubIp) ∧
    ((drv.ipaNatAddIpv4Tbl pubIp a.cache.length a.natTableHdl a.dev).1 ≠ 0 →
      (a.addTable drv pubIp).2.natTableHdl = 0) := by
  obtain ⟨ret, h, d, call, hout⟩ := a.addTable_cases drv pubIp
  have hcall := call
  rw [single] at hcall
  rw [call]
  rcases laws.addTbl _ _ _ _ _ _ (inv.tbl.trans single) hcall with ⟨hret, hz, -⟩ | ⟨hret, hz, -⟩
  · refine ⟨fun _ => ?_, fun hno => absurd hret hno⟩
    rcases hout with ⟨hno, -⟩ | ⟨-, -, hadd⟩ | ⟨-, -, hadd⟩
    · exact absurd hret hno
    · rw [hadd]
      exact ⟨hz, rfl⟩
    · rw [hadd]
      exact ⟨hz, rfl⟩
  · refine ⟨fun hyes => absurd hyes hret, fun _ => ?_⟩
    rcases hout with ⟨-, hadd⟩ | ⟨hyes, -⟩ | ⟨hyes, -⟩
    · rw [hadd]
      exact hz
    · exact absurd hyes hret
    · exact absurd hyes hret

theorem WanInv.wanUp (laws : DriverLaws drv view) (served : DeletesServed drv view)
    (h : WanInv view s) {isSta : Bool}
    (made : TableMade drv s (.wanUp ipv4Addr isSta)) :
    WanInv view (s.triggerWANUp drv ipv4Addr isSta) := by
  unfold Listener.triggerWANUp
  cases hready : s.wanUpReady drv ipv4Addr with
  | none => exact h
  | some t =>
    obtain ⟨inv, single⟩ := h.ready laws served hready
    have hmade := (addTable_made laws inv single ipv4Addr).1 (made t hready)
    exact ⟨inv.addTable laws single ipv4Addr, fun _ => hmade, fun down => Bool.noConfusion down⟩

theorem WanInv.breaks (laws : DriverLaws drv view) (served : DeletesServed drv view)
    (h : WanInv view s) {isSta : Bool}
    (bad : ¬TableMade drv s (.wanUp ipv4Addr isSta)) :
    ¬WanAgrees (s.triggerWANUp drv ipv4Addr isSta) := by
  unfold TableMade at bad
  push Not at bad
  obtain ⟨t, hready, hret⟩ := bad
  obtain ⟨inv, single⟩ := h.ready laws served hready
  have hno := (addTable_made laws inv single ipv4Addr).2 hret
  unfold Listener.triggerWANUp
  rw [hready]
  exact fun agrees => (agrees.mp rfl).1 hno

/-- All along a run of WAN events the WAN state and the table agree, and the table is tried again
after the WAN went down, exactly if the driver makes every table it is asked for. -/
theorem wan_agrees_iff (laws : DriverLaws drv view) (served : DeletesServed drv view) (n : Nat)
    (algPorts : List IpacmAlg) (pre : UInt32) (ifs : List UInt32) {dev : δ}
    (tbl : view.tbl dev = 0) (none : ∀ x, view.live dev x = none) (wanIpaddr : UInt32)
    (isStaMode : Bool) {evts : List ListenerEvent}
    (wan : OpsMeet (listenerRun drv) WanEvents
      (Listener.init wanIpaddr isStaMode (NatApp.init n algPorts pre ifs dev)) evts) :
    Always (listenerRun drv) (fun s => WanAgrees s ∧ WanRetries drv s)
        (Listener.init wanIpaddr isStaMode (NatApp.init n algPorts pre ifs dev)) evts ↔
      OpsMeet (listenerRun drv) (TableMade drv)
        (Listener.init wanIpaddr isStaMode (NatApp.init n algPorts pre ifs dev)) evts := by
  have first : WanInv view
      (Listener.init wanIpaddr isStaMode (NatApp.init n algPorts pre ifs dev)) :=
    ⟨NatAppInv.init n algPorts pre ifs tbl none, fun up => Bool.noConfusion up, fun _ => rfl⟩
  refine always_iff (fun s h => ⟨h.agrees, h.retries laws served⟩) (fun s evt h wan made => ?_)
    (fun s evt h wan bad => ?_) first wan
  · cases evt with
    | wanUp ipv4Addr isSta => exact ⟨_, rfl, h.wanUp laws served made⟩
    | wanDown ipv4Addr => exact ⟨_, rfl, h.wanDown laws served ipv4Addr⟩
    | _ => exact absurd wan (fun hno => hno)
  · cases evt with
    | wanUp ipv4Addr isSta =>
      exact ⟨_, rfl, fun hp => h.breaks laws served bad hp.1⟩
    | wanDown ipv4Addr => exact absurd trivial bad
    | _ => exact absurd wan (fun hno => hno)

theorem wan_agrees_iff_restart : Always (listenerRun (ledgerDriver true 4))
    (fun s => WanAgrees s ∧ WanRetries (ledgerDriver true 4) s)
    (Listener.init 0 false (NatApp.init 2 [] 0 [] {})) [.wanUp 1 false, .wanDown 1, .wanUp 2 false] := by
  refine (@wan_agrees_iff _ (ledgerDriver true 4) Ledger.view (ledgerDriver_laws true 4)
    (fun _ _ => rfl) 2 [] 0 [] _ rfl (fun _ => rfl) 0 false _ ?_).mpr ?_
  · exact ⟨trivial, fun _ _ => ⟨trivial, fun _ _ => ⟨trivial, fun _ _ => trivial⟩⟩⟩
  · refine ⟨fun t ht => ?_, fun _ hb => ⟨trivial, fun _ hc => ⟨fun t ht => ?_, fun _ _ => trivial⟩⟩⟩
    · cases ht
      rfl
    · cases hb
      cases hc
      cases ht
      rfl

/-- If the first table is refused, the WAN is up without one, and stays so when it goes down and up
again. -/
theorem refused_table_stuck : ¬∀ (δ : Type) (drv : NatDriver δ) (view : DriverView δ) (n : Nat)
    (algPorts : List IpacmAlg) (pre : UInt32) (ifs : List UInt32) (dev : δ) (wanIpaddr : UInt32)
    (isStaMode : Bool) (evts : List ListenerEvent), DriverLaws drv view → DeletesServed drv view →
    view.tbl dev = 0 → (∀ x, view.live dev x = none) →
    OpsMeet (listenerRun drv) WanEvents
      (Listener.init wanIpaddr isStaMode (NatApp.init n algPorts pre ifs dev)) evts →
    Always (listenerRun drv) (fun s => WanAgrees s ∧ WanRetries drv s)
      (Listener.init wanIpaddr isStaMode (NatApp.init n algPorts pre ifs dev)) evts := by
  intro h
  have always := h Ledger (ledgerDriver false 4) Ledger.view 2 [] 0 [] {} 0 false [.wanUp 1 false]
    (ledgerDriver_laws false 4) (fun _ _ => rfl) rfl (fun _ => rfl) ⟨trivial, fun _ _ => trivial⟩
  have last := always.2 _ rfl
  exact absurd ((last.1.mp rfl).1) (by decide)

end DeviceHal.Ipacm
