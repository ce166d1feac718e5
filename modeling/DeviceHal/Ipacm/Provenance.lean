import DeviceHal.Ipacm.Listener
import DeviceHal.Ipacm.Outcomes
import DeviceHal.Lib.Run

namespace DeviceHal.Ipacm

open Lib

universe u v

section NatApp

variable {κ : Type u} {δ : Type v} {drv : NatDriver δ} {a : NatApp κ δ}
variable {P : Option κ → Prop} {rule : NatTableEntry κ}

/-- What the slots and temporary slots were made for. -/
structure MadeFor (P : Option κ → Prop) (a : NatApp κ δ) : Prop where
  cache : ∀ e ∈ a.cache, P e.origin
  temp : ∀ e ∈ a.temp, P e.origin

theorem MadeFor.set (h : MadeFor P a) (i : Nat) (e : NatTableEntry κ) (new : P e.origin)
    (dev : δ) (curCnt : Int) : MadeFor P { a with cache := a.cache.set i e, dev, curCnt } := by
  refine ⟨fun k hk => ?_, h.temp⟩
  rcases List.mem_or_eq_of_mem_set hk with hk | rfl
  · exact h.cache k hk
  · exact new

theorem MadeFor.setTemp (h : MadeFor P a) (i : Nat) (e : NatTableEntry κ)
    (new : P e.origin) : MadeFor P { a with temp := a.temp.set i e } := by
  refine ⟨h.cache, fun k hk => ?_⟩
  rcases List.mem_or_eq_of_mem_set hk with hk | rfl
  · exact h.temp k hk
  · exact new

theorem MadeFor.forEntries (h : MadeFor P a) {p : NatTableEntry κ → Bool}
    {f : NatTableEntry κ → δ × Int → NatTableEntry κ × δ × Int}
    (turn : ∀ e s, P e.origin → P (f e s).1.origin) : MadeFor P (a.forEntries p f) := by
  have loop := forCells_invariant (f := fun e s => if p e then f e s else (e, s))
    (fun l (_ : δ × Int) => ∀ e ∈ l, P e.origin) ?_ (l := a.cache) (s := (a.dev, a.curCnt)) h.cache
  · exact ⟨loop, h.temp⟩
  · intro pre e post s hl k hk
    rcases List.mem_append.mp hk with hk | hk
    · exact hl k (List.mem_append_left _ hk)
    grind

theorem restoreEntry_origin (free : P none) {hdl : UInt32} (e : NatTableEntry κ) (s : δ × Int)
    (h : P e.origin) : P (NatApp.restoreEntry drv hdl e s).1.origin := by
  unfold NatApp.restoreEntry
  dsimp only
  split
  next => exact free
  next => exact h

theorem dropEntry_origin (free : P none) {hdl : UInt32} (e : NatTableEntry κ) (s : δ × Int)
    (h : P e.origin) : P (NatApp.dropEntry drv hdl e s).1.origin := by
  grind [NatApp.dropEntry]

theorem MadeFor.addTable (free : P none) (h : MadeFor P a) (pubIp : UInt32) :
    MadeFor P (a.addTable drv pubIp).2 := by
  obtain ⟨ret, hdl, d, -, ⟨-, hadd⟩ | ⟨-, -, hadd⟩ | ⟨-, -, hadd⟩⟩ := a.addTable_cases drv pubIp
  · rw [hadd]
    exact ⟨h.cache, h.temp⟩
  · have h' : MadeFor P (a.withTable hdl d) := ⟨h.cache, h.temp⟩
    have loop := h'.forEntries (p := fun e => e.privateIp ≠ 0)
      (@restoreEntry_origin _ _ drv _ free hdl)
    rw [hadd]
    exact ⟨loop.cache, loop.temp⟩
  · rw [hadd]
    exact ⟨h.cache, h.temp⟩

theorem MadeFor.addEntry (h : MadeFor P a) (hr : P rule.origin) :
    MadeFor P (a.addEntry drv rule).2 := by
  rcases a.addEntry_cases drv rule with hsame | ⟨-, e, hslot, hout⟩
  · rw [hsame]
    exact h
  · generalize a.addEntry drv rule = r at hout ⊢
    cases hout with
    | cached pwr =>
      exact h.set _ (NatTableEntry.fill { e with enabled := false, ruleHdl := 0 } rule) hr a.dev _
    | @refused ret x d awake call err =>
      exact h.set _ { e with ruleHdl := x } (h.cache e (List.mem_of_getElem? hslot.slot)) d _
    | @added ret x d awake call ok =>
      exact h.set _ (NatTableEntry.fill { e with ruleHdl := x, enabled := true } rule) hr d _

theorem MadeFor.cacheEntry (h : MadeFor P a) (hr : P rule.origin) :
    MadeFor P (a.cacheEntry rule) := by
  rcases a.cacheEntry_cases rule with hsame | ⟨e, -, hcache⟩
  · rw [hsame]
    exact h
  · rw [hcache]
    exact h.set _ (NatTableEntry.fill
      { e with enabled := false, ruleHdl := 0, publicIp := rule.publicIp } rule) hr a.dev _

theorem MadeFor.deleteEntry (free : P none) (h : MadeFor P a) (rule : NatTableEntry κ) :
    MadeFor P (a.deleteEntry drv rule).2 := by
  rcases a.deleteEntry_cases drv rule with ⟨hsame, -⟩ | ⟨e, d, -, hdel, -⟩
  · rw [hsame]
    exact h
  · rw [hdel]
    exact h.set _ {} free d _

theorem MadeFor.deleteTable (h : MadeFor P a) (pubIp : UInt32) :
    MadeFor P (a.deleteTable drv pubIp).2 := by
  unfold NatApp.deleteTable
  split
  next => exact h
  next =>
    split
    next => exact h
    next =>
      dsimp only
      split
      next => exact ⟨h.cache, h.temp⟩
      next =>
        refine ⟨fun e he => ?_, h.temp⟩
        obtain ⟨k, hk, rfl⟩ := List.mem_map.mp he
        exact h.cache k hk

theorem MadeFor.resetPwrSaveIf (free : P none) (h : MadeFor P a) (ip : UInt32) :
    MadeFor P (a.resetPwrSaveIf drv ip).2 := by
  unfold NatApp.resetPwrSaveIf
  split
  next => exact h
  next =>
    have h' : MadeFor P (a.clearPwrSaveIf ip) := ⟨h.cache, h.temp⟩
    exact h'.forEntries (restoreEntry_origin free)

theorem MadeFor.delEntriesOnClntDiscon (h : MadeFor P a) (ip : UInt32) :
    MadeFor P (a.delEntriesOnClntDiscon drv ip).2 := by
  unfold NatApp.delEntriesOnClntDiscon
  split
  next => exact h
  next =>
    have h' : MadeFor P (a.clearPwrSaveIf ip) := ⟨h.cache, h.temp⟩
    refine h'.forEntries fun e s he => ?_
    grind [NatApp.retireEntry]

theorem MadeFor.delEntriesOnSTAClntDiscon (free : P none) (h : MadeFor P a) (ip : UInt32) :
    MadeFor P (a.delEntriesOnSTAClntDiscon drv ip).2 := by
  unfold NatApp.delEntriesOnSTAClntDiscon
  split
  next => exact h
  next => exact h.forEntries (dropEntry_origin free)

theorem MadeFor.addTempEntry (h : MadeFor P a) (hr : P rule.origin) :
    MadeFor P (a.addTempEntry rule) := by
  unfold NatApp.addTempEntry
  split
  next => exact h
  next =>
    split
    next => exact h
    next =>
      split
      next => exact h
      next => exact h.setTemp _ rule hr

theorem MadeFor.deleteTempEntry (free : P none) (h : MadeFor P a) (rule : NatTableEntry κ) :
    MadeFor P (a.deleteTempEntry rule) := h.setTemp _ {} free

theorem MadeFor.flushTempEntries (free : P none) (h : MadeFor P a) (ip : UInt32)
    (isAdd isDummy : Bool) : MadeFor P (a.flushTempEntries drv ip isAdd isDummy) := by
  have loop := forCells_invariant (f := NatApp.flushTempEntry drv ip isAdd isDummy)
    (fun l (b : NatApp κ δ) => (∀ e ∈ l, P e.origin) ∧ MadeFor P b) ?_ (l := a.temp) ⟨h.temp, h⟩
  · exact ⟨loop.2.cache, loop.1⟩
  · rintro pre e post b ⟨hl, hb⟩
    have he := hl e (by simp)
    have rest : ∀ e', P e'.origin → ∀ k ∈ pre ++ e' :: post, P k.origin := by
      intro e' hnew k hk
      rcases List.mem_append.mp hk with hk | hk
      · exact hl k (List.mem_append_left _ hk)
      · grind
    rcases b.flushTempEntry_cases drv ip isAdd isDummy e with
      hout | hout | ⟨e', hsrc, ⟨-, hout⟩ | ⟨-, hout⟩⟩
    · rw [hout]
      exact ⟨rest e he, hb⟩
    · rw [hout]
      exact ⟨rest {} free, hb⟩
    · have he' : P e'.origin := by
        rcases hsrc with rfl | ⟨-, rfl⟩
        · exact he
        · exact he
      rw [hout]
      exact ⟨rest e' he', hb.addEntry he'⟩
    · have he' : P e'.origin := by
        rcases hsrc with rfl | ⟨-, rfl⟩
        · exact he
        · exact he
      rw [hout]
      exact ⟨rest {} free, hb.addEntry he'⟩

end NatApp

section Listener

variable {δ : Type v} {drv : NatDriver δ} {s : Listener δ} {P : Option Conntrack → Prop}

theorem populateTCPorUDPEntry_origin (ct : Conntrack) (publicIp : UInt32) (status : NatStatus) :
    (Listener.populateTCPorUDPEntry ct publicIp status).origin = some ct := by
  cases status with
  | dstNat => rfl
  | srcNat => rfl

theorem addIface_origin {cfg : IpacmConfig} {rule rule' : NatTableEntry Conntrack} {temp : Bool}
    (h : s.addIface cfg rule = some (rule', temp)) : rule'.origin = rule.origin := by
  unfold Listener.addIface at h
  split at h
  next =>
    cases h
    rfl
  grind

theorem natEntry_origin {cfg : IpacmConfig} {ct : Conntrack} {rule : NatTableEntry Conntrack}
    {temp : Bool} (h : s.natEntry cfg ct = some (rule, temp)) : rule.origin = some ct := by
  unfold Listener.natEntry at h
  obtain ⟨status, -, h⟩ := Option.bind_eq_some_iff.mp h
  obtain ⟨⟨rule', temp'⟩, hif, h⟩ := Option.bind_eq_some_iff.mp h
  cases h
  have hpop := populateTCPorUDPEntry_origin ct s.wanIpaddr status
  unfold Listener.ifaceEntry at hif
  split at hif
  next => exact (addIface_origin hif).trans hpop
  grind

/-- The events other than a message of the connection. -/
def ListenerEvent.Quiet (ct : Conntrack) : ListenerEvent → Prop
  | .ctMessage _ msg => msg.ct ≠ ct
  | _ => True

theorem MadeFor.processCTMessage (free : P none) (h : MadeFor P s.natInst) (cfg : IpacmConfig)
    {msg : CtMessage} (own : P (some msg.ct)) :
    MadeFor P (s.processCTMessage drv cfg msg).natInst := by
  unfold Listener.processCTMessage
  split
  next => exact h
  next =>
    unfold Listener.processTCPorUDPMsg
    split
    next => exact h
    next rule temp hentry =>
      have hr : P rule.origin := by
        rw [natEntry_origin hentry]
        exact own
      unfold Listener.addORDeleteNatEntry
      split
      next =>
        split
        next => exact h.cacheEntry hr
        next =>
          split
          next => exact h.addTempEntry hr
          next => exact h.addEntry hr
      next => exact (h.deleteEntry free rule).deleteTempEntry free rule
      next => exact h

theorem MadeFor.handleNonNatIPAddr (free : P none) (h : MadeFor P s.natInst) (data : NeighEvent)
    (addOp : Bool) : MadeFor P (s.handleNonNatIPAddr drv data addOp).natInst := by
  unfold Listener.handleNonNatIPAddr
  split
  next => exact h
  next =>
    split
    next =>
      split
      next =>
        dsimp only
        split
        next => exact h.flushTempEntries free _ _ _
        next => exact h
      next => exact h
    next =>
      dsimp only
      split
      next => exact (h.flushTempEntries free _ _ _).delEntriesOnClntDiscon _
      next => exact h

theorem MadeFor.handleNeighIpAddrAddEvt (free : P none) (h : MadeFor P s.natInst)
    (data : NeighEvent) : MadeFor P (s.handleNeighIpAddrAddEvt drv data).natInst := by
  unfold Listener.handleNeighIpAddrAddEvt
  split
  next =>
    dsimp only
    split
    next => exact (h.resetPwrSaveIf free _).flushTempEntries free _ _ _
    next => exact h
  next => exact h

theorem MadeFor.handleNeighIpAddrDelEvt (free : P none) (h : MadeFor P s.natInst) (ip : UInt32) :
    MadeFor P (s.handleNeighIpAddrDelEvt drv ip).natInst := by
  unfold Listener.handleNeighIpAddrDelEvt
  split
  next => exact h
  next =>
    refine forCells_invariant (fun (_ : List UInt32) (b : NatApp Conntrack δ) => MadeFor P b)
      (fun _ addr _ b hb => ?_) h
    split
    next => exact (hb.flushTempEntries free _ _ _).delEntriesOnClntDiscon _
    next => exact hb

theorem MadeFor.triggerWANDown (h : MadeFor P s.natInst) (ip : UInt32) :
    MadeFor P (s.triggerWANDown drv ip).natInst := by
  have hdel : MadeFor P (s.natInst.deleteTable drv ip).2 := h.deleteTable ip
  grind [Listener.triggerWANDown]

theorem MadeFor.triggerWANUp (free : P none) (h : MadeFor P s.natInst) (ip : UInt32)
    (isSta : Bool) : MadeFor P (s.triggerWANUp drv ip isSta).natInst := by
  unfold Listener.triggerWANUp
  split
  next => exact h
  next t ready =>
    have ht : MadeFor P t.natInst := by
      unfold Listener.wanUpReady at ready
      split at ready
      next => cases ready
      next =>
        split at ready
        next =>
          split at ready
          next =>
            cases ready
            exact h.triggerWANDown _
          next => cases ready
        next =>
          cases ready
          exact h
    exact ht.addTable free ip

theorem MadeFor.step {ct : Conntrack} (h : MadeFor (· ≠ some ct) s.natInst) {evt : ListenerEvent}
    (quiet : evt.Quiet ct) : MadeFor (· ≠ some ct) (listenerStep drv s evt).natInst := by
  have free : (none : Option Conntrack) ≠ some ct := by simp
  cases evt with
  | ctMessage cfg msg => exact h.processCTMessage free cfg fun he => quiet (Option.some.inj he)
  | wanUp ip isSta => exact h.triggerWANUp free ip isSta
  | wanDown ip =>
    change MadeFor _ (if s.wanUp then s.triggerWANDown drv ip else s).natInst
    split
    next => exact h.triggerWANDown ip
    next => exact h
  | neighClientIpAddrAdd data => exact h.handleNonNatIPAddr free data true
  | neighClientIpAddrDel data => exact h.handleNonNatIPAddr free data false
  | handleNeighIpAddrAddEvt data => exact h.handleNeighIpAddrAddEvt free data
  | handleNeighIpAddrDelEvt ip => exact h.handleNeighIpAddrDelEvt free ip
  | handleSTAClientAddEvt ip =>
    change MadeFor _ (s.handleSTAClientAddEvt drv ip).natInst
    unfold Listener.handleSTAClientAddEvt
    split
    next => exact h
    next =>
      have hflush : MadeFor (· ≠ some ct) (s.natInst.flushTempEntries drv ip true false) :=
        h.flushTempEntries free ip true false
      grind
  | handleSTAClientDelEvt ip =>
    change MadeFor _ (s.handleSTAClientDelEvt drv ip).natInst
    unfold Listener.handleSTAClientDelEvt
    dsimp only
    split
    next => exact (h.delEntriesOnSTAClntDiscon free ip).flushTempEntries free ip false false
    next => exact h.flushTempEntries free ip false false

end Listener

variable {δ : Type v} {drv : NatDriver δ} {s : Listener δ} {ct : Conntrack}

def listenerEvents (drv : NatDriver δ) (s : Listener δ) (evts : List ListenerEvent) : Listener δ :=
  evts.foldl (listenerStep drv) s

/-- No slot and no temporary slot was made for the connection. -/
def Gone (ct : Conntrack) (s : Listener δ) : Prop := MadeFor (· ≠ some ct) s.natInst

/-- The only slot of the connection is the one a search for the tuple stops at. -/
def FindsSlots (ct : Conntrack) (tuple : NatTuple) (l : List (NatTableEntry Conntrack)) : Prop :=
  ∀ i, ∀ _ : i < l.length, l[i].origin = some ct → i = l.findIdx fun e => e.tuple = tuple

instance (tuple : NatTuple) (l : List (NatTableEntry Conntrack)) :
    Decidable (FindsSlots ct tuple l) :=
  inferInstanceAs (Decidable (∀ i, ∀ _ : i < l.length, _ → _))

/-- The message comes to delete the entry that the interface tables now give for the connection,
and its slots have the tuple of that entry. A message that does nothing may come if there are no
slots; one that adds an entry may not. -/
def DestroyFinds (cfg : IpacmConfig) (msg : CtMessage) (s : Listener δ) : Prop :=
  if ipprotoUdp ≠ msg.ct.origL4proto ∧ ipprotoTcp ≠ msg.ct.origL4proto then Gone msg.ct s
  else match s.natEntry cfg msg.ct with
    | none => Gone msg.ct s
    | some (rule, _) => match natEntryAct rule.protocol msg.type msg.tcpState with
      | .delete => FindsSlots msg.ct rule.tuple s.natInst.cache ∧
          FindsSlots msg.ct rule.tuple s.natInst.temp
      | .ignore => Gone msg.ct s
      | .add => False

theorem FindsSlots.cleared {tuple : NatTuple} {l : List (NatTableEntry Conntrack)}
    (h : FindsSlots ct tuple l) :
    ∀ e ∈ l.set (l.findIdx fun e => e.tuple = tuple) {}, e.origin ≠ some ct := by
  intro e he horigin
  obtain ⟨i, hi, rfl⟩ := List.mem_iff_getElem.mp he
  rw [List.getElem_set] at horigin
  split at horigin
  next => exact absurd horigin (by simp)
  next hne =>
    rw [List.length_set] at hi
    exact hne (h i hi horigin).symm

theorem delete_slots (rule : NatTableEntry Conntrack) (a : NatApp Conntrack δ) :
    ((a.deleteEntry drv rule).2.deleteTempEntry rule).cache =
      a.cache.set (a.cache.findIdx fun e => e.tuple = rule.tuple) {} ∧
    ((a.deleteEntry drv rule).2.deleteTempEntry rule).temp =
      a.temp.set (a.temp.findIdx fun e => e.tuple = rule.tuple) {} := by
  unfold NatApp.deleteTempEntry
  rcases a.deleteEntry_cases drv rule with ⟨hsame, hno⟩ | ⟨e, d, -, hdel, -⟩
  · rw [hsame]
    refine ⟨?_, rfl⟩
    have hlen : a.cache.findIdx (fun e => e.tuple = rule.tuple) = a.cache.length := by
      rw [List.findIdx_eq_length]
      exact fun e he => decide_eq_false (hno e he)
    rw [hlen, List.set_eq_of_length_le (Nat.le_refl _)]
  · rw [hdel]
    exact ⟨rfl, rfl⟩

theorem DestroyFinds.gone {cfg : IpacmConfig} {msg : CtMessage} (h : DestroyFinds cfg msg s) :
    Gone msg.ct (listenerStep drv s (.ctMessage cfg msg)) := by
  change Gone msg.ct (s.processCTMessage drv cfg msg)
  unfold DestroyFinds at h
  unfold Listener.processCTMessage
  split at h
  next hproto =>
    rw [if_pos hproto]
    exact h
  next hproto =>
    rw [if_neg hproto]
    unfold Listener.processTCPorUDPMsg
    cases hentry : s.natEntry cfg msg.ct with
    | none =>
      rw [hentry] at h
      exact h
    | some entry =>
      obtain ⟨rule, temp⟩ := entry
      rw [hentry] at h
      dsimp only at h ⊢
      unfold Listener.addORDeleteNatEntry
      cases hact : natEntryAct rule.protocol msg.type msg.tcpState with
      | delete =>
        rw [hact] at h
        obtain ⟨hcache, htemp⟩ := @delete_slots _ drv rule s.natInst
        refine ⟨?_, ?_⟩
        · simpa [hcache] using h.1.cleared
        · simpa [htemp] using h.2.cleared
      | ignore =>
        rw [hact] at h
        exact h
      | add =>
        rw [hact] at h
        exact h.elim

theorem Gone.quiet (h : Gone ct s) {evts : List ListenerEvent} (quiet : ∀ evt ∈ evts, evt.Quiet ct) :
    Gone ct (listenerEvents drv s evts) := by
  induction evts generalizing s with
  | nil => exact h
  | cons evt evts ih =>
    exact ih (MadeFor.step h (quiet evt List.mem_cons_self)) fun e he =>
      quiet e (List.mem_cons_of_mem evt he)

/-- A UDP connection of 192.168.0.2 through the WAN address 1. -/
def dnsConntrack : Conntrack where
  origIpv4Src := 0xC0A80002
  origIpv4Dst := 0x08080808
  replIpv4Src := 0x08080808
  origPortSrc := 4000
  origPortDst := 53
  replPortSrc := 53
  replPortDst := 5000
  origL4proto := ipprotoUdp
  replL4proto := ipprotoUdp
  dstNat := false
  srcNat := true

def dnsConfig : IpacmConfig := ⟨false, 1, [⟨0xC0A80000, 0xFFFFFF00⟩]⟩

def dnsClient (natIface : Bool) : NeighEvent :=
  ⟨0xC0A80002, true, some "wlan0", if natIface then ["wlan0"] else []⟩

def newListener : Listener Ledger := Listener.init 0 false (NatApp.init 2 [] 0 [] {})

/-- The events that leave the WAN address and the mode as they are. -/
def ListenerEvent.KeepsWan : ListenerEvent → Prop
  | .ctMessage _ _ => True
  | .neighClientIpAddrAdd _ => True
  | .neighClientIpAddrDel _ => True
  | .handleNeighIpAddrAddEvt _ => True
  | .handleNeighIpAddrDelEvt _ => True
  | _ => False

end DeviceHal.Ipacm
