import DeviceHal.Ipacm.NatAppInv

namespace DeviceHal.Ipacm

open IpaNat Lib

universe u v

variable {κ : Type u} {δ : Type v} {drv : NatDriver δ} {a s : NatApp κ δ} {e rule : NatTableEntry κ}
variable {ip : UInt32} {isDummy : Bool}

def NatTableEntry.Mentions (ip : UInt32) (e : NatTableEntry κ) : Prop :=
  e.privateIp = ip ∨ e.targetIp = ip

instance (ip : UInt32) (e : NatTableEntry κ) : Decidable (e.Mentions ip) :=
  inferInstanceAs (Decidable (e.privateIp = ip ∨ e.targetIp = ip))

/-- The connection that is tried: a dummy one has its public end for its private one. -/
def NatTableEntry.tried (isDummy : Bool) (e : NatTableEntry κ) : NatTableEntry κ :=
  if isDummy then { e with privateIp := e.publicIp, privatePort := e.publicPort } else e

def atTurn (drv : NatDriver δ) (ip : UInt32) (isDummy : Bool) (a : NatApp κ δ) (i : Nat) :
    NatApp κ δ :=
  (forCells (NatApp.flushTempEntry drv ip true isDummy) (a.temp.take i) a).2

/-- A slot that mentions the address stays if `AddEntry` returns an error for its connection, and
is erased otherwise. The other slots stay. -/
def SlotFlushed (drv : NatDriver δ) (ip : UInt32) (isDummy : Bool) (s : NatApp κ δ)
    (e e' : NatTableEntry κ) : Prop :=
  if e.Mentions ip then
    if e.publicIp = s.pubIpAddr ∧ (s.addEntry drv (e.tried isDummy)).1 ≠ 0 then e' = e else e' = {}
  else e' = e

/-- All temporary slots after `FlushTempEntries` for an address that is added. -/
def AllOrNothing (drv : NatDriver δ) (ip : UInt32) (isDummy : Bool) (a : NatApp κ δ) : Prop :=
  ∀ i e, a.temp[i]? = some e → ∃ e', (a.flushTempEntries drv ip true isDummy).temp[i]? = some e' ∧
    SlotFlushed drv ip isDummy (atTurn drv ip isDummy a i) e e'

/-- Why `AddEntry` returns an error. -/
inductive Refuses (drv : NatDriver δ) (a : NatApp κ δ) (rule : NatTableEntry κ) : Prop where
  | noTable (h : a.natTableHdl = 0)
  | algPort (h : a.isAlgPort rule.protocol rule.privatePort = true ∨
      a.isAlgPort rule.protocol rule.targetPort = true)
  | duplicate (valid : rule.isInvalid = false) (dup : a.chkForDup rule = true)
  | full (valid : rule.isInvalid = false) (full : ∀ e ∈ a.cache, e.isEmpty = false)
  | driver (valid : rule.isInvalid = false) {e : NatTableEntry κ}
      (slot : a.cache[a.cache.findIdx NatTableEntry.isEmpty]? = some e) (awake : ¬a.PwrSaved rule)
      (err : (drv.ipaNatAddIpv4Rule a.natTableHdl rule.natRule e.ruleHdl a.dev).1 < 0)

theorem addEntry_error_iff : (a.addEntry drv rule).1 ≠ 0 ↔ Refuses drv a rule := by
  unfold NatApp.addEntry
  split
  next hz => exact iff_of_true (by simp) (Refuses.noTable hz)
  next hz =>
    split
    next halg => exact iff_of_true (by simp) (Refuses.algPort halg)
    next halg =>
      split
      next invalid =>
        refine iff_of_false (by simp) fun h => ?_
        cases h with
        | noTable h => exact hz h
        | algPort h => exact halg h
        | duplicate valid => exact absurd (invalid.symm.trans valid) (by decide)
        | full valid => exact absurd (invalid.symm.trans valid) (by decide)
        | driver valid => exact absurd (invalid.symm.trans valid) (by decide)
      next hvalid =>
        have valid : rule.isInvalid = false := by simpa using hvalid
        split
        next dup => exact iff_of_true (by simp) (Refuses.duplicate valid dup)
        next dup =>
          cases he : a.cache[a.cache.findIdx NatTableEntry.isEmpty]? with
          | none =>
            simp only [he]
            exact iff_of_true (by simp) (Refuses.full valid (findIdx_none he))
          | some e =>
            simp only [he]
            have found : ∀ h : Refuses drv a rule, ¬a.PwrSaved rule ∧
                (drv.ipaNatAddIpv4Rule a.natTableHdl rule.natRule e.ruleHdl a.dev).1 < 0 := by
              intro h
              cases h with
              | noTable h => exact absurd h hz
              | algPort h => exact absurd h halg
              | duplicate _ h => exact absurd h dup
              | full _ h =>
                grind
              | driver _ slot awake err =>
                grind
            by_cases hp : a.isPwrSaveIf rule.privateIp = true ∨ a.isPwrSaveIf rule.targetIp = true
            · rw [if_pos hp]
              exact iff_of_false (by simp) fun h => (found h).1 hp
            · rw [if_neg hp]
              split
              next hret => exact iff_of_true (by simp) (Refuses.driver valid he hp hret)
              grind

theorem addEntry_pubIpAddr : (a.addEntry drv rule).2.pubIpAddr = a.pubIpAddr := by
  rcases a.addEntry_cases drv rule with hsame | ⟨-, e, -, hout⟩
  · rw [hsame]
  · generalize a.addEntry drv rule = q at hout ⊢
    cases hout with
    | cached pwr => rfl
    | refused awake call err => rfl
    | added awake call ok => rfl

def NatTableEntry.isTried (ip pubIpAddr : UInt32) (e : NatTableEntry κ) : Bool :=
  e.Mentions ip ∧ e.publicIp = pubIpAddr

/-- The object after the connections of the slots that are tried before a slot. -/
def addsBefore (drv : NatDriver δ) (ip : UInt32) (isDummy : Bool) (a : NatApp κ δ) (i : Nat) :
    NatApp κ δ :=
  ((a.temp.take i).filter (NatTableEntry.isTried ip a.pubIpAddr)).foldl
    (fun a e => (a.addEntry drv (e.tried isDummy)).2) a

/-- No connection is refused after its slot was rewritten. -/
def RefusedKept (drv : NatDriver δ) (ip : UInt32) (isDummy : Bool) (a : NatApp κ δ) : Prop :=
  ∀ i e, a.temp[i]? = some e → e.Mentions ip → e.publicIp = a.pubIpAddr →
    Refuses drv (addsBefore drv ip isDummy a i) (e.tried isDummy) → e.tried isDummy = e

theorem flushTempEntry_eq (e : NatTableEntry κ) (s : NatApp κ δ) :
    s.flushTempEntry drv ip true isDummy e =
      if e.Mentions ip then
        if e.publicIp = s.pubIpAddr then
          (if (s.addEntry drv (e.tried isDummy)).1 ≠ 0 then e.tried isDummy else {},
            (s.addEntry drv (e.tried isDummy)).2)
        else ({}, s)
      else (e, s) := by
  unfold NatApp.flushTempEntry
  simp only [true_and]
  by_cases hm : e.Mentions ip
  · have hm' : e.privateIp = ip ∨ e.targetIp = ip := hm
    rw [if_pos hm, if_pos hm']
    by_cases hp : e.publicIp = s.pubIpAddr
    · rw [if_pos hp, if_pos hp]
      change (if (s.addEntry drv (e.tried isDummy)).1 ≠ 0 then
        (e.tried isDummy, (s.addEntry drv (e.tried isDummy)).2)
        else ({}, (s.addEntry drv (e.tried isDummy)).2)) = _
      split
      next => rfl
      next => rfl
    · rw [if_neg hp, if_neg hp]
  · have hm' : ¬(e.privateIp = ip ∨ e.targetIp = ip) := hm
    rw [if_neg hm, if_neg hm']

theorem turns_state (l : List (NatTableEntry κ)) (s : NatApp κ δ) :
    (forCells (NatApp.flushTempEntry drv ip true isDummy) l s).2 =
      (l.filter (NatTableEntry.isTried ip s.pubIpAddr)).foldl
        (fun a e => (a.addEntry drv (e.tried isDummy)).2) s ∧
    (forCells (NatApp.flushTempEntry drv ip true isDummy) l s).2.pubIpAddr = s.pubIpAddr := by
  induction l generalizing s with
  | nil => exact ⟨rfl, rfl⟩
  | cons e l ih =>
    obtain ⟨hstate, hpub⟩ := ih (s.flushTempEntry drv ip true isDummy e).2
    change (forCells _ l (s.flushTempEntry drv ip true isDummy e).2).2 = _ ∧
      (forCells _ l (s.flushTempEntry drv ip true isDummy e).2).2.pubIpAddr = _
    by_cases htry : e.Mentions ip ∧ e.publicIp = s.pubIpAddr
    · have hturn : (s.flushTempEntry drv ip true isDummy e).2 =
          (s.addEntry drv (e.tried isDummy)).2 := by
        rw [flushTempEntry_eq, if_pos htry.1, if_pos htry.2]
      rw [hturn] at hstate hpub ⊢
      rw [addEntry_pubIpAddr] at hstate hpub
      have hsel : e.isTried ip s.pubIpAddr = true := decide_eq_true htry
      rw [List.filter_cons_of_pos hsel]
      exact ⟨hstate, hpub⟩
    · have hturn : (s.flushTempEntry drv ip true isDummy e).2 = s := by
        rw [flushTempEntry_eq]
        split
        next hm => rw [if_neg fun hp => htry ⟨hm, hp⟩]
        next => rfl
      rw [hturn] at hstate hpub ⊢
      rw [List.filter_cons_of_neg (by simpa [NatTableEntry.isTried] using htry)]
      exact ⟨hstate, hpub⟩

theorem slotFlushed_iff (e : NatTableEntry κ) (s : NatApp κ δ) :
    SlotFlushed drv ip isDummy s e (s.flushTempEntry drv ip true isDummy e).1 ↔
      (e.Mentions ip → e.publicIp = s.pubIpAddr → Refuses drv s (e.tried isDummy) →
        e.tried isDummy = e) := by
  rw [flushTempEntry_eq]
  unfold SlotFlushed
  split
  next hm =>
    by_cases hp : e.publicIp = s.pubIpAddr
    · rw [if_pos hp]
      by_cases herr : (s.addEntry drv (e.tried isDummy)).1 ≠ 0
      · rw [if_pos ⟨hp, herr⟩]
        dsimp only
        rw [if_pos herr]
        exact ⟨fun h _ _ _ => h, fun h => h hm hp (addEntry_error_iff.mp herr)⟩
      · rw [if_neg fun h => herr h.2]
        dsimp only
        rw [if_neg herr]
        exact iff_of_true rfl fun _ _ h => absurd (addEntry_error_iff.mpr h) herr
    grind
  next hm => exact iff_of_true rfl fun h => absurd h hm

/-- The flush erases a slot or leaves it as it was, slot by slot, exactly if no connection is
refused after its slot was rewritten. -/
theorem flush_all_or_nothing_iff (drv : NatDriver δ) (ip : UInt32) (isDummy : Bool)
    (a : NatApp κ δ) : AllOrNothing drv ip isDummy a ↔ RefusedKept drv ip isDummy a := by
  have turn : ∀ i, atTurn drv ip isDummy a i = addsBefore drv ip isDummy a i ∧
      (atTurn drv ip isDummy a i).pubIpAddr = a.pubIpAddr := fun i =>
    turns_state (a.temp.take i) a
  have slot : ∀ i e, a.temp[i]? = some e → (a.flushTempEntries drv ip true isDummy).temp[i]? =
      some ((atTurn drv ip isDummy a i).flushTempEntry drv ip true isDummy e).1 := fun i e h =>
    forCells_at h a
  unfold AllOrNothing RefusedKept
  refine forall_congr' fun i => forall_congr' fun e => imp_congr_right fun he => ?_
  rw [slot i e he]
  simp only [Option.some.injEq, exists_eq_left']
  rw [slotFlushed_iff, (turn i).2, (turn i).1]

/-- A connection of 192.168.0.2 that waits for its interface, and a driver that takes no rule. -/
def waitingWeb : NatApp Unit Ledger :=
  ((NatApp.init 1 [] 0 [] {}).addTable (ledgerDriver true 0) 1).2.addTempEntry
    { webEntry 4000 with publicIp := 1 }

/-- The driver refuses the dummy rule, and the slot is left with the public end for its private
one. -/
theorem refused_slot_rewritten : ¬∀ (δ : Type) (drv : NatDriver δ) (ip : UInt32) (isDummy : Bool)
    (a : NatApp Unit δ), AllOrNothing drv ip isDummy a := by
  intro h
  obtain ⟨e', he', hslot⟩ :=
    h Ledger (ledgerDriver true 0) 0xC0A80002 true waitingWeb 0
      { webEntry 4000 with publicIp := 1 } rfl
  obtain rfl := Option.some.inj he'
  unfold SlotFlushed at hslot
  revert hslot
  decide

end DeviceHal.Ipacm
