import DeviceHal.Ipacm.NatAppInv

namespace DeviceHal.Ipacm

open IpaNat Lib

universe u v

variable {κ : Type u} {δ : Type v} {drv : NatDriver δ} {view : DriverView δ} {a : NatApp κ δ}
variable {drift : Int} {ip : UInt32}

/-- No entry of a client in power save is in the table. -/
def PwrExcluded (a : NatApp κ δ) : Prop :=
  ∀ e ∈ a.cache, a.isPwrSaveIf e.privateIp = true → e.enabled = false

/-- The driver makes the tables it is asked for. -/
def TablesServed (drv : NatDriver δ) (a : NatApp κ δ) : NatAppOp κ → Prop
  | .addTable pubIp => (drv.ipaNatAddIpv4Tbl pubIp a.cache.length a.natTableHdl a.dev).1 = 0
  | _ => True

/-- The calls that put no client in power save back into the table: a table for the last address is
made while no such client has an entry, and an address taken out of `PwrSaveIfs` was there once. -/
def SleepersStayOut (a : NatApp κ δ) : NatAppOp κ → Prop
  | .addTable pubIp => pubIp = a.pubIpAddrPre → ∀ e ∈ a.cache, a.isPwrSaveIf e.privateIp = false
  | .resetPwrSaveIf ip => a.natTableHdl ≠ 0 → (a.clearPwrSaveIf ip).isPwrSaveIf ip = true →
      ∀ e ∈ a.cache, e.privateIp ≠ ip
  | _ => True

theorem isPwrSaveIf_iff : a.isPwrSaveIf ip = true ↔ ip ≠ 0 ∧ ip ∈ a.pwrSaveIfs := by
  grind [NatApp.isPwrSaveIf, List.any_eq_true]

theorem isPwrSaveIf_set {i : Nat} {x : UInt32}
    (h : ({ a with pwrSaveIfs := a.pwrSaveIfs.set i x } : NatApp κ δ).isPwrSaveIf ip = true) :
    a.isPwrSaveIf ip = true ∨ ip = x := by
  grind [isPwrSaveIf_iff]

theorem isPwrSaveIf_clear {x : UInt32} (h : (a.clearPwrSaveIf x).isPwrSaveIf ip = true) :
    a.isPwrSaveIf ip = true := by
  rcases isPwrSaveIf_set h with h' | rfl
  · exact h'
  · exact absurd rfl (isPwrSaveIf_iff.mp h).1

theorem PwrExcluded.set (h : PwrExcluded a) (i : Nat) (e : NatTableEntry κ)
    (new : a.isPwrSaveIf e.privateIp = true → e.enabled = false) (dev : δ) (curCnt : Int) :
    PwrExcluded { a with cache := a.cache.set i e, dev, curCnt } := by
  intro k hk hsave
  rcases List.mem_or_eq_of_mem_set hk with hk | rfl
  · exact h k hk hsave
  · exact new hsave

theorem PwrExcluded.of_off (off : ∀ e ∈ a.cache, e.enabled = false) : PwrExcluded a :=
  fun e he _ => off e he

theorem PwrExcluded.deleteTable (h : PwrExcluded a) (pubIp : UInt32) :
    PwrExcluded (a.deleteTable drv pubIp).2 := by
  unfold NatApp.deleteTable
  split
  next => exact h
  next =>
    split
    next => exact h
    next =>
      dsimp only
      split
      next => exact h
      next =>
        refine PwrExcluded.of_off fun e he => ?_
        obtain ⟨k, -, rfl⟩ := List.mem_map.mp he
        rfl

theorem PwrExcluded.deleteEntry (h : PwrExcluded a) (rule : NatTableEntry κ) :
    PwrExcluded (a.deleteEntry drv rule).2 := by
  rcases a.deleteEntry_cases drv rule with ⟨hsame, -⟩ | ⟨e, d, -, hdel, -⟩
  · rw [hsame]
    exact h
  · rw [hdel]
    exact h.set _ {} (fun _ => rfl) d _

theorem PwrExcluded.cacheEntry (h : PwrExcluded a) (rule : NatTableEntry κ) :
    PwrExcluded (a.cacheEntry rule) := by
  rcases a.cacheEntry_cases rule with hsame | ⟨e, -, hcache⟩
  · rw [hsame]
    exact h
  · rw [hcache]
    exact h.set _ (NatTableEntry.fill
      { e with enabled := false, ruleHdl := 0, publicIp := rule.publicIp } rule) (fun _ => rfl) a.dev _

theorem PwrExcluded.addEntry (inv : NatAppInv drift view a) (h : PwrExcluded a)
    (rule : NatTableEntry κ) : PwrExcluded (a.addEntry drv rule).2 := by
  rcases a.addEntry_cases drv rule with hsame | ⟨-, e, hslot, hout⟩
  · rw [hsame]
    exact h
  · generalize a.addEntry drv rule = r at hout ⊢
    cases hout with
    | cached pwr =>
      exact h.set _ (NatTableEntry.fill { e with enabled := false, ruleHdl := 0 } rule)
        (fun _ => rfl) a.dev _
    | @refused ret x d awake call err =>
      have hfree := inv.cache.free e (List.mem_of_getElem? hslot.slot) (findIdx_split hslot.slot).1
      exact h.set _ { e with ruleHdl := x } (fun _ => hfree) d _
    | @added ret x d awake call ok =>
      exact h.set _ (NatTableEntry.fill { e with ruleHdl := x, enabled := true } rule)
        (fun hsave => absurd (Or.inl hsave) awake) d _

theorem PwrExcluded.of_each {b : NatApp κ δ} {p : NatTableEntry κ → Bool}
    {treat : NatTableEntry κ → NatTableEntry κ → Prop}
    (each : List.Forall₂ (fun e e' => (p e = true ∧ treat e e') ∨ (p e = false ∧ e' = e)) a.cache
      b.cache)
    (treated : ∀ e ∈ a.cache, ∀ e', p e = true → treat e e' →
      b.isPwrSaveIf e'.privateIp = true → e'.enabled = false)
    (left : ∀ e ∈ a.cache, p e = false → b.isPwrSaveIf e.privateIp = true → e.enabled = false) :
    PwrExcluded b := by
  intro e' he' hsave
  obtain ⟨e, he, ⟨hp, ht⟩ | ⟨hp, rfl⟩⟩ := forall₂_mem_right each he'
  · exact treated e he e' hp ht hsave
  · exact left e' he hp hsave

theorem NatAppInv.retire_each (laws : DriverLaws drv view) (inv : NatAppInv drift view a)
    {p : NatTableEntry κ → Bool} (hp : ∀ e, p e = true → e.enabled = true)
    (off : NatTableEntry κ → NatTableEntry κ) (hoff : ∀ e, (off e).enabled = false)
    (same : ∀ e, (off e).tuple = e.tuple) :
    List.Forall₂ (fun e e' => (p e = true ∧ e' = off e) ∨ (p e = false ∧ e' = e)) a.cache
      (a.forEntries p (NatApp.retireEntry drv a.natTableHdl off)).cache := by
  refine inv.forEntries_each (TurnKeeps.retire laws hp off hoff same)
    (fun e e' => e' = off e) fun e l s he hc tbl _ => ?_
  unfold NatApp.retireEntry
  generalize hcall : drv.ipaNatDelIpv4Rule a.natTableHdl e.ruleHdl s.1 = r
  obtain ⟨ret, d⟩ := r
  obtain ⟨hret, -⟩ :=
    laws.delRule _ _ _ _ _ _ tbl (hc.carried e List.mem_cons_self (hp e he)) hcall
  dsimp only
  rw [if_neg hret]

theorem PwrExcluded.updatePwrSaveIf (laws : DriverLaws drv view) (inv : NatAppInv drift view a)
    (h : PwrExcluded a) (ip : UInt32) : PwrExcluded (a.updatePwrSaveIf drv ip).2 := by
  unfold NatApp.updatePwrSaveIf
  split
  next => exact h
  next =>
    split
    next => exact h
    next =>
      have inv' : NatAppInv drift view { a with
          pwrSaveIfs := a.pwrSaveIfs.set (a.pwrSaveIfs.findIdx (· = 0)) ip } :=
        ⟨inv.tbl, inv.cache, inv.off⟩
      have each := inv'.retire_each (p := fun e => e.privateIp = ip ∧ e.enabled = true) laws
        (fun e he => (of_decide_eq_true he).2) (fun e => { e with enabled := false, ruleHdl := 0 })
        (fun _ => rfl) fun _ => rfl
      refine PwrExcluded.of_each each (fun _ _ _ _ off _ => off ▸ rfl) fun e he hp hsave => ?_
      rcases isPwrSaveIf_set hsave with hold | rfl
      · exact h e he hold
      grind

theorem PwrExcluded.delEntriesOnClntDiscon (laws : DriverLaws drv view)
    (inv : NatAppInv drift view a) (h : PwrExcluded a) (ip : UInt32) :
    PwrExcluded (a.delEntriesOnClntDiscon drv ip).2 := by
  unfold NatApp.delEntriesOnClntDiscon
  split
  next => exact h
  next =>
    have each := (inv.clearPwrSaveIf ip).retire_each
      (p := fun e => e.privateIp = ip ∧ e.enabled = true) laws
      (fun e he => (of_decide_eq_true he).2) (fun e => { e with enabled := false })
      (fun _ => rfl) fun _ => rfl
    exact PwrExcluded.of_each each (fun _ _ _ _ off _ => off ▸ rfl) fun e he _ hsave =>
      h e he (isPwrSaveIf_clear hsave)

theorem PwrExcluded.delEntriesOnSTAClntDiscon (laws : DriverLaws drv view)
    (inv : NatAppInv drift view a) (h : PwrExcluded a) (ip : UInt32) :
    PwrExcluded (a.delEntriesOnSTAClntDiscon drv ip).2 := by
  unfold NatApp.delEntriesOnSTAClntDiscon
  split
  next => exact h
  next hz =>
    have each := inv.forEntries_each (TurnKeeps.drop laws (drops_cached hz))
      (fun _ e' => e'.enabled = false) fun e l s he hc tbl _ => ?_
    · exact PwrExcluded.of_each each (fun _ _ _ _ off _ => off) fun e he _ hsave => h e he hsave
    · unfold NatApp.dropEntry
      cases hon : e.enabled with
      | false => rfl
      | true =>
        generalize hcall : drv.ipaNatDelIpv4Rule a.natTableHdl e.ruleHdl s.1 = r
        obtain ⟨ret, d⟩ := r
        obtain ⟨hret, -⟩ :=
          laws.delRule _ _ _ _ _ _ tbl (hc.carried e List.mem_cons_self hon) hcall
        simp [hret]

theorem NatAppInv.restore_each (laws : DriverLaws drv view) (inv : NatAppInv drift view a)
    {p : NatTableEntry κ → Bool} (hp : ∀ e, p e = true → e.enabled = false ∧ e.isEmpty = false) :
    List.Forall₂ (fun e e' => (p e = true ∧
        (e'.enabled = true → a.natTableHdl ≠ 0 ∧ e'.privateIp = e.privateIp)) ∨
      (p e = false ∧ e' = e)) a.cache
      (a.forEntries p (NatApp.restoreEntry drv a.natTableHdl)).cache := by
  refine inv.forEntries_each (TurnKeeps.restore laws hp)
    (fun e e' => e'.enabled = true → a.natTableHdl ≠ 0 ∧ e'.privateIp = e.privateIp)
    fun e l s he hc tbl _ => ?_
  unfold NatApp.restoreEntry
  generalize hcall : drv.ipaNatAddIpv4Rule a.natTableHdl e.natRule e.ruleHdl s.1 = r
  obtain ⟨ret, x, d⟩ := r
  dsimp only
  rcases laws.addRule _ _ _ _ _ _ _ tbl hcall with ⟨hret, -⟩ | ⟨hret, hz, -⟩
  · rw [if_pos hret]
    exact fun on => Bool.noConfusion on
  · rw [if_neg hret]
    exact fun _ => ⟨hz, rfl⟩

theorem NatAppInv.restore_all {room : Nat} (laws : DriverLaws drv view)
    (serves : DriverServes drv view room) (inv : NatAppInv drift view a)
    (hz : a.natTableHdl ≠ 0) (fits : a.cache.length ≤ room) {p : NatTableEntry κ → Bool}
    (hp : ∀ e, p e = true → e.enabled = false ∧ e.isEmpty = false) :
    List.Forall₂ (fun e e' => (p e = true ∧ ∃ x, e' = { e with ruleHdl := x, enabled := true }) ∨
      (p e = false ∧ e' = e)) a.cache
      (a.forEntries p (NatApp.restoreEntry drv a.natTableHdl)).cache := by
  refine inv.forEntries_each (TurnKeeps.restore laws hp)
    (fun e e' => ∃ x, e' = { e with ruleHdl := x, enabled := true }) fun e l s he hc tbl hlen => ?_
  have hroom : ¬(drv.ipaNatAddIpv4Rule a.natTableHdl e.natRule e.ruleHdl s.1).1 < 0 := by
    rw [← tbl] at hz ⊢
    refine serves.addRule _ _ _ ((l.filter (·.enabled)).map (·.ruleHdl)).toFinset hz
      (fun x hx => ?_) ?_
    · obtain ⟨f, hf, hon, hx'⟩ := hc.covered x hx
      rcases List.mem_cons.mp hf with rfl | hf
      · exact absurd (hon.symm.trans (hp f he).1) (by decide)
      · exact List.mem_toFinset.mpr
          (List.mem_map.mpr ⟨f, List.mem_filter.mpr ⟨hf, hon⟩, hx'⟩)
    · have hcard := List.toFinset_card_le ((l.filter (·.enabled)).map (·.ruleHdl))
      grind
  simp [NatApp.restoreEntry, if_neg hroom]

theorem PwrExcluded.resetPwrSaveIf (laws : DriverLaws drv view) (inv : NatAppInv drift view a)
    (h : PwrExcluded a) {ip : UInt32} (good : SleepersStayOut a (.resetPwrSaveIf ip)) :
    PwrExcluded (a.resetPwrSaveIf drv ip).2 := by
  unfold NatApp.resetPwrSaveIf
  split
  next => exact h
  next hz =>
    have each := (inv.clearPwrSaveIf ip).restore_each
      (p := fun e => e.privateIp = ip ∧ e.enabled = false) laws fun e he =>
        restores_cached (q := e.privateIp = ip) (fun h => h ▸ hz) he
    refine PwrExcluded.of_each each (fun e he e' hp treat hsave => ?_) fun e he _ hsave =>
      h e he (isPwrSaveIf_clear hsave)
    by_contra hon
    obtain ⟨hhdl, hip⟩ := treat (by simpa using hon)
    have hip' : e.privateIp = ip := (of_decide_eq_true hp).1
    rw [hip, hip'] at hsave
    exact good hhdl hsave e he hip'

theorem PwrExcluded.addTable (laws : DriverLaws drv view) (inv : NatAppInv drift view a)
    (single : a.natTableHdl = 0) {pubIp : UInt32} (good : SleepersStayOut a (.addTable pubIp)) :
    PwrExcluded (a.addTable drv pubIp).2 := by
  obtain ⟨ret, hdl, d, call, hout⟩ := a.addTable_cases drv pubIp
  have inv' := inv.withTable laws single call
  have off : ∀ e ∈ (a.withTable hdl d).cache, e.enabled = false := inv.off single
  rcases hout with ⟨-, hadd⟩ | ⟨-, hpre, hadd⟩ | ⟨-, -, hadd⟩
  · rw [hadd]
    exact PwrExcluded.of_off off
  · rw [hadd, restored_eq drv off]
    have each := inv'.restore_each (p := fun e => e.privateIp ≠ 0 ∧ e.enabled = false) laws
      fun e he => restores_cached (fun h => h) he
    refine PwrExcluded.of_each each (fun e he e' _ treat hsave => ?_) fun e he _ _ => off e he
    by_contra hon
    obtain ⟨-, hip⟩ := treat (by simpa using hon)
    rw [hip] at hsave
    exact Bool.noConfusion (hsave.symm.trans (good hpre e he))
  · rw [hadd]
    exact PwrExcluded.of_off off

theorem NatAppInv.restore_breaks {room : Nat} (laws : DriverLaws drv view)
    (serves : DriverServes drv view room) (inv : NatAppInv drift view a)
    (hz : a.natTableHdl ≠ 0) (fits : a.cache.length ≤ room) {p : NatTableEntry κ → Bool}
    (hp : ∀ e, p e = true → e.enabled = false ∧ e.isEmpty = false) {e : NatTableEntry κ}
    (he : e ∈ a.cache) (treated : p e = true) (save : a.isPwrSaveIf e.privateIp = true) :
    ¬PwrExcluded (a.forEntries p (NatApp.restoreEntry drv a.natTableHdl)) := by
  intro h
  obtain ⟨e', he', ⟨-, x, rfl⟩ | ⟨hpe, -⟩⟩ :=
    forall₂_mem_left (inv.restore_all laws serves hz fits hp) he
  · have off := h _ he' save
    exact Bool.noConfusion off
  · exact absurd (treated.symm.trans hpe) (by decide)

/-- What the calls keep: agreement but for the counter, the exclusion, and the size. -/
structure PwrInv (view : DriverView δ) (room : Nat) (a : NatApp κ δ) : Prop where
  agree : ∃ drift, NatAppInv drift view a
  excluded : PwrExcluded a
  fits : a.cache.length ≤ room

theorem forEntries_length (p : NatTableEntry κ → Bool)
    (f : NatTableEntry κ → δ × Int → NatTableEntry κ × δ × Int) :
    (a.forEntries p f).cache.length = a.cache.length :=
  forCells_length a.cache (a.dev, a.curCnt)

theorem addEntry_length (rule : NatTableEntry κ) :
    (a.addEntry drv rule).2.cache.length = a.cache.length := by
  rcases a.addEntry_cases drv rule with hsame | ⟨-, e, hslot, hout⟩
  · rw [hsame]
  · generalize a.addEntry drv rule = r at hout ⊢
    cases hout with
    | cached pwr => exact List.length_set
    | refused awake call err => exact List.length_set
    | added awake call ok => exact List.length_set

theorem addTable_length (pubIp : UInt32) :
    (a.addTable drv pubIp).2.cache.length = a.cache.length := by
  obtain ⟨ret, hdl, d, -, ⟨-, hadd⟩ | ⟨-, -, hadd⟩ | ⟨-, -, hadd⟩⟩ := a.addTable_cases drv pubIp
  · rw [hadd]
    rfl
  · rw [hadd]
    exact forEntries_length _ _
  · rw [hadd]
    rfl

theorem PwrInv.addEntry {room : Nat} (laws : DriverLaws drv view) (h : PwrInv view room a)
    (rule : NatTableEntry κ) : PwrInv view room (a.addEntry drv rule).2 := by
  obtain ⟨drift, inv⟩ := h.agree
  exact ⟨⟨drift, inv.addEntry laws rule⟩, h.excluded.addEntry inv rule,
    (addEntry_length rule).trans_le h.fits⟩

theorem PwrInv.flushTempEntries {room : Nat} (laws : DriverLaws drv view) (h : PwrInv view room a)
    (ip : UInt32) (isAdd isDummy : Bool) :
    PwrInv view room (a.flushTempEntries drv ip isAdd isDummy) := by
  have loop := forCells_invariant (fun (_ : List (NatTableEntry κ)) (a : NatApp κ δ) =>
    PwrInv view room a) (f := NatApp.flushTempEntry drv ip isAdd isDummy) ?_ (l := a.temp) h
  · exact ⟨loop.agree.imp fun _ inv => inv.withTemp _, loop.excluded, loop.fits⟩
  · intro _ e _ a h
    rcases a.flushTempEntry_cases drv ip isAdd isDummy e with he | he | ⟨e', -, ⟨-, he⟩ | ⟨-, he⟩⟩
    · rw [he]
      exact h
    · rw [he]
      exact h
    · rw [he]
      exact h.addEntry laws e'
    · rw [he]
      exact h.addEntry laws e'

theorem natAppStep_length (op : NatAppOp κ) :
    (natAppStep drv a op).cache.length = a.cache.length := by
  cases op with
  | addTable pubIp => exact addTable_length pubIp
  | deleteTable pubIp =>
    change (a.deleteTable drv pubIp).2.cache.length = a.cache.length
    unfold NatApp.deleteTable
    split
    next => rfl
    next =>
      split
      next => rfl
      next =>
        dsimp only
        split
        next => rfl
        next => exact List.length_map _
  | addEntry rule => exact addEntry_length rule
  | deleteEntry rule =>
    rcases a.deleteEntry_cases drv rule with ⟨hsame, -⟩ | ⟨e, d, -, hdel, -⟩
    · exact congrArg (fun b : NatApp κ δ => b.cache.length) hsame
    · exact (congrArg (fun b : NatApp κ δ => b.cache.length) hdel).trans List.length_set
  | cacheEntry rule =>
    rcases a.cacheEntry_cases rule with hsame | ⟨e, -, hcache⟩
    · exact congrArg (fun b : NatApp κ δ => b.cache.length) hsame
    · exact (congrArg (fun b : NatApp κ δ => b.cache.length) hcache).trans List.length_set
  | updatePwrSaveIf ip =>
    change (a.updatePwrSaveIf drv ip).2.cache.length = a.cache.length
    unfold NatApp.updatePwrSaveIf
    split
    next => rfl
    next =>
      split
      next => rfl
      next => exact forEntries_length _ _
  | resetPwrSaveIf ip =>
    change (a.resetPwrSaveIf drv ip).2.cache.length = a.cache.length
    unfold NatApp.resetPwrSaveIf
    split
    next => rfl
    next => exact forEntries_length _ _
  | delEntriesOnClntDiscon ip =>
    change (a.delEntriesOnClntDiscon drv ip).2.cache.length = a.cache.length
    unfold NatApp.delEntriesOnClntDiscon
    split
    next => rfl
    next => exact forEntries_length _ _
  | delEntriesOnSTAClntDiscon ip =>
    change (a.delEntriesOnSTAClntDiscon drv ip).2.cache.length = a.cache.length
    unfold NatApp.delEntriesOnSTAClntDiscon
    split
    next => rfl
    next => exact forEntries_length _ _
  | addTempEntry e =>
    change (a.addTempEntry e).cache.length = a.cache.length
    unfold NatApp.addTempEntry
    repeat' split
    all_goals rfl
  | deleteTempEntry e => rfl
  | flushTempEntries ip isAdd isDummy =>
    have loop := forCells_invariant (fun (_ : List (NatTableEntry κ)) (b : NatApp κ δ) =>
      b.cache.length = a.cache.length) (f := NatApp.flushTempEntry drv ip isAdd isDummy)
      (fun _ e _ b h => ?_) (l := a.temp) (s := a) rfl
    · exact loop
    · rcases b.flushTempEntry_cases drv ip isAdd isDummy e with
        he | he | ⟨e', -, ⟨-, he⟩ | ⟨-, he⟩⟩
      · rw [he]
        exact h
      · rw [he]
        exact h
      · rw [he]
        exact (addEntry_length e').trans h
      · rw [he]
        exact (addEntry_length e').trans h

theorem PwrInv.step {room : Nat} (laws : DriverLaws drv view) (h : PwrInv view room a)
    {op : NatAppOp κ} (alt : Alternates a op) (good : SleepersStayOut a op) :
    PwrInv view room (natAppStep drv a op) := by
  obtain ⟨drift, inv⟩ := h.agree
  obtain ⟨drift', inv', -⟩ := inv.step laws alt
  refine ⟨⟨drift', inv'⟩, ?_, (natAppStep_length op).trans_le h.fits⟩
  cases op with
  | addTable pubIp => exact PwrExcluded.addTable laws inv alt good
  | deleteTable pubIp => exact h.excluded.deleteTable pubIp
  | addEntry rule => exact h.excluded.addEntry inv rule
  | deleteEntry rule => exact h.excluded.deleteEntry rule
  | cacheEntry rule => exact h.excluded.cacheEntry rule
  | updatePwrSaveIf ip => exact h.excluded.updatePwrSaveIf laws inv ip
  | resetPwrSaveIf ip => exact h.excluded.resetPwrSaveIf laws inv good
  | delEntriesOnClntDiscon ip => exact h.excluded.delEntriesOnClntDiscon laws inv ip
  | delEntriesOnSTAClntDiscon ip => exact h.excluded.delEntriesOnSTAClntDiscon laws inv ip
  | addTempEntry e =>
    have same : (a.addTempEntry e).cache = a.cache ∧ (a.addTempEntry e).pwrSaveIfs = a.pwrSaveIfs := by
      unfold NatApp.addTempEntry
      repeat' split
      all_goals exact ⟨rfl, rfl⟩
    intro k hk hsave
    change k ∈ (a.addTempEntry e).cache at hk
    rw [same.1] at hk
    refine h.excluded k hk (isPwrSaveIf_iff.mpr ?_)
    rw [← same.2]
    exact isPwrSaveIf_iff.mp hsave
  | deleteTempEntry e => exact h.excluded
  | flushTempEntries ip isAdd isDummy => exact (h.flushTempEntries laws ip isAdd isDummy).excluded

theorem alternates_of_served {room : Nat} (serves : DriverServes drv view room)
    (inv : NatAppInv drift view a) {op : NatAppOp κ} (served : TablesServed drv a op) :
    Alternates a op := by
  cases op with
  | addTable pubIp =>
    change (drv.ipaNatAddIpv4Tbl pubIp a.cache.length a.natTableHdl a.dev).1 = 0 at served
    rw [← inv.tbl] at served
    exact inv.tbl.symm.trans ((serves.addTbl _ _ _).mp served)
  | _ => trivial

theorem PwrInv.breaks {room : Nat} (laws : DriverLaws drv view)
    (serves : DriverServes drv view room) (h : PwrInv view room a) {op : NatAppOp κ}
    (served : TablesServed drv a op) (bad : ¬SleepersStayOut a op) :
    ¬PwrExcluded (natAppStep drv a op) := by
  obtain ⟨drift, inv⟩ := h.agree
  cases op with
  | addTable pubIp =>
    have single : a.natTableHdl = 0 := alternates_of_served serves inv served
    unfold SleepersStayOut at bad
    push Not at bad
    obtain ⟨hpre, e, he, hsave⟩ := bad
    have hsave' : a.isPwrSaveIf e.privateIp = true := by simpa using hsave
    obtain ⟨ret, hdl, d, call, hout⟩ := a.addTable_cases drv pubIp
    have hret : ret = 0 := by
      change (drv.ipaNatAddIpv4Tbl pubIp a.cache.length a.natTableHdl a.dev).1 = 0 at served
      rw [call] at served
      exact served
    have inv' := inv.withTable laws single call
    have off : ∀ e ∈ (a.withTable hdl d).cache, e.enabled = false := inv.off single
    have hz : (a.withTable hdl d).natTableHdl ≠ 0 := by
      rw [single] at call
      rcases laws.addTbl _ _ _ _ _ _ (inv.tbl.trans single) call with ⟨-, hz, -⟩ | ⟨hno, -⟩
      · exact hz
      · exact absurd hret hno
    change ¬PwrExcluded (a.addTable drv pubIp).2
    rcases hout with ⟨hno, -⟩ | ⟨-, -, hadd⟩ | ⟨-, hno, -⟩
    · exact absurd hret hno
    · rw [hadd, restored_eq drv off]
      exact inv'.restore_breaks laws serves hz h.fits
        (fun e he => restores_cached (q := e.privateIp ≠ 0) (fun h => h) he) he
        (decide_eq_true ⟨(isPwrSaveIf_iff.mp hsave').1, off e he⟩) hsave'
    · exact absurd hpre hno
  | resetPwrSaveIf ip =>
    unfold SleepersStayOut at bad
    push Not at bad
    obtain ⟨hz, hsave, e, he, rfl⟩ := bad
    have hip := (isPwrSaveIf_iff.mp hsave).1
    have off := h.excluded e he (isPwrSaveIf_clear hsave)
    change ¬PwrExcluded (a.resetPwrSaveIf drv e.privateIp).2
    unfold NatApp.resetPwrSaveIf
    rw [if_neg hip]
    exact (inv.clearPwrSaveIf e.privateIp).restore_breaks laws serves hz h.fits
      (fun f hf => restores_cached (q := f.privateIp = e.privateIp) (fun h => h ▸ hip) hf) he
      (decide_eq_true ⟨rfl, off⟩) hsave
  | _ => exact absurd trivial bad

/-- All along a run no entry of a client in power save is in the table exactly if no call puts one
back. -/
theorem pwr_excluded_iff {room : Nat} (laws : DriverLaws drv view)
    (serves : DriverServes drv view room) {n : Nat} (fits : n ≤ room) (algPorts : List IpacmAlg)
    (pre : UInt32) (ifs : List UInt32) {dev : δ} (tbl : view.tbl dev = 0)
    (none : ∀ x, view.live dev x = none) {ops : List (NatAppOp κ)}
    (served : OpsMeet (natAppRun drv) (TablesServed drv) (NatApp.init n algPorts pre ifs dev) ops) :
    Always (natAppRun drv) PwrExcluded (NatApp.init n algPorts pre ifs dev) ops ↔
      OpsMeet (natAppRun drv) SleepersStayOut (NatApp.init n algPorts pre ifs dev) ops := by
  have inv := NatAppInv.init (κ := κ) n algPorts pre ifs tbl none
  have first : PwrInv view room (NatApp.init n algPorts pre ifs dev : NatApp κ δ) :=
    ⟨⟨0, inv⟩, PwrExcluded.of_off (inv.off rfl), by simpa [NatApp.init] using fits⟩
  refine always_iff (fun a h => PwrInv.excluded h) (fun a op h served good => ?_)
    (fun a op h served bad => ⟨_, rfl, h.breaks laws serves served bad⟩) first served
  obtain ⟨drift, inv⟩ := h.agree
  exact ⟨_, rfl, h.step laws (alternates_of_served serves inv served) good⟩

theorem pwr_excluded_iff_sleep : Always (natAppRun (ledgerDriver true 4)) PwrExcluded
    (NatApp.init 2 [] 0 (List.replicate 32 0) {})
    [.addTable 1, .addEntry (webEntry 1), .updatePwrSaveIf 0xC0A80002] := by
  refine (pwr_excluded_iff (ledgerDriver_laws true 4) (ledgerDriver_serves (by decide)) (by decide)
    [] 0 _ rfl (fun _ => rfl) ?_).mpr ?_
  · exact ⟨rfl, fun _ _ => ⟨trivial, fun _ _ => ⟨trivial, fun _ _ => trivial⟩⟩⟩
  · refine ⟨fun _ e he => ?_, fun _ _ => ⟨trivial, fun _ _ => ⟨trivial, fun _ _ => trivial⟩⟩⟩
    rw [List.eq_of_mem_replicate he]
    rfl

/-- A client goes to sleep, the WAN goes down and up again with the same address. -/
theorem sleeper_restored : ¬∀ (δ : Type) (drv : NatDriver δ) (view : DriverView δ) (room n : Nat)
    (algPorts : List IpacmAlg) (pre : UInt32) (dev : δ) (ops : List (NatAppOp Unit)),
    DriverLaws drv view → DriverServes drv view room → n ≤ room → view.tbl dev = 0 →
    (∀ x, view.live dev x = none) →
    OpsMeet (natAppRun drv) (TablesServed drv)
      (NatApp.init n algPorts pre (List.replicate ipaMaxNumWifiClients 0) dev) ops →
    Always (natAppRun drv) PwrExcluded
      (NatApp.init n algPorts pre (List.replicate ipaMaxNumWifiClients 0) dev) ops := by
  intro h
  have always := h Ledger (ledgerDriver true 4) Ledger.view 4 1 [] 0 {}
    [.addTable 1, .addEntry (webEntry 1), .updatePwrSaveIf 0xC0A80002, .deleteTable 1, .addTable 1]
    (ledgerDriver_laws true 4) (ledgerDriver_serves (by decide)) (by decide) rfl (fun _ => rfl) ?_
  · have last := ((((always.2 _ rfl).2 _ rfl).2 _ rfl).2 _ rfl).2 _ rfl
    unfold Always PwrExcluded at last
    revert last
    decide
  · refine ⟨rfl, fun _ hb => ⟨trivial, fun _ hc => ⟨trivial, fun _ hd => ⟨trivial, fun _ he =>
      ⟨?_, fun _ _ => trivial⟩⟩⟩⟩⟩
    cases hb
    cases hc
    cases hd
    cases he
    rfl

end DeviceHal.Ipacm
