import DeviceHal.Ipacm.PwrSave

namespace DeviceHal.Ipacm

open IpaNat Lib

universe u v

variable {κ : Type u} {δ : Type v} {drv : NatDriver δ} {view : DriverView δ} {a b : NatApp κ δ}
variable {drift : Int} {room : Nat} {r : NatTableEntry κ} {on : Bool} {ip : UInt32}

/-- `AddEntry` takes the connection but keeps it out of the table: one of its ends is asleep. -/
structure CachedAsleep (drv : NatDriver δ) (a : NatApp κ δ) (r : NatTableEntry κ) : Prop where
  valid : r.isInvalid = false
  asleep : a.PwrSaved r
  accepted : (a.addEntry drv r).1 = 0

/-- The calls after which the table is still up and the connection not deleted. -/
def Spares (drv : NatDriver δ) (r : NatTableEntry κ) (a : NatApp κ δ) (op : NatAppOp κ) : Prop :=
  Alternates a op ∧ (natAppStep drv a op).natTableHdl ≠ 0 ∧
    match op with
    | .deleteEntry rule => rule.tuple ≠ r.tuple
    | .delEntriesOnClntDiscon ip => ip ≠ r.privateIp
    | .delEntriesOnSTAClntDiscon ip => ip ≠ r.targetIp
    | _ => True

/-- Whether the events say that an address sleeps. -/
def sleepsNext (ip : UInt32) (asleep : Bool) : NatAppOp κ → Bool
  | .updatePwrSaveIf x => x = ip || asleep
  | .resetPwrSaveIf x => x ≠ ip && asleep
  | _ => asleep

def sleepsAfter (ip : UInt32) (asleep : Bool) (ops : List (NatAppOp κ)) : Bool :=
  ops.foldl (sleepsNext ip) asleep

/-- Both ends of the connection are awake after the calls. -/
def Woken (a : NatApp κ δ) (r : NatTableEntry κ) (ops : List (NatAppOp κ)) : Prop :=
  sleepsAfter r.privateIp (a.isPwrSaveIf r.privateIp) ops = false ∧
    sleepsAfter r.targetIp (a.isPwrSaveIf r.targetIp) ops = false

/-- The connection is enabled, and its rule is live in the driver. -/
def InTable (view : DriverView δ) (a : NatApp κ δ) (r : NatTableEntry κ) : Prop :=
  ∃ e ∈ a.cache, e.natRule = r.natRule ∧ e.enabled = true ∧
    view.live a.dev e.ruleHdl = some r.natRule

/-- Whatever is called after the add, the connection is in the table once its ends are awake. -/
def WakesUp (drv : NatDriver δ) (view : DriverView δ) (a : NatApp κ δ) (r : NatTableEntry κ) :
    Prop :=
  ∀ ops t, OpsMeet (natAppRun drv) (Spares drv r) (a.addEntry drv r).2 ops →
    runOps (natAppRun drv) (a.addEntry drv r).2 ops = some t → Woken a r ops → InTable view t r

/-- The connection has an entry, enabled or not. -/
def KeptAs (r : NatTableEntry κ) (on : Bool) (a : NatApp κ δ) : Prop :=
  ∃ e ∈ a.cache, e.natRule = r.natRule ∧ e.enabled = on

variable {e : NatTableEntry κ}

theorem tuple_eq_of_natRule (h : e.natRule = r.natRule) : e.tuple = r.tuple := by
  grind [NatTableEntry.natRule, NatTableEntry.tuple]

theorem privateIp_eq_of_natRule (h : e.natRule = r.natRule) : e.privateIp = r.privateIp :=
  congrArg NatTuple.privateIp (tuple_eq_of_natRule h)

theorem targetIp_eq_of_natRule (h : e.natRule = r.natRule) : e.targetIp = r.targetIp :=
  congrArg NatTuple.targetIp (tuple_eq_of_natRule h)

theorem KeptAs.congr (h : KeptAs r on a) (same : b.cache = a.cache) : KeptAs r on b := by
  obtain ⟨e, he, hr, hon⟩ := h
  exact ⟨e, same ▸ he, hr, hon⟩

theorem KeptAs.set {p : NatTableEntry κ → Bool} {e' : NatTableEntry κ} (h : KeptAs r on a)
    (found : a.cache[a.cache.findIdx p]? = some e')
    (other : ∀ e : NatTableEntry κ, e.natRule = r.natRule → p e = false) (c : NatTableEntry κ)
    (after : b.cache = a.cache.set (a.cache.findIdx p) c) : KeptAs r on b := by
  obtain ⟨e, he, hr, hon⟩ := h
  refine ⟨e, ?_, hr, hon⟩
  rw [after]
  exact mem_set_findIdx found he (other e hr) c

theorem KeptAs.of_each {treat : NatTableEntry κ → NatTableEntry κ → Prop}
    {p : NatTableEntry κ → Bool} (h : KeptAs r on a)
    (each : List.Forall₂ (fun e e' => (p e = true ∧ treat e e') ∨ (p e = false ∧ e' = e)) a.cache
      b.cache)
    (other : ∀ e : NatTableEntry κ, e.natRule = r.natRule → e.enabled = on → p e = false) :
    KeptAs r on b := by
  obtain ⟨e, he, hr, hon⟩ := h
  obtain ⟨e', he', ⟨hp, -⟩ | ⟨-, rfl⟩⟩ := forall₂_mem_left each he
  · exact absurd (hp.symm.trans (other e hr hon)) (by decide)
  · exact ⟨e', he', hr, hon⟩

section Calls

variable (valid : r.isInvalid = false)
include valid

theorem not_free_of_natRule (e : NatTableEntry κ) (h : e.natRule = r.natRule) :
    e.isEmpty = false :=
  (NatTableEntry.isEmpty_congr (tuple_eq_of_natRule h)).trans (NatTableEntry.isEmpty_of_valid valid)

theorem KeptAs.addEntry (h : KeptAs r on a) (rule : NatTableEntry κ) :
    KeptAs r on (a.addEntry drv rule).2 := by
  rcases a.addEntry_cases drv rule with hsame | ⟨-, e, hslot, hout⟩
  · rw [hsame]
    exact h
  · generalize a.addEntry drv rule = q at hout ⊢
    cases hout with
    | cached pwr => exact h.set hslot.slot (not_free_of_natRule valid) _ rfl
    | refused awake call err => exact h.set hslot.slot (not_free_of_natRule valid) _ rfl
    | added awake call ok => exact h.set hslot.slot (not_free_of_natRule valid) _ rfl

theorem KeptAs.cacheEntry (h : KeptAs r on a) (rule : NatTableEntry κ) :
    KeptAs r on (a.cacheEntry rule) := by
  rcases a.cacheEntry_cases rule with hsame | ⟨e, hslot, hcache⟩
  · rw [hsame]
    exact h
  · rw [hcache]
    exact h.set hslot.slot (not_free_of_natRule valid) _ rfl

theorem KeptAs.flushTempEntries (h : KeptAs r on a) (ip : UInt32) (isAdd isDummy : Bool) :
    KeptAs r on (a.flushTempEntries drv ip isAdd isDummy) := by
  have loop := forCells_invariant (fun (_ : List (NatTableEntry κ)) (a : NatApp κ δ) =>
    KeptAs r on a) (f := NatApp.flushTempEntry drv ip isAdd isDummy) ?_ (l := a.temp) h
  · exact loop.congr rfl
  · intro _ e _ a h
    rcases a.flushTempEntry_cases drv ip isAdd isDummy e with he | he | ⟨e', -, ⟨-, he⟩ | ⟨-, he⟩⟩
    · rw [he]
      exact h
    · rw [he]
      exact h
    · rw [he]
      exact h.addEntry valid e'
    · rw [he]
      exact h.addEntry valid e'

end Calls

theorem KeptAs.deleteEntry (h : KeptAs r on a) {rule : NatTableEntry κ}
    (other : rule.tuple ≠ r.tuple) : KeptAs r on (a.deleteEntry drv rule).2 := by
  rcases a.deleteEntry_cases drv rule with ⟨hsame, -⟩ | ⟨e, d, he, hdel, -⟩
  · rw [hsame]
    exact h
  · rw [hdel]
    refine h.set he (fun k hk => ?_) {} rfl
    rw [tuple_eq_of_natRule hk]
    exact decide_eq_false other.symm

theorem KeptAs.deleteTable (h : KeptAs r on a) {pubIp : UInt32}
    (up : (a.deleteTable drv pubIp).2.natTableHdl ≠ 0) :
    KeptAs r on (a.deleteTable drv pubIp).2 := by
  unfold NatApp.deleteTable at up ⊢
  split
  next => exact h
  next hz =>
    rw [if_neg hz] at up
    split
    next => exact h
    next hip =>
      rw [if_neg hip] at up
      dsimp only at up ⊢
      split
      next => exact h
      next hret =>
        rw [if_neg hret] at up
        exact absurd rfl up

theorem KeptAs.updatePwrSaveIf (laws : DriverLaws drv view) (inv : NatAppInv drift view a)
    (h : KeptAs r on a) (ip : UInt32) :
    KeptAs r on (a.updatePwrSaveIf drv ip).2 ∨
      (ip = r.privateIp ∧ KeptAs r false (a.updatePwrSaveIf drv ip).2) := by
  unfold NatApp.updatePwrSaveIf
  split
  next => exact Or.inl h
  next =>
    split
    next => exact Or.inl h
    next =>
      have inv' : NatAppInv drift view { a with
          pwrSaveIfs := a.pwrSaveIfs.set (a.pwrSaveIfs.findIdx (· = 0)) ip } :=
        ⟨inv.tbl, inv.cache, inv.off⟩
      have each := inv'.retire_each (p := fun e => e.privateIp = ip ∧ e.enabled = true) laws
        (fun e he => (of_decide_eq_true he).2) (fun e => { e with enabled := false, ruleHdl := 0 })
        (fun _ => rfl) fun _ => rfl
      obtain ⟨e, he, hr, hon⟩ := h
      obtain ⟨e', he', ⟨hp, rfl⟩ | ⟨-, rfl⟩⟩ := forall₂_mem_left each he
      · have hip : e.privateIp = ip := (of_decide_eq_true hp).1
        exact Or.inr ⟨hip.symm.trans (privateIp_eq_of_natRule hr), _, he', hr, rfl⟩
      · exact Or.inl ⟨e', he', hr, hon⟩

theorem KeptAs.delEntriesOnClntDiscon (laws : DriverLaws drv view) (inv : NatAppInv drift view a)
    (h : KeptAs r on a) (other : ip ≠ r.privateIp) :
    KeptAs r on (a.delEntriesOnClntDiscon drv ip).2 := by
  unfold NatApp.delEntriesOnClntDiscon
  split
  next => exact h
  next =>
    have each := (inv.clearPwrSaveIf ip).retire_each
      (p := fun e => e.privateIp = ip ∧ e.enabled = true) laws
      (fun e he => (of_decide_eq_true he).2) (fun e => { e with enabled := false })
      (fun _ => rfl) fun _ => rfl
    refine KeptAs.of_each (h.congr (b := a.clearPwrSaveIf ip) rfl) each fun e hr _ => ?_
    exact decide_eq_false fun he => other (he.1.symm.trans (privateIp_eq_of_natRule hr))

theorem KeptAs.delEntriesOnSTAClntDiscon (laws : DriverLaws drv view)
    (inv : NatAppInv drift view a) (h : KeptAs r on a) (other : ip ≠ r.targetIp) :
    KeptAs r on (a.delEntriesOnSTAClntDiscon drv ip).2 := by
  unfold NatApp.delEntriesOnSTAClntDiscon
  split
  next => exact h
  next hz =>
    have each := inv.forEntries_each (TurnKeeps.drop laws (drops_cached hz)) (fun _ _ => True)
      fun _ _ _ _ _ _ _ => trivial
    refine h.of_each each fun e hr _ => ?_
    exact decide_eq_false fun he => other (he.symm.trans (targetIp_eq_of_natRule hr))

theorem NatAppInv.resetPwrSaveIf_each (laws : DriverLaws drv view)
    (serves : DriverServes drv view room) (inv : NatAppInv drift view a)
    (up : a.natTableHdl ≠ 0) (fits : a.cache.length ≤ room) (hz : ip ≠ 0) :
    List.Forall₂ (fun e e' =>
      (decide (e.privateIp = ip ∧ e.enabled = false) = true ∧
        ∃ x, e' = { e with ruleHdl := x, enabled := true }) ∨
      (decide (e.privateIp = ip ∧ e.enabled = false) = false ∧ e' = e)) a.cache
      (a.resetPwrSaveIf drv ip).2.cache := by
  unfold NatApp.resetPwrSaveIf
  rw [if_neg hz]
  exact (inv.clearPwrSaveIf ip).restore_all laws serves up fits fun e he =>
    restores_cached (q := e.privateIp = ip) (fun h => h ▸ hz) he

theorem KeptAs.resetOther (laws : DriverLaws drv view) (serves : DriverServes drv view room)
    (inv : NatAppInv drift view a) (up : a.natTableHdl ≠ 0) (fits : a.cache.length ≤ room)
    (h : KeptAs r on a) (other : ip ≠ r.privateIp) : KeptAs r on (a.resetPwrSaveIf drv ip).2 := by
  by_cases hz : ip = 0
  · unfold NatApp.resetPwrSaveIf
    rw [if_pos hz]
    exact h
  · refine h.of_each (inv.resetPwrSaveIf_each laws serves up fits hz) fun e hr _ => ?_
    exact decide_eq_false fun he => other (he.1.symm.trans (privateIp_eq_of_natRule hr))

theorem KeptAs.resetOwn (laws : DriverLaws drv view) (serves : DriverServes drv view room)
    (inv : NatAppInv drift view a) (up : a.natTableHdl ≠ 0) (fits : a.cache.length ≤ room)
    (valid : r.isInvalid = false) (h : KeptAs r on a) :
    KeptAs r true (a.resetPwrSaveIf drv r.privateIp).2 := by
  have hz : r.privateIp ≠ 0 := fun h0 => by simp [NatTableEntry.isInvalid, h0] at valid
  obtain ⟨e, he, hr, -⟩ := h
  obtain ⟨e', he', ⟨-, x, rfl⟩ | ⟨hp, rfl⟩⟩ :=
    forall₂_mem_left (inv.resetPwrSaveIf_each laws serves up fits hz) he
  · exact ⟨_, he', hr, rfl⟩
  · refine ⟨e', he', hr, ?_⟩
    by_contra hoff
    exact absurd ⟨privateIp_eq_of_natRule hr, by simpa using hoff⟩ (of_decide_eq_false hp)

/-- What the calls keep besides the entry: agreement but for the counter, the table, the size. -/
structure WakeInv (view : DriverView δ) (room : Nat) (a : NatApp κ δ) : Prop where
  agree : ∃ drift, NatAppInv drift view a
  up : a.natTableHdl ≠ 0
  fits : a.cache.length ≤ room

variable {op : NatAppOp κ}

theorem WakeInv.step (laws : DriverLaws drv view) (h : WakeInv view room a)
    (spares : Spares drv r a op) : WakeInv view room (natAppStep drv a op) := by
  obtain ⟨drift, inv⟩ := h.agree
  obtain ⟨drift', inv', -⟩ := inv.step laws spares.1
  exact ⟨⟨drift', inv'⟩, spares.2.1, (natAppStep_length op).trans_le h.fits⟩

theorem KeptAs.step (laws : DriverLaws drv view) (serves : DriverServes drv view room)
    (inv : WakeInv view room a) (valid : r.isInvalid = false) (h : KeptAs r on a)
    (spares : Spares drv r a op) (other : op ≠ .resetPwrSaveIf r.privateIp) :
    KeptAs r on (natAppStep drv a op) ∨
      (op = .updatePwrSaveIf r.privateIp ∧ KeptAs r false (natAppStep drv a op)) := by
  obtain ⟨drift, agree⟩ := inv.agree
  obtain ⟨alt, up, spared⟩ := spares
  cases op with
  | addTable pubIp => exact absurd alt inv.up
  | deleteTable pubIp => exact Or.inl (h.deleteTable up)
  | addEntry rule => exact Or.inl (h.addEntry valid rule)
  | deleteEntry rule => exact Or.inl (h.deleteEntry spared)
  | cacheEntry rule => exact Or.inl (h.cacheEntry valid rule)
  | updatePwrSaveIf ip =>
    rcases h.updatePwrSaveIf laws agree ip with hsame | ⟨rfl, hoff⟩
    · exact Or.inl hsame
    · exact Or.inr ⟨rfl, hoff⟩
  | resetPwrSaveIf ip =>
    have hne : ip ≠ r.privateIp := fun he => other (by rw [he])
    exact Or.inl (h.resetOther laws serves agree inv.up inv.fits hne)
  | delEntriesOnClntDiscon ip => exact Or.inl (h.delEntriesOnClntDiscon laws agree spared)
  | delEntriesOnSTAClntDiscon ip => exact Or.inl (h.delEntriesOnSTAClntDiscon laws agree spared)
  | addTempEntry e =>
    refine Or.inl (h.congr ?_)
    change (a.addTempEntry e).cache = a.cache
    unfold NatApp.addTempEntry
    repeat' split
    all_goals rfl
  | deleteTempEntry e => exact Or.inl (h.congr rfl)
  | flushTempEntries ip isAdd isDummy => exact Or.inl (h.flushTempEntries valid ip isAdd isDummy)

variable {ops : List (NatAppOp κ)}

theorem KeptAs.stays_off (laws : DriverLaws drv view) (serves : DriverServes drv view room)
    (inv : WakeInv view room a) (valid : r.isInvalid = false) (h : KeptAs r false a)
    {t : NatApp κ δ}
    (meet : OpsMeet (natAppRun drv) (Spares drv r) a ops)
    (run : runOps (natAppRun drv) a ops = some t)
    (never : NatAppOp.resetPwrSaveIf r.privateIp ∉ ops) : KeptAs r false t := by
  induction ops generalizing a with
  | nil =>
    cases Option.some.inj run
    exact h
  | cons op ops ih =>
    have hne : op ≠ .resetPwrSaveIf r.privateIp := fun he => never (he ▸ List.mem_cons_self)
    refine ih (inv.step laws meet.1) ?_ (meet.2 _ rfl) run fun hm =>
      never (List.mem_cons_of_mem op hm)
    rcases h.step laws serves inv valid meet.1 hne with hoff | ⟨-, hoff⟩
    · exact hoff
    · exact hoff

theorem awake_before {asleep : Bool} (h : sleepsNext ip asleep op = false)
    (other : op ≠ .resetPwrSaveIf ip) : asleep = false ∧ op ≠ .updatePwrSaveIf ip := by
  cases op with
  | updatePwrSaveIf x =>
    grind [sleepsNext]
  | resetPwrSaveIf x =>
    grind [sleepsNext]
  | _ => exact ⟨h, by simp⟩

theorem KeptAs.wakes (laws : DriverLaws drv view) (serves : DriverServes drv view room)
    (inv : WakeInv view room a) (valid : r.isInvalid = false) (h : KeptAs r on a) {asleep : Bool}
    {t : NatApp κ δ}
    (meet : OpsMeet (natAppRun drv) (Spares drv r) a ops)
    (run : runOps (natAppRun drv) a ops = some t)
    (cause : NatAppOp.resetPwrSaveIf r.privateIp ∈ ops ∨ (asleep = false → KeptAs r true a))
    (awake : sleepsAfter r.privateIp asleep ops = false) : KeptAs r true t := by
  induction ops generalizing a on asleep with
  | nil =>
    cases Option.some.inj run
    rcases cause with hm | hon
    · exact absurd hm List.not_mem_nil
    · exact hon awake
  | cons op ops ih =>
    have next := inv.step laws meet.1
    by_cases hown : op = .resetPwrSaveIf r.privateIp
    · subst hown
      obtain ⟨drift, agree⟩ := inv.agree
      have hon : KeptAs r true (natAppStep drv a (.resetPwrSaveIf r.privateIp)) :=
        h.resetOwn laws serves agree inv.up inv.fits valid
      exact ih next hon (meet.2 _ rfl) run (Or.inr fun _ => hon) awake
    · have kept : ∃ on', KeptAs r on' (natAppStep drv a op) := by
        rcases h.step laws serves inv valid meet.1 hown with hsame | ⟨-, hoff⟩
        · exact ⟨on, hsame⟩
        · exact ⟨false, hoff⟩
      obtain ⟨on', kept⟩ := kept
      refine ih next kept (meet.2 _ rfl) run ?_ awake
      rcases cause with hm | hon
      · grind
      · refine Or.inr fun hawake => ?_
        -- only its own sleep disables the entry, and then the client counts as asleep
        obtain ⟨hstart, hsleep⟩ := awake_before hawake hown
        rcases (hon hstart).step laws serves inv valid meet.1 hown with hsame | ⟨he, -⟩
        · exact hsame
        · exact absurd he hsleep

theorem woken_of_slept (awake : sleepsAfter ip true ops = false) :
    NatAppOp.resetPwrSaveIf ip ∈ ops := by
  induction ops with
  | nil => exact Bool.noConfusion awake
  | cons op ops ih =>
    by_cases hnext : sleepsNext ip true op = true
    · grind [sleepsAfter]
    · have hop : op = .resetPwrSaveIf ip := by
        cases op with
        | resetPwrSaveIf x =>
          have hx : x = ip := by simpa [sleepsNext] using hnext
          rw [hx]
        | updatePwrSaveIf x => simp [sleepsNext] at hnext
        | _ => exact absurd rfl hnext
      rw [hop]
      exact List.mem_cons_self

theorem NatAppInv.not_kept_both (inv : NatAppInv drift view a) (valid : r.isInvalid = false)
    (hon : KeptAs r true a) (hoff : KeptAs r false a) : False := by
  obtain ⟨e, he, hr, hen⟩ := hon
  obtain ⟨f, hf, hr', hdis⟩ := hoff
  obtain ⟨pre, post, hl⟩ := List.append_of_mem he
  have perm : a.cache.Perm (e :: (pre ++ post)) := by
    rw [hl]
    exact List.perm_middle
  rcases List.mem_cons.mp (perm.mem_iff.mp hf) with rfl | hf
  · exact absurd (hen.symm.trans hdis) (by decide)
  · refine (inv.cache.perm perm).tuple_apart (not_free_of_natRule valid e hr) f hf ?_
    rw [tuple_eq_of_natRule hr, tuple_eq_of_natRule hr']

theorem NatAppInv.inTable_iff (inv : NatAppInv drift view a) :
    InTable view a r ↔ KeptAs r true a := by
  constructor
  · intro ⟨e, he, hr, hon, _⟩
    exact ⟨e, he, hr, hon⟩
  · intro ⟨e, he, hr, hon⟩
    refine ⟨e, he, hr, hon, ?_⟩
    rw [inv.cache.carried e he hon, hr]

theorem CachedAsleep.outcome (h : CachedAsleep drv a r) : a.natTableHdl ≠ 0 ∧ ∃ e,
    a.FreeSlot r e ∧ (a.addEntry drv r).2 =
      { a.setFree (NatTableEntry.fill { e with enabled := false, ruleHdl := 0 } r) with
        curCnt := a.curCnt + 1 } := by
  have accepted := h.accepted
  unfold NatApp.addEntry at accepted ⊢
  split at accepted
  next => simp at accepted
  next hz =>
    rw [if_neg hz]
    split at accepted
    next => simp at accepted
    next halg =>
      rw [h.valid] at accepted ⊢
      rw [if_neg halg, if_neg Bool.false_ne_true]
      rw [if_neg Bool.false_ne_true] at accepted
      split at accepted
      next => simp at accepted
      next hdup =>
        rw [if_neg hdup]
        cases he : a.cache[a.cache.findIdx NatTableEntry.isEmpty]? with
        | none =>
          simp only [he] at accepted
          simp at accepted
        | some e =>
          refine ⟨hz, e, ⟨h.valid, by simpa using hdup, he⟩, ?_⟩
          simp only [he]
          have asleep := h.asleep
          unfold NatApp.PwrSaved at asleep
          rw [if_pos asleep]
          rfl

theorem CachedAsleep.first (laws : DriverLaws drv view) (h : CachedAsleep drv a r)
    (agree : ∃ drift, NatAppInv drift view a) (fits : a.cache.length ≤ room) :
    WakeInv view room (a.addEntry drv r).2 ∧ KeptAs r false (a.addEntry drv r).2 := by
  obtain ⟨drift, inv⟩ := agree
  have inv' := inv.addEntry laws r
  obtain ⟨up, e, hslot, hout⟩ := h.outcome
  refine ⟨⟨⟨drift, inv'⟩, ?_, (addEntry_length r).trans_le fits⟩, ?_⟩
  · rw [hout]
    exact up
  · obtain ⟨-, pre, post, -, -, hset⟩ := findIdx_split hslot.slot
    refine ⟨NatTableEntry.fill { e with enabled := false, ruleHdl := 0 } r, ?_, rfl, rfl⟩
    rw [hout]
    change _ ∈ a.cache.set _ _
    rw [hset]
    exact List.mem_append_right _ List.mem_cons_self

/-- A connection cached while one of its ends sleeps is in the table, with both ends awake, exactly
if its client was woken after the add. No run leaves it out just if the client itself slept then. -/
theorem wakes_up_iff (laws : DriverLaws drv view) (serves : DriverServes drv view room) {n : Nat}
    (fits : n ≤ room) (algPorts : List IpacmAlg) (pre : UInt32) (ifs : List UInt32) {dev : δ}
    (tbl : view.tbl dev = 0) (none : ∀ x, view.live dev x = none)
    (reach : Reached (natAppRun drv) Alternates (NatApp.init n algPorts pre ifs dev) a)
    (cached : CachedAsleep drv a r) :
    (∀ ops t, OpsMeet (natAppRun drv) (Spares drv r) (a.addEntry drv r).2 ops →
      runOps (natAppRun drv) (a.addEntry drv r).2 ops = some t → Woken a r ops →
      (InTable view t r ↔ NatAppOp.resetPwrSaveIf r.privateIp ∈ ops)) ∧
    (WakesUp drv view a r ↔ a.isPwrSaveIf r.privateIp = true) := by
  have reached : (∃ drift, NatAppInv drift view a) ∧ a.cache.length ≤ room := by
    have keeps : ∀ (a : NatApp κ δ) op t, ((∃ drift, NatAppInv drift view a) ∧ a.cache.length ≤ room) →
        Alternates a op → natAppRun drv a op = some t →
        (∃ drift, NatAppInv drift view t) ∧ t.cache.length ≤ room := by
      intro a op t h alt hstep
      cases Option.some.inj hstep
      obtain ⟨⟨drift, inv⟩, hlen⟩ := h
      obtain ⟨drift', inv', -⟩ := inv.step laws alt
      exact ⟨⟨drift', inv'⟩, (natAppStep_length op).trans_le hlen⟩
    have first : NatAppInv 0 view (NatApp.init n algPorts pre ifs dev : NatApp κ δ) :=
      NatAppInv.init n algPorts pre ifs tbl none
    exact reached_invariant keeps ⟨⟨0, first⟩, by simpa [NatApp.init] using fits⟩ reach
  obtain ⟨inv, off⟩ := cached.first laws reached.1 reached.2
  have runs : ∀ ops t, OpsMeet (natAppRun drv) (Spares drv r) (a.addEntry drv r).2 ops →
      runOps (natAppRun drv) (a.addEntry drv r).2 ops = some t → Woken a r ops →
      (InTable view t r ↔ NatAppOp.resetPwrSaveIf r.privateIp ∈ ops) := by
    intro ops t meet run woken
    have last : WakeInv view room t := by
      refine run_invariant (fun a op b h spares hstep => ?_) inv meet run
      cases Option.some.inj hstep
      exact h.step laws spares
    obtain ⟨drift, agree⟩ := last.agree
    rw [agree.inTable_iff]
    constructor
    · intro hon
      by_contra never
      exact agree.not_kept_both cached.valid hon
        (off.stays_off laws serves inv cached.valid meet run never)
    · intro hm
      exact off.wakes laws serves inv cached.valid meet run (Or.inl hm) woken.1
  refine ⟨runs, fun all => ?_, fun slept ops t meet run woken => ?_⟩
  · -- only the target slept, and its wake-up is the one call made
    by_contra hself
    have hself : a.isPwrSaveIf r.privateIp = false := by simpa using hself
    have htarget : r.targetIp ≠ r.privateIp := by
      intro he
      have hpwr := cached.asleep
      unfold NatApp.PwrSaved at hpwr
      rw [he, hself] at hpwr
      exact hpwr.elim Bool.noConfusion Bool.noConfusion
    have meet : OpsMeet (natAppRun drv) (Spares drv r) (a.addEntry drv r).2
        [.resetPwrSaveIf r.targetIp] := by
      refine ⟨⟨trivial, ?_, trivial⟩, fun _ _ => trivial⟩
      change ((a.addEntry drv r).2.resetPwrSaveIf drv r.targetIp).2.natTableHdl ≠ 0
      unfold NatApp.resetPwrSaveIf
      split
      next => exact inv.up
      next => exact inv.up
    have woken : Woken a r [.resetPwrSaveIf r.targetIp] := by
      constructor
      · simp [sleepsAfter, sleepsNext, hself]
      · simp [sleepsAfter, sleepsNext]
    have hin := (runs _ _ meet rfl woken).mp (all _ _ meet rfl woken)
    grind
  · refine (runs ops t meet run woken).mpr (woken_of_slept ?_)
    have hawake := woken.1
    rwa [slept] at hawake

/-- A new object with one slot whose table is made, and an address that goes to sleep. -/
def oneAsleep (ip : UInt32) : NatApp Unit Ledger :=
  ((NatApp.init 1 [] 0 (List.replicate ipaMaxNumWifiClients 0) {}).addTable
    (ledgerDriver true 4) 1).2.updatePwrSaveIf (ledgerDriver true 4) ip |>.2

theorem oneAsleep_reached (ip : UInt32) : Reached (natAppRun (ledgerDriver true 4)) Alternates
    (NatApp.init 1 [] 0 (List.replicate ipaMaxNumWifiClients 0) {}) (oneAsleep ip) :=
  ⟨[.addTable 1, .updatePwrSaveIf ip], ⟨rfl, fun _ _ => ⟨trivial, fun _ _ => trivial⟩⟩, rfl⟩

theorem wakes_up_iff_client :
    WakesUp (ledgerDriver true 4) Ledger.view (oneAsleep 0xC0A80002) (webEntry 1) :=
  (wakes_up_iff (ledgerDriver_laws true 4) (ledgerDriver_serves (by decide)) (by decide) [] 0 _ rfl
    (fun _ => rfl) (oneAsleep_reached 0xC0A80002) ⟨rfl, Or.inl (by decide), by decide⟩).2.mpr
    (by decide)

/-- The target of the connection sleeps when it is added. Its wake-up finds no entry. -/
theorem target_wake_finds_none : ¬∀ (δ : Type) (drv : NatDriver δ) (view : DriverView δ)
    (room n : Nat) (algPorts : List IpacmAlg) (pre : UInt32) (dev : δ) (a : NatApp Unit δ)
    (r : NatTableEntry Unit), DriverLaws drv view → DriverServes drv view room → n ≤ room →
    view.tbl dev = 0 → (∀ x, view.live dev x = none) →
    Reached (natAppRun drv) Alternates
      (NatApp.init n algPorts pre (List.replicate ipaMaxNumWifiClients 0) dev) a →
    CachedAsleep drv a r → WakesUp drv view a r := by
  intro h
  have wakes := h Ledger (ledgerDriver true 4) Ledger.view 4 1 [] 0 {} (oneAsleep 0x08080808)
    (webEntry 1) (ledgerDriver_laws true 4) (ledgerDriver_serves (by decide)) (by decide) rfl
    (fun _ => rfl) (oneAsleep_reached 0x08080808) ⟨rfl, Or.inr (by decide), by decide⟩
  obtain ⟨e, he, -, hon, -⟩ := wakes [.resetPwrSaveIf 0x08080808] _
    ⟨⟨trivial, by decide, trivial⟩, fun _ _ => trivial⟩ rfl ⟨by decide, by decide⟩
  revert e
  decide

end DeviceHal.Ipacm
