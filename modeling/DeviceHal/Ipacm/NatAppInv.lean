import DeviceHal.Ipacm.Outcomes
import DeviceHal.Lib.Run

namespace DeviceHal.Ipacm

open IpaNat Lib

universe u v

variable {κ : Type u} {δ : Type v} {drv : NatDriver δ} {view : DriverView δ} {a : NatApp κ δ}
variable {drift : Int}

/-- The cache and the driver agree, and without a table no rule is in it. -/
structure NatAppInv (drift : Int) (view : DriverView δ) (a : NatApp κ δ) : Prop where
  tbl : view.tbl a.dev = a.natTableHdl
  cache : CacheInv drift a.cache (view.live a.dev) a.curCnt
  off : a.natTableHdl = 0 → ∀ e ∈ a.cache, e.enabled = false

theorem NatAppInv.init (n : Nat) (algPorts : List IpacmAlg) (pre : UInt32) (ifs : List UInt32)
    {dev : δ} (tbl : view.tbl dev = 0) (none : ∀ x, view.live dev x = none) :
    NatAppInv 0 view (NatApp.init n algPorts pre ifs dev : NatApp κ δ) where
  tbl := tbl
  cache := CacheInv.empty none
  off := by simp [NatApp.init]

/-- One turn of a loop over the cache keeps the cache and the driver in agreement. -/
def TurnKeeps (drift : Int) (view : DriverView δ) (hdl : UInt32) (p : NatTableEntry κ → Bool)
    (f : NatTableEntry κ → δ × Int → NatTableEntry κ × δ × Int) : Prop :=
  ∀ e l s, p e = true → CacheInv drift (e :: l) (view.live s.1) s.2 → view.tbl s.1 = hdl →
    CacheInv drift ((f e s).1 :: l) (view.live (f e s).2.1) (f e s).2.2 ∧ view.tbl (f e s).2.1 = hdl ∧
      (hdl = 0 → e.enabled = false → (f e s).1.enabled = false)

def LoopInv (drift : Int) (view : DriverView δ) (a : NatApp κ δ) (l : List (NatTableEntry κ))
    (s : δ × Int) : Prop :=
  CacheInv drift l (view.live s.1) s.2 ∧ view.tbl s.1 = a.natTableHdl ∧
    (a.natTableHdl = 0 → ∀ e ∈ l, e.enabled = false) ∧ l.length = a.cache.length

variable {p : NatTableEntry κ → Bool} {f : NatTableEntry κ → δ × Int → NatTableEntry κ × δ × Int}
  {e : NatTableEntry κ}

theorem LoopInv.turn
    (turn : TurnKeeps drift view a.natTableHdl p f) {pre post : List (NatTableEntry κ)}
    {s : δ × Int} (h : LoopInv drift view a (pre ++ e :: post) s) :
    LoopInv drift view a (pre ++ (if p e then f e s else (e, s)).1 :: post)
      (if p e then f e s else (e, s)).2 := by
  obtain ⟨hc, ht, hoff, hlen⟩ := h
  by_cases hp : p e = true
  · simp only [hp, ↓reduceIte]
    obtain ⟨hc', ht', hoff'⟩ := turn e (pre ++ post) s hp (hc.perm List.perm_middle) ht
    refine ⟨hc'.perm List.perm_middle.symm, ht', fun hz k hk => ?_, by simpa using hlen⟩
    grind
  · simp only [hp]
    exact ⟨hc, ht, hoff, hlen⟩

theorem NatAppInv.loopInv (inv : NatAppInv drift view a) :
    LoopInv drift view a a.cache (a.dev, a.curCnt) :=
  ⟨inv.cache, inv.tbl, inv.off, rfl⟩

theorem NatAppInv.forEntries (inv : NatAppInv drift view a)
    (turn : TurnKeeps drift view a.natTableHdl p f) : NatAppInv drift view (a.forEntries p f) := by
  have loop := forCells_invariant (f := fun e s => if p e then f e s else (e, s))
    (LoopInv drift view a) (fun _ _ _ _ h => h.turn turn) inv.loopInv
  exact ⟨loop.2.1, loop.1, loop.2.2.1⟩

theorem NatAppInv.forEntries_each (inv : NatAppInv drift view a)
    (turn : TurnKeeps drift view a.natTableHdl p f)
    (treat : NatTableEntry κ → NatTableEntry κ → Prop)
    (each : ∀ e l s, p e = true → CacheInv drift (e :: l) (view.live s.1) s.2 →
      view.tbl s.1 = a.natTableHdl → l.length < a.cache.length → treat e (f e s).1) :
    List.Forall₂ (fun e e' => (p e = true ∧ treat e e') ∨ (p e = false ∧ e' = e)) a.cache
      (a.forEntries p f).cache := by
  have loop := forCells_each (f := fun e s => if p e then f e s else (e, s))
    (LoopInv drift view a) (fun e e' => (p e = true ∧ treat e e') ∨ (p e = false ∧ e' = e)) ?_
    inv.loopInv
  · exact loop.2
  · intro pre e post s h
    refine ⟨h.turn turn, ?_⟩
    cases hp : p e with
    | true =>
      have hlen : (pre ++ post).length < a.cache.length := by
        rw [← h.2.2.2, List.length_append, List.length_append, List.length_cons]
        omega
      exact Or.inl ⟨rfl, each e (pre ++ post) s hp (h.1.perm List.perm_middle) h.2.1 hlen⟩
    | false => exact Or.inr ⟨rfl, rfl⟩

theorem CacheInv.delRule (laws : DriverLaws drv view) (e' : NatTableEntry κ)
    {l : List (NatTableEntry κ)} {cnt : Int} {d d' : δ} {h : UInt32} {ret : Int}
    (inv : CacheInv drift (e :: l) (view.live d) cnt) (tbl : view.tbl d = h) (on : e.enabled = true)
    (off' : e'.enabled = false) (same : e'.tuple = e.tuple)
    (call : drv.ipaNatDelIpv4Rule h e.ruleHdl d = (ret, d')) :
    ¬ret < 0 ∧ CacheInv drift (e' :: l) (view.live d') cnt ∧ view.tbl d' = h := by
  obtain ⟨hret, htbl, hlive⟩ :=
    laws.delRule h _ d _ ret d' tbl (inv.carried e List.mem_cons_self on) call
  refine ⟨hret, ?_, htbl⟩
  rw [hlive]
  exact inv.retire on off' same

theorem TurnKeeps.restore (laws : DriverLaws drv view) {hdl : UInt32}
    (hp : ∀ e, p e = true → e.enabled = false ∧ e.isEmpty = false) :
    TurnKeeps drift view hdl p (NatApp.restoreEntry drv hdl) := by
  intro e l s he inv tbl
  obtain ⟨off, ne⟩ := hp e he
  unfold NatApp.restoreEntry
  generalize hcall : drv.ipaNatAddIpv4Rule hdl e.natRule e.ruleHdl s.1 = r
  obtain ⟨ret, x, d⟩ := r
  dsimp only
  rcases laws.addRule _ _ _ _ _ _ _ tbl hcall with ⟨hret, htbl, hlive⟩ | ⟨hret, hz, htbl, hx, hlive⟩
  · rw [if_pos hret]
    dsimp only
    rw [hlive]
    exact ⟨inv.clear off ne, htbl, fun _ _ => rfl⟩
  · rw [if_neg hret]
    dsimp only
    rw [hlive]
    exact ⟨inv.enable off ne hx, htbl, fun h0 => absurd h0 hz⟩

theorem NatTableEntry.isEmpty_of_privateIp (h : e.privateIp ≠ 0) : e.isEmpty = false := by
  unfold isEmpty
  rw [decide_eq_false_iff_not]
  exact fun he => h (congrArg NatTuple.privateIp he)

theorem NatTableEntry.isEmpty_of_targetIp (h : e.targetIp ≠ 0) : e.isEmpty = false := by
  unfold isEmpty
  rw [decide_eq_false_iff_not]
  exact fun he => h (congrArg NatTuple.targetIp he)

theorem restored_eq (drv : NatDriver δ) (off : ∀ e ∈ a.cache, e.enabled = false) :
    a.restored drv = a.forEntries (fun e => e.privateIp ≠ 0 ∧ e.enabled = false)
      (NatApp.restoreEntry drv a.natTableHdl) := by
  unfold NatApp.restored NatApp.forEntries
  rw [forCells_congr fun e he => ?_]
  simp [off e he]

theorem restores_cached {q : Prop} [Decidable q] (hz : q → e.privateIp ≠ 0)
    (h : decide (q ∧ e.enabled = false) = true) : e.enabled = false ∧ e.isEmpty = false := by
  rw [decide_eq_true_eq] at h
  exact ⟨h.2, NatTableEntry.isEmpty_of_privateIp (hz h.1)⟩

theorem NatAppInv.restored (laws : DriverLaws drv view) (inv : NatAppInv drift view a)
    (off : ∀ e ∈ a.cache, e.enabled = false) : NatAppInv drift view (a.restored drv) := by
  rw [restored_eq drv off]
  exact inv.forEntries (TurnKeeps.restore laws fun e he => restores_cached (fun h => h) he)

theorem NatAppInv.withTable (laws : DriverLaws drv view) (inv : NatAppInv drift view a)
    (single : a.natTableHdl = 0) {ip h : UInt32} {n : Nat} {ret : Int} {d : δ}
    (call : drv.ipaNatAddIpv4Tbl ip n a.natTableHdl a.dev = (ret, h, d)) :
    NatAppInv drift view (a.withTable h d) := by
  rw [single] at call
  rcases laws.addTbl _ _ _ _ _ _ (inv.tbl.trans single) call with
    ⟨-, -, htbl, hlive⟩ | ⟨-, rfl, htbl, hlive⟩
  · have hsame : view.live d = view.live a.dev := by
      funext x
      rw [hlive x]
      by_contra hx
      obtain ⟨e, he, hon, -⟩ := inv.cache.covered x (Ne.symm hx)
      exact absurd (hon.symm.trans (inv.off single e he)) (by decide)
    exact ⟨htbl, hsame ▸ inv.cache, fun _ => inv.off single⟩
  · exact ⟨htbl, hlive ▸ inv.cache, fun _ => inv.off single⟩

theorem NatAppInv.addTable (laws : DriverLaws drv view) (inv : NatAppInv drift view a)
    (single : a.natTableHdl = 0) (pubIp : UInt32) :
    NatAppInv drift view (a.addTable drv pubIp).2 := by
  obtain ⟨ret, h, d, call, hout⟩ := a.addTable_cases drv pubIp
  have inv' := inv.withTable laws single call
  rcases hout with ⟨-, hadd⟩ | ⟨-, -, hadd⟩ | ⟨-, -, hadd⟩
  · rw [hadd]
    exact inv'
  · have hloop := inv'.restored laws (inv.off single)
    rw [hadd]
    exact ⟨hloop.tbl, hloop.cache, hloop.off⟩
  · rw [hadd]
    exact ⟨inv'.tbl, inv'.cache, inv'.off⟩

theorem NatAppInv.deleteTable (laws : DriverLaws drv view) (inv : NatAppInv drift view a)
    (pubIp : UInt32) : NatAppInv drift view (a.deleteTable drv pubIp).2 := by
  unfold NatApp.deleteTable
  split
  next => exact inv
  next hz =>
    split
    next => exact inv
    next =>
      generalize hcall : drv.ipaNatDelIpv4Tbl a.natTableHdl a.dev = r
      obtain ⟨ret, d⟩ := r
      dsimp only
      rcases laws.delTbl _ _ _ _ inv.tbl hz hcall with ⟨rfl, htbl, hlive⟩ | ⟨hret, htbl, hlive⟩
      · rw [if_neg (by decide)]
        refine ⟨htbl, inv.cache.disable hlive, fun _ e he => ?_⟩
        obtain ⟨k, -, rfl⟩ := List.mem_map.mp he
        rfl
      · rw [if_pos hret]
        exact ⟨htbl, hlive ▸ inv.cache, inv.off⟩

/-- The calls of `DeleteEntry` that do not take a free slot for a connection. -/
def NamesEntry (a : NatApp κ δ) (rule : NatTableEntry κ) : Prop :=
  rule.isEmpty = true → ∀ e ∈ a.cache, e.isEmpty = false

theorem NatAppInv.deleteEntry (laws : DriverLaws drv view) (inv : NatAppInv drift view a)
    (rule : NatTableEntry κ) :
    ∃ drift', NatAppInv drift' view (a.deleteEntry drv rule).2 ∧
      (NamesEntry a rule → drift' = drift) := by
  rcases a.deleteEntry_cases drv rule with ⟨hsame, -⟩ | ⟨e, d, he, hdel, hdev⟩
  · rw [hsame]
    exact ⟨drift, inv, fun _ => rfl⟩
  · obtain ⟨hp, -⟩ := findIdx_split he
    obtain ⟨rest, hperm, hset⟩ := set_findIdx_perm he
    have ht : e.tuple = rule.tuple := of_decide_eq_true hp
    have hm : e ∈ a.cache := List.mem_of_getElem? he
    have hc := inv.cache.perm hperm
    have hoff : a.natTableHdl = 0 → ∀ k ∈ a.cache.set (a.cache.findIdx fun e =>
        e.tuple = rule.tuple) {}, k.enabled = false := by
      intro hz k hk
      rcases List.mem_or_eq_of_mem_set hk with hk | rfl
      · exact inv.off hz k hk
      · rfl
    rw [hdel]
    cases hem : e.isEmpty with
    | true =>
      have hfree := hc.free e List.mem_cons_self hem
      have hzero : CacheInv drift ({} :: rest) (view.live a.dev) a.curCnt :=
        hc.idle hfree rfl (of_decide_eq_true hem).symm
      rcases hdev with ⟨-, rfl⟩ | ⟨hon, -⟩
      · refine ⟨drift + -1, ⟨inv.tbl, (hzero.recount (-1)).perm (hset {}).symm, hoff⟩, fun names => ?_⟩
        have hr := (NatTableEntry.isEmpty_congr ht).symm.trans hem
        exact absurd (hem.symm.trans (names hr e hm)) (by decide)
      · exact absurd (hon.symm.trans hfree) (by decide)
    | false =>
      refine ⟨drift, ?_, fun _ => rfl⟩
      rcases hdev with ⟨hon, rfl⟩ | ⟨hon, ret, hcall⟩
      · exact ⟨inv.tbl, (hc.clear hon hem).perm (hset {}).symm, hoff⟩
      · obtain ⟨-, hc', htbl⟩ :=
          hc.delRule laws { e with enabled := false } inv.tbl hon rfl rfl hcall
        have ne' : ({ e with enabled := false } : NatTableEntry κ).isEmpty = false := hem
        exact ⟨htbl, (hc'.clear rfl ne').perm (hset {}).symm, hoff⟩

theorem NatAppInv.fillSlot (inv : NatAppInv drift view a) {rule e : NatTableEntry κ}
    (h : a.FreeSlot rule e) (e' : NatTableEntry κ) (off' : e'.enabled = false)
    (same : e'.tuple = rule.tuple) :
    ∃ rest, CacheInv drift (e' :: rest) (view.live a.dev) (a.curCnt + 1) ∧
      ∀ b, (a.setFree b).cache.Perm (b :: rest) := by
  obtain ⟨hp, -⟩ := findIdx_split h.slot
  obtain ⟨rest, hperm, hset⟩ := set_findIdx_perm h.slot
  have ne : rule.isEmpty = false := NatTableEntry.isEmpty_of_valid h.valid
  refine ⟨rest, ?_, hset⟩
  refine (inv.cache.perm hperm).fill hp off' ((NatTableEntry.isEmpty_congr same).trans ne) ?_
  intro f hf ht
  have hm := hperm.mem_iff.mpr (List.mem_cons_of_mem e hf)
  have hdup := h.fresh
  grind [NatApp.chkForDup, List.any_eq_false]

theorem NatAppInv.cacheEntry (inv : NatAppInv drift view a) (rule : NatTableEntry κ) :
    NatAppInv drift view (a.cacheEntry rule) := by
  rcases a.cacheEntry_cases rule with hsame | ⟨e, hslot, hcache⟩
  · rw [hsame]
    exact inv
  · obtain ⟨rest, hc, hset⟩ := inv.fillSlot hslot
      (NatTableEntry.fill { e with enabled := false, ruleHdl := 0, publicIp := rule.publicIp } rule) rfl rfl
    rw [hcache]
    refine ⟨inv.tbl, hc.perm (hset _).symm, fun hz k hk => ?_⟩
    rcases List.mem_or_eq_of_mem_set hk with hk | rfl
    · exact inv.off hz k hk
    · rfl

theorem NatAppInv.addEntry (laws : DriverLaws drv view) (inv : NatAppInv drift view a)
    (rule : NatTableEntry κ) : NatAppInv drift view (a.addEntry drv rule).2 := by
  rcases a.addEntry_cases drv rule with hsame | ⟨hz, e, hslot, hout⟩
  · rw [hsame]
    exact inv
  · generalize a.addEntry drv rule = r at hout ⊢
    cases hout with
    | cached pwr =>
      obtain ⟨rest, hc, hset⟩ := inv.fillSlot hslot
        (NatTableEntry.fill { e with enabled := false, ruleHdl := 0 } rule) rfl rfl
      exact ⟨inv.tbl, hc.perm (hset _).symm, fun h => absurd h hz⟩
    | @refused ret x d awake call err =>
      obtain ⟨rest, hperm, hset⟩ := set_findIdx_perm hslot.slot
      have hc := inv.cache.perm hperm
      have hfree := hc.free e List.mem_cons_self (findIdx_split hslot.slot).1
      rcases laws.addRule _ _ _ _ _ _ _ inv.tbl call with ⟨-, htbl, hlive⟩ | ⟨hret, -⟩
      · have hidle : CacheInv drift ({ e with ruleHdl := x } :: rest) (view.live d) a.curCnt := by
          rw [hlive]
          exact hc.idle hfree hfree rfl
        exact ⟨htbl, hidle.perm (hset _).symm, fun h => absurd h hz⟩
      · exact absurd err hret
    | @added ret x d awake call ok =>
      obtain ⟨rest, hc, hset⟩ := inv.fillSlot hslot
        (NatTableEntry.fill { e with enabled := false } rule) rfl rfl
      have ne : rule.isEmpty = false := NatTableEntry.isEmpty_of_valid hslot.valid
      rcases laws.addRule _ _ _ _ _ _ _ inv.tbl call with ⟨hret, -⟩ | ⟨-, -, htbl, hx, hlive⟩
      · exact absurd hret ok
      · have hin := hc.enable rfl ne hx
        have hin' : CacheInv drift (NatTableEntry.fill { e with ruleHdl := x, enabled := true } rule ::
            rest) (view.live d) (a.curCnt + 1) := by
          rw [hlive]
          exact hin
        exact ⟨htbl, hin'.perm (hset _).symm, fun h => absurd h hz⟩

theorem TurnKeeps.retire (laws : DriverLaws drv view) {hdl : UInt32}
    (hp : ∀ e, p e = true → e.enabled = true) (off : NatTableEntry κ → NatTableEntry κ)
    (hoff : ∀ e, (off e).enabled = false) (same : ∀ e, (off e).tuple = e.tuple) :
    TurnKeeps drift view hdl p (NatApp.retireEntry drv hdl off) := by
  intro e l s he inv tbl
  unfold NatApp.retireEntry
  generalize hcall : drv.ipaNatDelIpv4Rule hdl e.ruleHdl s.1 = r
  obtain ⟨ret, d⟩ := r
  obtain ⟨hret, hc, htbl⟩ := inv.delRule laws (off e) tbl (hp e he) (hoff e) (same e) hcall
  grind

theorem NatAppInv.updatePwrSaveIf (laws : DriverLaws drv view) (inv : NatAppInv drift view a)
    (ip : UInt32) : NatAppInv drift view (a.updatePwrSaveIf drv ip).2 := by
  unfold NatApp.updatePwrSaveIf
  split
  next => exact inv
  next =>
    split
    next => exact inv
    next =>
      have inv' : NatAppInv drift view { a with
          pwrSaveIfs := a.pwrSaveIfs.set (a.pwrSaveIfs.findIdx (· = 0)) ip } :=
        ⟨inv.tbl, inv.cache, inv.off⟩
      refine inv'.forEntries (TurnKeeps.retire laws (fun e he => ?_) _ (fun _ => rfl)
        fun _ => rfl)
      rw [decide_eq_true_eq] at he
      exact he.2

theorem NatAppInv.clearPwrSaveIf (inv : NatAppInv drift view a) (ip : UInt32) :
    NatAppInv drift view (a.clearPwrSaveIf ip) :=
  ⟨inv.tbl, inv.cache, inv.off⟩

theorem NatAppInv.resetPwrSaveIf (laws : DriverLaws drv view) (inv : NatAppInv drift view a)
    (ip : UInt32) : NatAppInv drift view (a.resetPwrSaveIf drv ip).2 := by
  unfold NatApp.resetPwrSaveIf
  split
  next => exact inv
  next hz =>
    exact (inv.clearPwrSaveIf ip).forEntries (TurnKeeps.restore laws fun e he =>
      restores_cached (q := e.privateIp = ip) (fun h => h ▸ hz) he)

theorem NatAppInv.delEntriesOnClntDiscon (laws : DriverLaws drv view) (inv : NatAppInv drift view a)
    (ip : UInt32) : NatAppInv drift view (a.delEntriesOnClntDiscon drv ip).2 := by
  unfold NatApp.delEntriesOnClntDiscon
  split
  next => exact inv
  next =>
    refine (inv.clearPwrSaveIf ip).forEntries (TurnKeeps.retire laws (fun e he => ?_) _
      (fun _ => rfl) fun _ => rfl)
    rw [decide_eq_true_eq] at he
    exact he.2

theorem TurnKeeps.drop (laws : DriverLaws drv view) {hdl : UInt32}
    (hp : ∀ e, p e = true → e.isEmpty = false) :
    TurnKeeps drift view hdl p (NatApp.dropEntry drv hdl) := by
  intro e l s he inv tbl
  unfold NatApp.dropEntry
  cases hon : e.enabled with
  | false => exact ⟨inv.clear hon (hp e he), tbl, fun _ _ => rfl⟩
  | true =>
    generalize hcall : drv.ipaNatDelIpv4Rule hdl e.ruleHdl s.1 = r
    obtain ⟨ret, d⟩ := r
    obtain ⟨hret, hc, htbl⟩ := inv.delRule laws { e with enabled := false } tbl hon rfl rfl hcall
    have ne : ({ e with enabled := false } : NatTableEntry κ).isEmpty = false := hp e he
    simp only [↓reduceIte, hret]
    exact ⟨hc.clear rfl ne, htbl, fun _ _ => trivial⟩

theorem drops_cached {ip : UInt32} (hz : ip ≠ 0) (e : NatTableEntry κ)
    (h : decide (e.targetIp = ip) = true) : e.isEmpty = false :=
  NatTableEntry.isEmpty_of_targetIp (of_decide_eq_true h ▸ hz)

theorem NatAppInv.delEntriesOnSTAClntDiscon (laws : DriverLaws drv view) (inv : NatAppInv drift view a)
    (ip : UInt32) : NatAppInv drift view (a.delEntriesOnSTAClntDiscon drv ip).2 := by
  unfold NatApp.delEntriesOnSTAClntDiscon
  split
  next => exact inv
  next hz => exact inv.forEntries (TurnKeeps.drop laws (drops_cached hz))

theorem NatAppInv.withTemp (inv : NatAppInv drift view a) (temp : List (NatTableEntry κ)) :
    NatAppInv drift view { a with temp } :=
  ⟨inv.tbl, inv.cache, inv.off⟩

theorem NatAppInv.addTempEntry (inv : NatAppInv drift view a) (e : NatTableEntry κ) :
    NatAppInv drift view (a.addTempEntry e) := by
  unfold NatApp.addTempEntry
  split
  next => exact inv
  next =>
    split
    next => exact inv
    next =>
      split
      next => exact inv
      next => exact inv.withTemp _

theorem NatAppInv.flushTempEntry (laws : DriverLaws drv view) (inv : NatAppInv drift view a)
    (ip : UInt32) (isAdd isDummy : Bool) (e : NatTableEntry κ) :
    NatAppInv drift view (a.flushTempEntry drv ip isAdd isDummy e).2 := by
  rcases a.flushTempEntry_cases drv ip isAdd isDummy e with h | h | ⟨e', -, ⟨-, h⟩ | ⟨-, h⟩⟩
  · rw [h]
    exact inv
  · rw [h]
    exact inv
  · rw [h]
    exact inv.addEntry laws e'
  · rw [h]
    exact inv.addEntry laws e'

theorem NatAppInv.flushTempEntries (laws : DriverLaws drv view) (inv : NatAppInv drift view a)
    (ip : UInt32) (isAdd isDummy : Bool) :
    NatAppInv drift view (a.flushTempEntries drv ip isAdd isDummy) := by
  have loop := forCells_invariant (fun (_ : List (NatTableEntry κ)) (a : NatApp κ δ) =>
    NatAppInv drift view a) (fun _ e _ _ h => h.flushTempEntry laws ip isAdd isDummy e)
    (l := a.temp) inv
  exact loop.withTemp _

end DeviceHal.Ipacm

namespace DeviceHal.Ipacm

open IpaNat Lib

universe u v

variable {κ : Type u} {δ : Type v} {drv : NatDriver δ} {view : DriverView δ} {a : NatApp κ δ}

/-- Slot `i` of the cache. -/
def NatApp.slot (a : NatApp κ δ) (i : Nat) : NatTableEntry κ := a.cache.getD i {}

/-- The enabled slots stand for the live rules one to one, and each live rule is that of its slot.
No two slots share a connection, and the counter counts the slots in use. -/
structure InStep (view : DriverView δ) (a : NatApp κ δ) : Prop where
  handles : Set.BijOn (fun i => (a.slot i).ruleHdl) {i | (a.slot i).enabled = true}
    {x | view.live a.dev x ≠ none}
  carried : ∀ i, (a.slot i).enabled = true →
    view.live a.dev (a.slot i).ruleHdl = some (a.slot i).natRule
  tuples : ∀ i j, i ≠ j → (a.slot i).isEmpty = false → (a.slot i).tuple ≠ (a.slot j).tuple
  count : a.curCnt = a.cache.countP fun e => !e.isEmpty

def natAppRun (drv : NatDriver δ) (a : NatApp κ δ) (op : NatAppOp κ) : Option (NatApp κ δ) :=
  some (natAppStep drv a op)

def Alternates (a : NatApp κ δ) : NatAppOp κ → Prop
  | .addTable _ => a.natTableHdl = 0
  | _ => True

/-- No `DeleteEntry` of the zero tuple while a slot is free. -/
def NamesEntries (a : NatApp κ δ) : NatAppOp κ → Prop
  | .deleteEntry rule => NamesEntry a rule
  | _ => True

theorem slot_lt {i : Nat} (h : a.slot i ≠ {}) : ∃ hi : i < a.cache.length, a.slot i = a.cache[i] := by
  grind [NatApp.slot]

theorem slot_mem {i : Nat} (h : (a.slot i).enabled = true ∨ (a.slot i).isEmpty = false) :
    ∃ hi : i < a.cache.length, a.slot i = a.cache[i] := by
  refine slot_lt fun he => ?_
  rw [he] at h
  rcases h with h | h
  · exact Bool.noConfusion h
  · exact Bool.noConfusion h

theorem NatAppInv.inStep (inv : NatAppInv 0 view a) : InStep view a where
  handles := by
    refine ⟨fun i hi => ?_, fun i hi j hj he => ?_, fun x hx => ?_⟩
    · obtain ⟨hlt, hs⟩ := slot_mem (Or.inl hi)
      have hon : (a.slot i).enabled = true := hi
      have hlive := inv.cache.carried _ (hs ▸ List.getElem_mem hlt) hon
      simp [hlive]
    · obtain ⟨hi', hsi⟩ := slot_mem (Or.inl hi)
      obtain ⟨hj', hsj⟩ := slot_mem (Or.inl hj)
      have hion : (a.slot i).enabled = true := hi
      have hjon : (a.slot j).enabled = true := hj
      have hapart := List.pairwise_iff_getElem.mp inv.cache.apart
      grind
    · obtain ⟨e, he, hon, rfl⟩ := inv.cache.covered x hx
      obtain ⟨i, hi, rfl⟩ := List.mem_iff_getElem.mp he
      have hs : a.slot i = a.cache[i] := by simp [NatApp.slot, hi]
      grind
  carried := by
    intro i hi
    obtain ⟨hlt, hs⟩ := slot_mem (Or.inl hi)
    exact inv.cache.carried _ (hs ▸ List.getElem_mem hlt) hi
  tuples := by
    intro i j hne hi ht
    obtain ⟨hi', hsi⟩ := slot_mem (Or.inr hi)
    obtain ⟨hj', hsj⟩ := slot_mem (Or.inr ((NatTableEntry.isEmpty_congr ht).symm.trans hi))
    have hpair := List.pairwise_iff_getElem.mp inv.cache.tuples
    rw [hsi] at hi ht
    rw [hsj] at ht
    rcases Nat.lt_or_gt_of_ne hne with hlt | hlt
    · grind
    · have hem := hpair j i hj' hi' hlt ht.symm
      exact Bool.noConfusion (hi.symm.trans ((NatTableEntry.isEmpty_congr ht).trans hem))
  count := inv.cache.count

/-- Every call keeps the cache and the driver in agreement, and the counter too unless it frees a
free slot. -/
theorem NatAppInv.step {drift : Int} (laws : DriverLaws drv view) (inv : NatAppInv drift view a)
    {op : NatAppOp κ} (alt : Alternates a op) :
    ∃ drift', NatAppInv drift' view (natAppStep drv a op) ∧ (NamesEntries a op → drift' = drift) := by
  have same : NatAppInv drift view (natAppStep drv a op) →
      ∃ drift', NatAppInv drift' view (natAppStep drv a op) ∧ (NamesEntries a op → drift' = drift) :=
    fun h => ⟨drift, h, fun _ => rfl⟩
  cases op with
  | addTable pubIp => exact same (inv.addTable laws alt pubIp)
  | deleteTable pubIp => exact same (inv.deleteTable laws pubIp)
  | addEntry rule => exact same (inv.addEntry laws rule)
  | deleteEntry rule => exact inv.deleteEntry laws rule
  | cacheEntry rule => exact same (inv.cacheEntry rule)
  | updatePwrSaveIf ip => exact same (inv.updatePwrSaveIf laws ip)
  | resetPwrSaveIf ip => exact same (inv.resetPwrSaveIf laws ip)
  | delEntriesOnClntDiscon ip => exact same (inv.delEntriesOnClntDiscon laws ip)
  | delEntriesOnSTAClntDiscon ip => exact same (inv.delEntriesOnSTAClntDiscon laws ip)
  | addTempEntry e => exact same (inv.addTempEntry e)
  | deleteTempEntry e => exact same (inv.withTemp _)
  | flushTempEntries ip isAdd isDummy => exact same (inv.flushTempEntries laws ip isAdd isDummy)

theorem NatAppInv.deleteEntry_breaks (inv : NatAppInv 0 view a) {rule : NatTableEntry κ}
    (free : ¬NamesEntry a rule) : ¬InStep view (a.deleteEntry drv rule).2 := by
  intro step
  unfold NamesEntry at free
  push Not at free
  obtain ⟨hr, k, hk, hem⟩ := free
  have htuple : ∀ e : NatTableEntry κ, e.isEmpty = true → e.tuple = {} := fun e he =>
    of_decide_eq_true he
  rcases a.deleteEntry_cases drv rule with ⟨-, hno⟩ | ⟨e, d, he, hdel, -⟩
  · grind
  · have ht : e.tuple = rule.tuple := of_decide_eq_true (findIdx_split he).1
    have hem : e.isEmpty = true := (NatTableEntry.isEmpty_congr ht).trans hr
    obtain ⟨rest, hperm, hset⟩ := set_findIdx_perm he
    have hafter := step.count
    have hbefore := inv.cache.count
    rw [hdel] at hafter
    dsimp only at hafter
    rw [(hset {}).countP_eq, List.countP_cons] at hafter
    rw [hperm.countP_eq, List.countP_cons, hem, add_zero] at hbefore
    simp only [NatTableEntry.isEmpty_zero, Bool.not_true, Bool.false_eq_true, ↓reduceIte]
      at hafter hbefore
    omega

def webEntry (port : UInt16) : NatTableEntry Unit where
  privateIp := 0xC0A80002
  privatePort := port
  targetIp := 0x08080808
  targetPort := 443
  publicPort := port
  protocol := 6

/-- Up to the counter the cache and the driver are in step, and without a table no slot is enabled and
no rule is live. -/
structure RulesLinked (view : DriverView δ) (a : NatApp κ δ) : Prop where
  inStep : ∃ cnt, InStep view { a with curCnt := cnt }
  slots : a.natTableHdl = 0 → ∀ i, (a.slot i).enabled = false
  rules : a.natTableHdl = 0 → ∀ x, view.live a.dev x = none

theorem NatAppInv.rulesLinked {drift : Int} (inv : NatAppInv drift view a) : RulesLinked view a where
  inStep := by
    refine ⟨a.curCnt - drift, NatAppInv.inStep ⟨inv.tbl, { inv.cache with count := ?_ }, inv.off⟩⟩
    have hcount := inv.cache.count
    dsimp only
    omega
  slots := by
    intro hz i
    by_contra hon
    obtain ⟨hi, hs⟩ := slot_mem (Or.inl (Bool.eq_true_of_not_eq_false hon))
    exact hon (hs ▸ inv.off hz _ (List.getElem_mem hi))
  rules := by
    intro hz x
    by_contra hx
    obtain ⟨e, he, hon, -⟩ := inv.cache.covered x hx
    exact Bool.noConfusion ((inv.off hz e he).symm.trans hon)

/-- Whatever entries a client deletes, only the counter goes wrong. -/
theorem rules_linked_always (laws : DriverLaws drv view) (n : Nat) (algPorts : List IpacmAlg)
    (pre : UInt32) (ifs : List UInt32) {dev : δ} (tbl : view.tbl dev = 0)
    (none : ∀ x, view.live dev x = none) {ops : List (NatAppOp κ)}
    (alt : OpsMeet (natAppRun drv) Alternates (NatApp.init n algPorts pre ifs dev) ops) :
    Always (natAppRun drv) (RulesLinked view) (NatApp.init n algPorts pre ifs dev) ops := by
  refine @always_invariant _ _ _ Alternates (fun a => ∃ drift, NatAppInv drift view a) _
    (fun _ ⟨_, inv⟩ => inv.rulesLinked) (fun a op b inv alt hstep => ?_) _ _
    ⟨0, NatAppInv.init n algPorts pre ifs tbl none⟩ alt
  cases hstep
  obtain ⟨drift, inv⟩ := inv
  obtain ⟨drift', inv', -⟩ := inv.step laws alt
  exact ⟨drift', inv'⟩

theorem rules_linked_always_web : Always (natAppRun (ledgerDriver true 4)) (RulesLinked Ledger.view)
    (NatApp.init 2 [] 0 [] {}) [.addTable 1, .addEntry (webEntry 1), .deleteEntry {}, .deleteTable 1] :=
  rules_linked_always (ledgerDriver_laws true 4) 2 [] 0 [] rfl (fun _ => rfl)
    ⟨rfl, fun _ _ => ⟨trivial, fun _ _ => ⟨trivial, fun _ _ => ⟨trivial, fun _ _ => trivial⟩⟩⟩⟩

end DeviceHal.Ipacm
