import DeviceHal.Ipacm.NatApp
import Mathlib.Tactic.Linarith
import Mathlib.Tactic.Ring

namespace DeviceHal.Ipacm

open IpaNat Lib

universe u v

variable {κ : Type u} {δ : Type v}

namespace NatApp

def withTable (a : NatApp κ δ) (natTableHdl : UInt32) (dev : δ) : NatApp κ δ :=
  { a with natTableHdl, dev }

def restored (drv : NatDriver δ) (a : NatApp κ δ) : NatApp κ δ :=
  a.forEntries (fun e => e.privateIp ≠ 0) (restoreEntry drv a.natTableHdl)

theorem addTable_cases (drv : NatDriver δ) (pubIp : UInt32) (a : NatApp κ δ) :
    ∃ ret h d, drv.ipaNatAddIpv4Tbl pubIp a.cache.length a.natTableHdl a.dev = (ret, h, d) ∧
      ((ret ≠ 0 ∧ (a.addTable drv pubIp).2 = a.withTable h d) ∨
       (ret = 0 ∧ pubIp = a.pubIpAddrPre ∧ (a.addTable drv pubIp).2 =
          { (a.withTable h d).restored drv with pubIpAddr := pubIp }) ∨
       (ret = 0 ∧ pubIp ≠ a.pubIpAddrPre ∧ (a.addTable drv pubIp).2 =
          { a.withTable h d with pubIpAddr := pubIp })) := by
  unfold addTable
  generalize hcall : drv.ipaNatAddIpv4Tbl pubIp a.cache.length a.natTableHdl a.dev = r
  obtain ⟨ret, h, d⟩ := r
  refine ⟨ret, h, d, rfl, ?_⟩
  dsimp only
  by_cases hret : ret = 0
  · rw [if_neg (not_not.mpr hret)]
    by_cases hpre : pubIp = a.pubIpAddrPre
    · rw [if_pos hpre]
      exact Or.inr (Or.inl ⟨hret, hpre, rfl⟩)
    · rw [if_neg hpre]
      exact Or.inr (Or.inr ⟨hret, hpre, rfl⟩)
  · rw [if_pos hret]
    exact Or.inl ⟨hret, rfl⟩

/-- The free slot `AddEntry` and `CacheEntry` find for a connection they accept. -/
structure FreeSlot (a : NatApp κ δ) (rule e : NatTableEntry κ) : Prop where
  valid : rule.isInvalid = false
  fresh : a.chkForDup rule = false
  slot : a.cache[a.cache.findIdx NatTableEntry.isEmpty]? = some e

def setFree (a : NatApp κ δ) (e : NatTableEntry κ) : NatApp κ δ :=
  { a with cache := a.cache.set (a.cache.findIdx NatTableEntry.isEmpty) e }

def PwrSaved (a : NatApp κ δ) (rule : NatTableEntry κ) : Prop :=
  a.isPwrSaveIf rule.privateIp = true ∨ a.isPwrSaveIf rule.targetIp = true

/-- What a call of `AddEntry` that finds a slot returns: the connection is only cached, the driver
refuses it, or it is in the table. -/
inductive AddOutcome (drv : NatDriver δ) (a : NatApp κ δ) (rule e : NatTableEntry κ) :
    Int × NatApp κ δ → Prop where
  | cached (pwr : a.PwrSaved rule) : AddOutcome drv a rule e
      (0, { a.setFree (NatTableEntry.fill { e with enabled := false, ruleHdl := 0 } rule) with
        curCnt := a.curCnt + 1 })
  | refused {ret : Int} {x : UInt32} {d : δ} (awake : ¬a.PwrSaved rule)
      (call : drv.ipaNatAddIpv4Rule a.natTableHdl rule.natRule e.ruleHdl a.dev = (ret, x, d))
      (err : ret < 0) : AddOutcome drv a rule e (-1, { a.setFree { e with ruleHdl := x } with dev := d })
  | added {ret : Int} {x : UInt32} {d : δ} (awake : ¬a.PwrSaved rule)
      (call : drv.ipaNatAddIpv4Rule a.natTableHdl rule.natRule e.ruleHdl a.dev = (ret, x, d))
      (ok : ¬ret < 0) : AddOutcome drv a rule e
        (0, { a.setFree (NatTableEntry.fill { e with ruleHdl := x, enabled := true } rule) with
          dev := d, curCnt := a.curCnt + 1 })

theorem addEntry_cases (drv : NatDriver δ) (rule : NatTableEntry κ) (a : NatApp κ δ) :
    (a.addEntry drv rule).2 = a ∨
    (a.natTableHdl ≠ 0 ∧ ∃ e, a.FreeSlot rule e ∧ AddOutcome drv a rule e (a.addEntry drv rule)) := by
  unfold addEntry
  split
  next => exact Or.inl rfl
  next hz =>
    split
    next => exact Or.inl rfl
    next =>
      split
      next => exact Or.inl rfl
      next valid =>
        split
        next => exact Or.inl rfl
        next dup =>
          cases he : a.cache[a.cache.findIdx NatTableEntry.isEmpty]? with
          | none =>
            refine Or.inl ?_
            simp only [he]
          | some e =>
            refine Or.inr ⟨hz, e, ⟨by simpa using valid, by simpa using dup, he⟩, ?_⟩
            simp only [he]
            by_cases hp : a.isPwrSaveIf rule.privateIp = true ∨ a.isPwrSaveIf rule.targetIp = true
            · rw [if_pos hp]
              exact AddOutcome.cached hp
            · rw [if_neg hp]
              split
              next hret => exact AddOutcome.refused hp rfl hret
              next hret => exact AddOutcome.added hp rfl hret

theorem cacheEntry_cases (rule : NatTableEntry κ) (a : NatApp κ δ) :
    a.cacheEntry rule = a ∨ ∃ e, a.FreeSlot rule e ∧ a.cacheEntry rule =
      { a.setFree (NatTableEntry.fill
          { e with enabled := false, ruleHdl := 0, publicIp := rule.publicIp } rule) with
        curCnt := a.curCnt + 1 } := by
  unfold cacheEntry
  split
  next => exact Or.inl rfl
  next valid =>
    split
    next => exact Or.inl rfl
    next dup =>
      cases he : a.cache[a.cache.findIdx NatTableEntry.isEmpty]? with
      | none =>
        refine Or.inl ?_
        simp only [he]
      | some e =>
        simp only [he]
        exact Or.inr ⟨e, ⟨by simpa using valid, by simpa using dup, he⟩, rfl⟩

theorem deleteEntry_cases (drv : NatDriver δ) (rule : NatTableEntry κ) (a : NatApp κ δ) :
    ((a.deleteEntry drv rule).2 = a ∧ ∀ e ∈ a.cache, e.tuple ≠ rule.tuple) ∨
    ∃ e d, a.cache[a.cache.findIdx fun e => e.tuple = rule.tuple]? = some e ∧
      (a.deleteEntry drv rule).2 = { a with
        cache := a.cache.set (a.cache.findIdx fun e => e.tuple = rule.tuple) {}
        dev := d
        curCnt := a.curCnt - 1 } ∧
      ((e.enabled = false ∧ d = a.dev) ∨
       (e.enabled = true ∧ ∃ ret, drv.ipaNatDelIpv4Rule a.natTableHdl e.ruleHdl a.dev = (ret, d))) := by
  unfold deleteEntry
  cases he : a.cache[a.cache.findIdx fun e => e.tuple = rule.tuple]? with
  | none =>
    grind
  | some e =>
    simp only [he]
    refine Or.inr ⟨e, _, rfl, rfl, ?_⟩
    cases hon : e.enabled with
    | false => exact Or.inl ⟨rfl, rfl⟩
    | true => exact Or.inr ⟨rfl, _, rfl⟩

theorem flushTempEntry_cases (drv : NatDriver δ) (ip : UInt32) (isAdd isDummy : Bool)
    (e : NatTableEntry κ) (a : NatApp κ δ) :
    a.flushTempEntry drv ip isAdd isDummy e = (e, a) ∨
    a.flushTempEntry drv ip isAdd isDummy e = ({}, a) ∨
    ∃ e', (e' = e ∨ (isDummy = true ∧
        e' = { e with privateIp := e.publicIp, privatePort := e.publicPort })) ∧
      (((a.addEntry drv e').1 ≠ 0 ∧
        a.flushTempEntry drv ip isAdd isDummy e = (e', (a.addEntry drv e').2)) ∨
       ((a.addEntry drv e').1 = 0 ∧
        a.flushTempEntry drv ip isAdd isDummy e = ({}, (a.addEntry drv e').2))) := by
  unfold flushTempEntry
  split
  next =>
    split
    next =>
      refine Or.inr (Or.inr ⟨if isDummy then
        { e with privateIp := e.publicIp, privatePort := e.publicPort } else e, ?_, ?_⟩)
      · grind
      · grind
    next => exact Or.inr (Or.inl rfl)
  next => exact Or.inl rfl

end NatApp

end DeviceHal.Ipacm

namespace DeviceHal.Ipacm

open IpaNat Lib

universe u

variable {κ : Type u} {l l' : List (NatTableEntry κ)} {e e' : NatTableEntry κ}
variable {live : UInt32 → Option IpaNatIpv4Rule} {drift cnt : Int} {x : UInt32}

/-- The slots of the cache and the rules the driver has live agree, and the counter is `drift` off
the slots in use. -/
structure CacheInv (drift : Int) (cache : List (NatTableEntry κ)) (live : UInt32 → Option IpaNatIpv4Rule)
    (cnt : Int) : Prop where
  carried : ∀ e ∈ cache, e.enabled = true → live e.ruleHdl = some e.natRule
  covered : ∀ x, live x ≠ none → ∃ e ∈ cache, e.enabled = true ∧ e.ruleHdl = x
  apart : cache.Pairwise fun e f => e.enabled = true → f.enabled = true → e.ruleHdl ≠ f.ruleHdl
  tuples : cache.Pairwise fun e f => e.tuple = f.tuple → e.isEmpty = true
  free : ∀ e ∈ cache, e.isEmpty = true → e.enabled = false
  count : cnt = (cache.countP fun e => !e.isEmpty) + drift

theorem NatTableEntry.isEmpty_congr (h : e.tuple = e'.tuple) : e.isEmpty = e'.isEmpty := by
  unfold isEmpty
  rw [h]

def NatTableEntry.without (e : NatTableEntry κ) (live : UInt32 → Option IpaNatIpv4Rule) :
    UInt32 → Option IpaNatIpv4Rule :=
  if e.enabled then Function.update live e.ruleHdl none else live

namespace CacheInv

theorem perm (h : CacheInv drift l live cnt) (p : l.Perm l') : CacheInv drift l' live cnt where
  carried := fun e he => h.carried e (p.mem_iff.mpr he)
  covered := by
    intro x hx
    obtain ⟨e, he, hon⟩ := h.covered x hx
    exact ⟨e, p.mem_iff.mp he, hon⟩
  apart := h.apart.perm p fun hne hf he => (hne he hf).symm
  tuples := h.tuples.perm p fun hem ht =>
    (NatTableEntry.isEmpty_congr ht).trans (hem ht.symm)
  free := fun e he => h.free e (p.mem_iff.mpr he)
  count := by rw [h.count, p.countP_eq]

theorem empty {n : Nat} (none : ∀ x, live x = none) :
    CacheInv 0 (List.replicate n ({} : NatTableEntry κ)) live 0 where
  carried := by simp
  covered := fun x hx => absurd (none x) hx
  apart := by simp [List.pairwise_replicate]
  tuples := by simp [List.pairwise_replicate]
  free := by simp
  count := by
    have hzero : (List.replicate n ({} : NatTableEntry κ)).countP (fun e => !e.isEmpty) = 0 := by
      simp [List.countP_replicate]
    rw [hzero]
    rfl

theorem tail (h : CacheInv drift (e :: l) live cnt) :
    CacheInv drift l (e.without live) (cnt - if e.isEmpty then 0 else 1) := by
  have hapart := List.pairwise_cons.mp h.apart
  refine ⟨fun f hf on => ?_, fun x hx => ?_, hapart.2, (List.pairwise_cons.mp h.tuples).2,
    fun f hf => h.free f (List.mem_cons_of_mem e hf), ?_⟩
  · have hlive := h.carried f (List.mem_cons_of_mem e hf) on
    unfold NatTableEntry.without
    grind
  · unfold NatTableEntry.without at hx
    have hne : live x ≠ none ∧ (e.enabled = true → x ≠ e.ruleHdl) := by
      split at hx
      next hon =>
        grind
      next hoff => exact ⟨hx, fun hon => absurd hon hoff⟩
    obtain ⟨f, hf, hon, rfl⟩ := h.covered x hne.1
    grind
  grind [h.count, Bool.not_false, Bool.false_eq_true]

theorem cons (h : CacheInv drift l (e.without live) (cnt - if e.isEmpty then 0 else 1))
    (carried : e.enabled = true → live e.ruleHdl = some e.natRule ∧ e.isEmpty = false)
    (tuples : e.isEmpty = false → ∀ f ∈ l, e.tuple ≠ f.tuple) :
    CacheInv drift (e :: l) live cnt := by
  have hlive : ∀ x, e.without live x ≠ none → live x = e.without live x := by
    intro x hx
    unfold NatTableEntry.without at hx ⊢
    split at hx
    next hon =>
      grind
    next hoff => rw [if_neg hoff]
  refine ⟨fun f hf on => ?_, fun x hx => ?_, List.pairwise_cons.mpr ⟨fun f hf on on' he => ?_,
    h.apart⟩, List.pairwise_cons.mpr ⟨fun f hf ht => ?_, h.tuples⟩, fun f hf hem => ?_, ?_⟩
  · rcases List.mem_cons.mp hf with rfl | hf
    · exact (carried on).1
    · have hrest := h.carried f hf on
      rw [hlive _ (by rw [hrest]; simp), hrest]
  · by_cases hxe : e.enabled = true ∧ e.ruleHdl = x
    · exact ⟨e, List.mem_cons_self, hxe⟩
    · have hrest : e.without live x ≠ none := by
        unfold NatTableEntry.without
        split
        next hon => rwa [Function.update_of_ne fun he => hxe ⟨hon, he.symm⟩]
        next => exact hx
      obtain ⟨f, hf, hon⟩ := h.covered x hrest
      exact ⟨f, List.mem_cons_of_mem e hf, hon⟩
  · have hrest := h.carried f hf on'
    unfold NatTableEntry.without at hrest
    grind
  · by_contra hne
    exact tuples (by simpa using hne) f hf ht
  · rcases List.mem_cons.mp hf with rfl | hf
    · grind
    · exact h.free f hf hem
  · have hcount := h.count
    rw [List.countP_cons]
    grind

theorem tuple_apart (h : CacheInv drift (e :: l) live cnt) (ne : e.isEmpty = false) :
    ∀ f ∈ l, e.tuple ≠ f.tuple := by
  intro f hf ht
  have hem := (List.pairwise_cons.mp h.tuples).1 f hf ht
  exact absurd (ne.symm.trans hem) (by decide)

theorem idle (h : CacheInv drift (e :: l) live cnt) (off : e.enabled = false) (off' : e'.enabled = false)
    (same : e'.tuple = e.tuple) : CacheInv drift (e' :: l) live cnt := by
  have hrest := h.tail
  rw [← NatTableEntry.isEmpty_congr same] at hrest
  refine cons ?_ (fun on => absurd (on.symm.trans off') (by decide)) fun ne => ?_
  · simpa [NatTableEntry.without, off, off'] using hrest
  · rw [same]
    exact h.tuple_apart ((NatTableEntry.isEmpty_congr same).symm.trans ne)

theorem clear (h : CacheInv drift (e :: l) live cnt) (off : e.enabled = false)
    (ne : e.isEmpty = false) : CacheInv drift ({} :: l) live (cnt - 1) := by
  have hrest := h.tail
  refine cons ?_ (fun on => Bool.noConfusion on) fun hz => Bool.noConfusion hz
  simpa [NatTableEntry.without, off, ne] using hrest

theorem retire (h : CacheInv drift (e :: l) live cnt) (on : e.enabled = true)
    (off' : e'.enabled = false) (same : e'.tuple = e.tuple) :
    CacheInv drift (e' :: l) (Function.update live e.ruleHdl none) cnt := by
  have hrest := h.tail
  rw [← NatTableEntry.isEmpty_congr same] at hrest
  refine cons ?_ (fun hon => absurd (hon.symm.trans off') (by decide)) fun ne => ?_
  · simpa [NatTableEntry.without, on, off'] using hrest
  · rw [same]
    exact h.tuple_apart ((NatTableEntry.isEmpty_congr same).symm.trans ne)

theorem enable (h : CacheInv drift (e :: l) live cnt) (off : e.enabled = false)
    (ne : e.isEmpty = false) (fresh : live x = none) :
    CacheInv drift ({ e with ruleHdl := x, enabled := true } :: l)
      (Function.update live x (some e.natRule)) cnt := by
  have hrest := h.tail
  have hem : ({ e with ruleHdl := x, enabled := true } : NatTableEntry κ).isEmpty = false := ne
  have hlive : Function.update live x none = live := by
    rw [← fresh, Function.update_eq_self]
  refine cons ?_ (fun _ => ⟨Function.update_self _ _ _, hem⟩) fun _ => h.tuple_apart ne
  rw [hem]
  rw [ne] at hrest
  simpa [NatTableEntry.without, off, hlive] using hrest

theorem fill (h : CacheInv drift (e :: l) live cnt) (em : e.isEmpty = true) (off' : e'.enabled = false)
    (ne : e'.isEmpty = false) (fresh : ∀ f ∈ l, e'.tuple ≠ f.tuple) :
    CacheInv drift (e' :: l) live (cnt + 1) := by
  have off := h.free e List.mem_cons_self em
  have hrest := h.tail
  refine cons ?_ (fun on => absurd (on.symm.trans off') (by decide)) fun _ => fresh
  simpa [NatTableEntry.without, off, off', em, ne] using hrest

theorem recount (h : CacheInv drift l live cnt) (k : Int) :
    CacheInv (drift + k) l live (cnt + k) :=
  { h with count := by rw [h.count]; ring }

theorem disable (h : CacheInv drift l live cnt) {live' : UInt32 → Option IpaNatIpv4Rule}
    (none : ∀ x, live' x = none) :
    CacheInv drift (l.map fun e => { e with enabled := false }) live' cnt where
  carried := by simp
  covered := fun x hx => absurd (none x) hx
  apart := List.pairwise_map.mpr (h.apart.imp fun _ on => Bool.noConfusion on)
  tuples := List.pairwise_map.mpr h.tuples
  free := by simp
  count := by
    rw [h.count, List.countP_map]
    rfl

end CacheInv

end DeviceHal.Ipacm
