import DeviceHal.IpaNat.Delete
import DeviceHal.Lib.Run

namespace DeviceHal.IpaNat

open Lib

/-- A rule that an add has issued a handle for and no delete has taken back, with the slot the
add stored it in. -/
structure LiveRule where
  hdl : Nat
  slot : Nat
  rule : IpaNatIpv4Rule
deriving DecidableEq, Repr

/-- The table and the history of the calls made on it, as far as the clients see it. -/
structure NatSys where
  cache : Ip4TableCache
  live : List LiveRule := []

/-- The API calls, with the outcome of the ioctls they make. -/
inductive NatOp where
  | add (clntRule : IpaNatIpv4Rule) (io : AddIoctls)
  | del (ruleHdl : UInt32) (ok : Bool)

/-- The slot an add stores the rule in, 0 if it finds none. -/
def newSlot (env : NatEnv) (clntRule : IpaNatIpv4Rule) (c : Ip4TableCache) : Nat :=
  match chooseRule env clntRule c with
  | some (some n) => n.entry
  | _ => 0

def afterAdd (env : NatEnv) (s : NatSys) (clntRule : IpaNatIpv4Rule) (ret : Int) (hdl : Nat)
    (m : NatMem) : NatSys :=
  ⟨m.cache, if ret = 0 then ⟨hdl, newSlot env clntRule s.cache, clntRule⟩ :: s.live else s.live⟩

def afterDel (s : NatSys) (hdl : Nat) (ret : Int) (m : NatMem) : NatSys :=
  ⟨m.cache, if ret = 0 then s.live.filter fun l => l.hdl ≠ hdl else s.live⟩

/-- One API call; `none` when it does not return or leaves `rule_id_array`. -/
def natStep (env : NatEnv) (s : NatSys) : NatOp → Option NatSys
  | .add clntRule io => (ipaNatAddIpv4Rule env io clntRule ⟨s.cache, []⟩).map
      fun (ret, hdl, m) => afterAdd env s clntRule ret hdl m
  | .del ruleHdl ok => (ipaNatDelIpv4Rule ok ruleHdl.toNat ⟨s.cache, []⟩).map
      fun (ret, m) => afterDel s ruleHdl.toNat ret m

def newTable (tableEntries expnTableEntries : Nat) : NatSys :=
  ⟨{ tableEntries, expnTableEntries }, []⟩

def ValidSlot (c : Ip4TableCache) (e : Nat) : Prop :=
  (0 < e ∧ e < c.tableEntries) ∨
    (c.tableEntries < e ∧ e < c.tableEntries + c.expnTableEntries)

theorem ruleId_ne_zero {c : Ip4TableCache} {e : Nat} (dims : TableDims c.tableEntries c.expnTableEntries)
    (h : ValidSlot c e) : ruleId c.tableEntries e ≠ 0 := by
  have := dims.baseHigh
  unfold ruleId
  rcases h with h | h
  · rw [if_neg (by omega)]
    omega
  · rw [if_pos (by omega)]
    omega

theorem ruleId_decode {c : Ip4TableCache} {e : Nat} (dims : TableDims c.tableEntries c.expnTableEntries)
    (h : ValidSlot c e) :
    ruleId c.tableEntries e / 2 ≠ 0 ∧
      (decide (ruleId c.tableEntries e % 2 = 1) = true ↔ c.tableEntries ≤ e) ∧
      tblStart c (decide (ruleId c.tableEntries e % 2 = 1)) + ruleId c.tableEntries e / 2 = e := by
  have hb := dims.baseHigh
  have hx := dims.expnHigh
  unfold ruleId tblStart
  rcases h with h | h
  · grind
  · grind

/-- Every memory contents noted in the log has the property. -/
def LogAll (P : Ip4TableCache → Prop) (m : NatMem) : Prop := ∀ c ∈ m.log, P c

theorem LogAll.nil (P : Ip4TableCache → Prop) (c : Ip4TableCache) : LogAll P ⟨c, []⟩ := by
  intro t ht
  simp at ht

theorem LogAll.store {P : Ip4TableCache → Prop} {m : NatMem} {f : Ip4TableCache → Ip4TableCache}
    (h : LogAll P m) (hf : P (f m.cache)) : LogAll P (m.store f) := by
  intro t ht
  rcases List.mem_append.mp ht with ht | ht
  · exact h t ht
  · rw [List.mem_singleton.mp ht]
    exact hf

theorem ioctlNatDma_fail (m : NatMem) (cmds : List NatDmaOne) :
    ioctlNatDma false m cmds = (-1, m) := rfl

theorem ioctlNatDma_nil (m : NatMem) : (ioctlNatDma true m []).2 = m := rfl

theorem ioctlNatDma_cons (m : NatMem) (d : NatDmaOne) (cmds : List NatDmaOne) :
    (ioctlNatDma true m (d :: cmds)).2 =
      (ioctlNatDma true (m.store fun c => c.dmaWrite d) cmds).2 := rfl

theorem ioctlNatDma_append (m : NatMem) (cmds later : List NatDmaOne) :
    (ioctlNatDma true m (cmds ++ later)).2 =
      (ioctlNatDma true (ioctlNatDma true m cmds).2 later).2 := by
  simp [ioctlNatDma, List.foldl_append]

theorem entryOffset_slot (e off : Nat) (h : off < ipaNatTableEntrySize) :
    (ipaNatiGetEntryOffset e + off) / ipaNatTableEntrySize = e ∧
      (ipaNatiGetEntryOffset e + off) % ipaNatTableEntrySize = off := by
  simp only [ipaNatiGetEntryOffset, ipaNatTableEntrySize] at *
  omega

theorem indexEntryOffset_slot (e off : Nat) (h : off < ipaNatIndexTableEntrySize) :
    (ipaNatiGetIndexEntryOffset e + off) / ipaNatIndexTableEntrySize = e ∧
      (ipaNatiGetIndexEntryOffset e + off) % ipaNatIndexTableEntrySize = off := by
  simp only [ipaNatiGetIndexEntryOffset, ipaNatIndexTableEntrySize] at *
  omega

theorem dmaWrite_base (c : Ip4TableCache) (e off data : Nat) (h : off < ipaNatTableEntrySize) :
    c.dmaWrite ⟨.ipaNatBaseTbl, ipaNatiGetEntryOffset e + off, data⟩ =
      c.setRule e ((c.rules e).write16 off data) := by
  obtain ⟨hd, hm⟩ := entryOffset_slot e off h
  simp only [Ip4TableCache.dmaWrite, hd, hm, Nat.zero_add]

theorem dmaWrite_expn (c : Ip4TableCache) (e off data : Nat) (h : off < ipaNatTableEntrySize) :
    c.dmaWrite ⟨.ipaNatExpnTbl, ipaNatiGetEntryOffset e + off, data⟩ =
      c.setRule (c.tableEntries + e) ((c.rules (c.tableEntries + e)).write16 off data) := by
  obtain ⟨hd, hm⟩ := entryOffset_slot e off h
  simp only [Ip4TableCache.dmaWrite, hd, hm]

theorem dmaWrite_indx (c : Ip4TableCache) (e off data : Nat)
    (h : off < ipaNatIndexTableEntrySize) :
    c.dmaWrite ⟨.ipaNatIndxTbl, ipaNatiGetIndexEntryOffset e + off, data⟩ =
      c.setIndx e ((c.indx e).write16 off data) := by
  obtain ⟨hd, hm⟩ := indexEntryOffset_slot e off h
  simp only [Ip4TableCache.dmaWrite, hd, hm, Nat.zero_add]

theorem dmaWrite_indexExpn (c : Ip4TableCache) (e off data : Nat)
    (h : off < ipaNatIndexTableEntrySize) :
    c.dmaWrite ⟨.ipaNatIndexExpnTbl, ipaNatiGetIndexEntryOffset e + off, data⟩ =
      c.setIndx (c.tableEntries + e) ((c.indx (c.tableEntries + e)).write16 off data) := by
  obtain ⟨hd, hm⟩ := indexEntryOffset_slot e off h
  simp only [Ip4TableCache.dmaWrite, hd, hm]

def Ip4TableCache.linkRule (c : Ip4TableCache) (e data : Nat) : Ip4TableCache :=
  c.setRule e { c.rules e with nextIndex := data }

/-- The next index of one index entry overwritten. -/
def Ip4TableCache.linkIndx (c : Ip4TableCache) (e data : Nat) : Ip4TableCache :=
  c.setIndx e { c.indx e with nextIndex := data }

/-- The table entry of one index entry overwritten. -/
def Ip4TableCache.pointIndx (c : Ip4TableCache) (e data : Nat) : Ip4TableCache :=
  c.setIndx e { c.indx e with tblEntry := data }

theorem setRule_next {t : Ip4TableCache} {e : Nat} {r : IpaNatRule}
    (h : r.nextIndex = (t.rules e).nextIndex) (k : Nat) :
    ((t.setRule e r).rules k).nextIndex = (t.rules k).nextIndex := by
  by_cases hk : k = e
  · rw [hk]
    simpa only [Ip4TableCache.setRule, Function.update_self] using h
  · simp only [Ip4TableCache.setRule, Function.update_of_ne hk]

theorem pointIndx_indx (c : Ip4TableCache) (x d k : Nat) :
    (c.pointIndx x d).indx k = if k = x then { c.indx k with tblEntry := d } else c.indx k := by
  by_cases hk : k = x
  · rw [if_pos hk, hk]
    exact Function.update_self _ _ _
  · rw [if_neg hk]
    exact Function.update_of_ne hk _ _

theorem linkIndx_indx (c : Ip4TableCache) (x d k : Nat) :
    (c.linkIndx x d).indx k = if k = x then { c.indx k with nextIndex := d } else c.indx k := by
  by_cases hk : k = x
  · rw [if_pos hk, hk]
    exact Function.update_self _ _ _
  · rw [if_neg hk]
    exact Function.update_of_ne hk _ _

theorem dmaWrite_linkRuleCmd (c t : Ip4TableCache) (ht : t.tableEntries = c.tableEntries)
    (prev data : Nat) : t.dmaWrite (linkRuleCmd c prev data) = t.linkRule prev data := by
  unfold linkRuleCmd
  split
  next h =>
    have he : t.tableEntries + (prev - c.tableEntries) = prev := by omega
    rw [dmaWrite_expn _ _ _ _ (by decide), he]
    rfl
  next =>
    rw [dmaWrite_base _ _ _ _ (by decide)]
    rfl

theorem dmaWrite_linkIndxCmd (c t : Ip4TableCache) (ht : t.tableEntries = c.tableEntries)
    (prev data : Nat) : t.dmaWrite (linkIndxCmd c prev data) = t.linkIndx prev data := by
  unfold linkIndxCmd
  split
  next h =>
    have he : t.tableEntries + (prev - c.tableEntries) = prev := by omega
    rw [dmaWrite_indexExpn _ _ _ _ (by decide), he]
    rfl
  next =>
    rw [dmaWrite_indx _ _ _ _ (by decide)]
    rfl

theorem reorderCmds_cons {d : NatDmaOne} {cmds : List NatDmaOne} (hd : d.isIndx = false)
    (hi : ∀ x ∈ cmds, x.isIndx = true) (hne : cmds ≠ []) : reorderCmds (d :: cmds) = cmds ++ [d] := by
  cases cmds with
  | nil => exact absurd rfl hne
  | cons x cmds =>
    have hx := hi x (by simp)
    simp [reorderCmds, List.findIdx?_cons, hd, hx]

theorem indxDelCmds_isIndx (c : Ip4TableCache) (e : Nat) (pos : DelType) :
    ∀ d ∈ indxDelCmds c e pos, d.isIndx = true := by
  intro d hd
  cases pos <;> simp only [indxDelCmds, List.mem_cons, List.not_mem_nil, or_false] at hd
  case onlyOne => rw [hd]; rfl
  case head => rcases hd with rfl | rfl <;> rfl
  case middle => rw [hd]; unfold linkIndxCmd; split <;> rfl
  case last => rw [hd]; unfold linkIndxCmd; split <;> rfl

theorem ruleDelCmd_isIndx (c : Ip4TableCache) (cur : IpaNatRule) (e : Nat) (pos : DelType) :
    (ruleDelCmd c cur e pos).isIndx = false := by
  cases pos <;> first | rfl | (simp only [ruleDelCmd, linkRuleCmd]; split <;> rfl)

theorem reorderCmds_del (c : Ip4TableCache) (cur : IpaNatRule) (e s : Nat) (pos ipos : DelType) :
    reorderCmds (ruleDelCmd c cur e pos :: indxDelCmds c s ipos) =
      indxDelCmds c s ipos ++ [ruleDelCmd c cur e pos] := by
  refine reorderCmds_cons (ruleDelCmd_isIndx c cur e pos) (indxDelCmds_isIndx c s ipos) ?_
  cases ipos <;> simp [indxDelCmds]

def sweptRules (c : Ip4TableCache) (bound : Nat) : Ip4TableCache :=
  { c with rules := fun e => if e < bound ∧ isDeadHead (c.rules e) then {} else c.rules e }

theorem sweep_step (m : NatMem) (c : Ip4TableCache) (k : Nat) (h : m.cache = sweptRules c k) :
    (if isDeadHead (m.cache.rules k) then m.store fun t => t.setRule k {} else m).cache =
      sweptRules c (k + 1) := by
  have hk : m.cache.rules k = c.rules k := by simp [h, sweptRules]
  rw [hk]
  have key : ∀ e, (sweptRules c (k + 1)).rules e =
      if e = k ∧ isDeadHead (c.rules k) then {} else (sweptRules c k).rules e := by
    intro e
    by_cases he : e = k
    · subst he
      simp [sweptRules]
    · grind [sweptRules]
  split
  next hd =>
    rw [NatMem.store_cache, h]
    refine congrArg (fun r => ({ c with rules := r } : Ip4TableCache)) (funext fun e => ?_)
    refine Eq.trans ?_ (key e).symm
    grind
  next hd =>
    rw [h]
    refine congrArg (fun r => ({ c with rules := r } : Ip4TableCache)) (funext fun e => ?_)
    grind

theorem sweep_fold (m : NatMem) (k : Nat) :
    ((List.range' 0 k).foldl (fun m cnt =>
      if isDeadHead (m.cache.rules cnt) then m.store fun c => c.setRule cnt {} else m) m).cache =
      sweptRules m.cache k := by
  induction k with
  | zero => simp [sweptRules]
  | succ k ih =>
    rw [List.range'_1_concat, List.foldl_append, Nat.zero_add]
    exact sweep_step _ m.cache k ih

theorem ipaNatiDelDeadIpv4HeadNodes_cache (m : NatMem) :
    (ipaNatiDelDeadIpv4HeadNodes m).cache = sweptRules m.cache m.cache.tableEntries :=
  sweep_fold m _

theorem sweep_logAll {P : Ip4TableCache → Prop} {m : NatMem} (log : LogAll P m) (h : P m.cache)
    (keep : ∀ c e, P c → isDeadHead (c.rules e) → P (c.setRule e {})) :
    LogAll P (ipaNatiDelDeadIpv4HeadNodes m) ∧ P (ipaNatiDelDeadIpv4HeadNodes m).cache := by
  have fold : ∀ (cnts : List Nat) (m : NatMem), LogAll P m → P m.cache →
      LogAll P (cnts.foldl (fun m cnt =>
        if isDeadHead (m.cache.rules cnt) then m.store fun c => c.setRule cnt {} else m) m) ∧
      P (cnts.foldl (fun m cnt =>
        if isDeadHead (m.cache.rules cnt) then m.store fun c => c.setRule cnt {} else m) m).cache := by
    intro cnts
    induction cnts with
    | nil => exact fun m log h => ⟨log, h⟩
    | cons k cnts ih =>
      intro m log h
      rw [List.foldl_cons]
      split
      next hd => exact ih _ (log.store (keep m.cache k h hd)) (keep m.cache k h hd)
      next => exact ih m log h
  exact fold _ m log h

end DeviceHal.IpaNat
