import DeviceHal.IpaNat.Handles

namespace DeviceHal.IpaNat

open Lib

variable {env : NatEnv} {s : NatSys}

theorem HandleInv.del_cases (inv : HandleInv env s) {ok : Bool} {h : Nat} {ret : Int} {t : NatMem}
    (hd : ipaNatDelIpv4Rule ok h ⟨s.cache, []⟩ = some (ret, t)) :
    (ret ≠ 0 ∧ t = ⟨s.cache, []⟩ ∧ (ok = true → ∀ l ∈ s.live, l.hdl ≠ h)) ∨
    (ret = 0 ∧ ok = true ∧ ∃ l ∈ s.live, l.hdl = h ∧ ∃ expn entry,
      (expn = true ↔ s.cache.tableEntries ≤ l.slot) ∧ tblStart s.cache expn + entry = l.slot ∧
      t = (ipaNatiDelDeadIpv4HeadNodes (dropRule ⟨s.cache, []⟩ l.slot entry
        (ipaNatiFindRulePos s.cache expn entry))).store fun c => c.setRuleId (h - 1) 0) := by
  rcases ipaNatDelIpv4Rule_cases hd with
      ⟨hret, ht, hwhy⟩ | ⟨hret, hok, expn, entry, hp, he, hz, -, hlt, ht⟩
  · refine Or.inl ⟨hret, ht, fun hok l hl hh => ?_⟩
    have hbound := inv.hdl l hl
    obtain ⟨expn, entry, hp, hdead⟩ := hwhy hok (by omega)
    have hbase := inv.dims.baseHigh
    have hexpn := inv.dims.expnHigh
    dsimp only at hp hdead
    rw [Nat.mod_eq_of_lt (by omega), ← hh] at hp
    obtain ⟨expn', entry', hp', h0, -, hs⟩ := inv.parse hl
    cases Option.some.inj (hp.symm.trans hp')
    rcases hdead with hdead | hdead
    · exact h0 hdead
    · rw [hs, inv.enabled hl] at hdead
      exact absurd hdead (by decide)
  · have hbase := inv.dims.baseHigh
    have hexpn := inv.dims.expnHigh
    dsimp only at hp hlt ht
    rw [Nat.mod_eq_of_lt (by omega)] at hp
    have hlive : ∃ l ∈ s.live, l.hdl = h := by
      by_contra hno
      push Not at hno
      rw [inv.parse_dead hno, if_neg hz] at hp
      cases hp
      exact he rfl
    obtain ⟨l, hl, rfl⟩ := hlive
    obtain ⟨expn', entry', hp', -, hb, hs⟩ := inv.parse hl
    grind

/-- What a successful delete of the rule `l` leaves behind. -/
structure DelEffect (s : NatSys) (l : LiveRule) (c : Ip4TableCache) : Prop where
  base : c.tableEntries = s.cache.tableEntries
  expn : c.expnTableEntries = s.cache.expnTableEntries
  ids : c.ruleIdArray = Function.update s.cache.ruleIdArray (l.hdl - 1) 0
  swept : ∀ e, e ≠ l.slot → e < s.cache.tableEntries →
    (s.cache.rules e).protocol = ipaNatInvalidProtoFieldCmp → nextAfterDel s.cache l.slot e = 0 →
    c.rules e = {}
  kept : ∀ e, e ≠ l.slot → ¬(e < s.cache.tableEntries ∧
    (s.cache.rules e).protocol = ipaNatInvalidProtoFieldCmp ∧
    nextAfterDel s.cache l.slot e = 0) → (c.rules e).body = (s.cache.rules e).body

theorem HandleInv.del_effect (inv : HandleInv env s) {l : LiveRule} (hl : l ∈ s.live)
    {expn : Bool} {entry : Nat} (hb : expn = true ↔ s.cache.tableEntries ≤ l.slot)
    (hs : tblStart s.cache expn + entry = l.slot) :
    DelEffect s l ((ipaNatiDelDeadIpv4HeadNodes (dropRule ⟨s.cache, []⟩ l.slot entry
      (ipaNatiFindRulePos s.cache expn entry))).store
        fun c => c.setRuleId (l.hdl - 1) 0).cache := by
  have hvalid := inv.slot l hl
  have hb' : expn = true ↔ s.cache.tableEntries < tblStart s.cache expn + entry := by
    rw [hb, hs]
    unfold ValidSlot at hvalid
    omega
  have keep := LinksOnly.dropRule ⟨s.cache, []⟩ expn entry
  have next : ∀ e, e ≠ l.slot → _ := fun e he =>
    dropRule_next (k := e) ⟨s.cache, []⟩ hb' (hs ▸ he)
  rw [NatMem.store_cache, ipaNatiDelDeadIpv4HeadNodes_cache]
  dsimp only at keep next
  rw [hs] at keep
  simp only [hs] at next
  generalize (dropRule ⟨s.cache, []⟩ l.slot entry _).cache = u at keep next ⊢
  have dead : ∀ e, e ≠ l.slot → (isDeadHead (u.rules e) = true ↔
      (s.cache.rules e).protocol = ipaNatInvalidProtoFieldCmp ∧
        nextAfterDel s.cache l.slot e = 0) := by
    intro e he
    have hproto : (u.rules e).protocol = (s.cache.rules e).protocol := by
      change (u.rules e).body.protocol = (s.cache.rules e).body.protocol
      rw [keep.body e he]
    rw [← next e he, ← hproto]
    unfold isDeadHead
    rw [decide_eq_true_eq]
    rfl
  refine ⟨keep.base, keep.expn, ?_, fun e he hlt hp hn => ?_, fun e he hno => ?_⟩
  · simp only [Ip4TableCache.setRuleId, sweptRules, keep.ids]
  · simp only [Ip4TableCache.setRuleId, sweptRules]
    exact if_pos ⟨keep.base.symm ▸ hlt, (dead e he).mpr ⟨hp, hn⟩⟩
  · simp only [Ip4TableCache.setRuleId, sweptRules]
    rw [if_neg, keep.body e he]
    rw [keep.base, dead e he]
    exact hno

theorem HandleInv.protocol (inv : HandleInv env s) {l : LiveRule} (hl : l ∈ s.live) :
    (s.cache.rules l.slot).protocol = l.rule.protocol :=
  congrArg IpaNatRule.protocol (inv.carried l hl)

theorem HandleInv.del (inv : HandleInv env s) {ok : Bool} {h : Nat} {ret : Int} {t : NatMem}
    (safe : SweepSafe s h) (hd : ipaNatDelIpv4Rule ok h ⟨s.cache, []⟩ = some (ret, t)) :
    HandleInv env (afterDel s h ret t) := by
  unfold afterDel
  rcases inv.del_cases hd with ⟨hret, rfl, -⟩ | ⟨rfl, -, l, hl, rfl, expn, entry, hb, hs, rfl⟩
  · rw [if_neg hret]
    exact inv
  · have eff := inv.del_effect hl hb hs
    rw [if_pos rfl]
    generalize (NatMem.store _ _).cache = c at eff
    have sub : ∀ k ∈ s.live.filter fun k => k.hdl ≠ l.hdl, k ∈ s.live ∧ k.hdl ≠ l.hdl := by
      intro k hk
      simpa using hk
    have hne : ∀ k ∈ s.live, k.hdl ≠ l.hdl → k.slot ≠ l.slot := by
      intro k hk hh he
      exact hh (congrArg LiveRule.hdl (inv.eq_of_slot hk hl he))
    have hlow := (inv.hdl l hl).1
    refine ⟨?_, ?_, ?_, ?_, ?_, ?_, ?_, ?_⟩
    · rw [eff.base, eff.expn]
      exact inv.dims
    · intro k hk
      have hv := inv.slot k (sub k hk).1
      unfold ValidSlot at hv ⊢
      rw [eff.base, eff.expn]
      exact hv
    · exact inv.slots.sublist (List.filter_sublist.map _)
    · intro k hk
      rw [eff.base, eff.expn]
      exact inv.hdl k (sub k hk).1
    · exact inv.hdls.sublist (List.filter_sublist.map _)
    · intro k hk
      obtain ⟨hkl, hh⟩ := sub k hk
      have hpos := (inv.hdl k hkl).1
      rw [eff.ids, eff.base, Function.update_of_ne (by omega)]
      exact inv.id k hkl
    · intro i hi hne0
      rw [eff.base, eff.expn] at hi
      rw [eff.ids] at hne0
      by_cases hil : i = l.hdl - 1
      · grind
      · rw [Function.update_of_ne hil] at hne0
        obtain ⟨k, hk, hh⟩ := inv.ids i hi hne0
        grind
    · intro k hk
      obtain ⟨hkl, hh⟩ := sub k hk
      refine (eff.kept k.slot (hne k hkl hh) ?_).trans (inv.carried k hkl)
      rintro ⟨hlt, hp, hn⟩
      rw [inv.protocol hkl] at hp
      exact safe l hl rfl k hkl hh hlt hp hn

/-- The calls of a history that the dead head sweep does not damage. -/
def SweepSafeOp (s : NatSys) : NatOp → Prop
  | .add _ _ => True
  | .del ruleHdl _ => SweepSafe s ruleHdl.toNat

theorem HandleInv.step (inv : HandleInv env s) {op : NatOp} {t : NatSys} (ok : SweepSafeOp s op)
    (h : natStep env s op = some t) : HandleInv env t := by
  cases op with
  | add clntRule io =>
    obtain ⟨⟨ret, hdl, m⟩, ha, rfl⟩ := Option.map_eq_some_iff.mp h
    exact inv.add ha
  | del ruleHdl ok' =>
    obtain ⟨⟨ret, m⟩, hd, rfl⟩ := Option.map_eq_some_iff.mp h
    exact inv.del ok hd

theorem reached_handleInv {N M : Nat} (dims : TableDims N M)
    (reach : Reached (natStep env) SweepSafeOp (newTable N M) s) : HandleInv env s :=
  reached_invariant (fun _ _ _ inv ok h => inv.step ok h) (newTable_handleInv env dims) reach

/-- Every live handle but `h` still names its slot, and the slot is enabled and has the body it
had before; its links may be others. -/
def FrameKept (s : NatSys) (h : Nat) (c : Ip4TableCache) : Prop :=
  ∀ k ∈ s.live, k.hdl ≠ h → Resolves c k.hdl k.slot ∧ (c.rules k.slot).enable = true ∧
    (c.rules k.slot).body = (s.cache.rules k.slot).body

/-- A successful delete leaves the other live rules alone exactly if no live rule with the dead
protocol is taken for a dead head. -/
theorem del_frame_iff_sweepSafe {N M : Nat} (dims : TableDims N M)
    (reach : Reached (natStep env) SweepSafeOp (newTable N M) s) {l : LiveRule} (hl : l ∈ s.live)
    {ok : Bool} {t : NatMem} (hd : ipaNatDelIpv4Rule ok l.hdl ⟨s.cache, []⟩ = some (0, t)) :
    FrameKept s l.hdl t.cache ↔ SweepSafe s l.hdl := by
  have inv := reached_handleInv dims reach
  rcases inv.del_cases hd with ⟨hret, -⟩ | ⟨-, -, l', hl', hh, expn, entry, hb, hs, rfl⟩
  · exact absurd rfl hret
  · cases inv.eq_of_hdl hl' hl hh
    have eff := inv.del_effect hl hb hs
    constructor
    · intro frame l' hl' hh' k hk hne hlt hp hn
      cases inv.eq_of_hdl hl' hl hh'
      have hslot : k.slot ≠ l.slot := fun he =>
        hne (congrArg LiveRule.hdl (inv.eq_of_slot hk hl he))
      have hen := (frame k hk hne).2.1
      rw [eff.swept k.slot hslot hlt ((inv.protocol hk).trans hp) hn] at hen
      exact absurd hen (by decide)
    · intro safe k hk hne
      have inv' := inv.del safe hd
      have hk' : k ∈ s.live.filter fun k => k.hdl ≠ l.hdl := by
        simpa using ⟨hk, hne⟩
      simp only [afterDel, ↓reduceIte] at inv'
      refine ⟨inv'.resolves hk', inv'.enabled hk', ?_⟩
      exact (inv'.carried k hk').trans (inv.carried k hk).symm

def oneNetwork : NatEnv := ⟨true, 1, fun _ => 0x0A000001⟩

def tcpRule (port : UInt16) : IpaNatIpv4Rule := ⟨0x08080808, 0xC0A80002, 443, port, port, 6, 0⟩

theorem del_frame_iff_sweepSafe_tcp :
    ∃ s l t, l ∈ s.live ∧ ipaNatDelIpv4Rule true l.hdl ⟨s.cache, []⟩ = some (0, t) ∧
      (FrameKept s l.hdl t.cache ↔ SweepSafe s l.hdl) := by
  obtain ⟨s, hs⟩ := Option.isSome_iff_exists.mp (show (runOps (natStep oneNetwork) (newTable 2 2)
    [.add (tcpRule 1) {}, .add (tcpRule 2) {}]).isSome = true by decide)
  have live : (runOps (natStep oneNetwork) (newTable 2 2)
      [.add (tcpRule 1) {}, .add (tcpRule 2) {}]).map NatSys.live =
      some [⟨2, 3, tcpRule 2⟩, ⟨1, 1, tcpRule 1⟩] := by decide
  have gone : ((runOps (natStep oneNetwork) (newTable 2 2)
      [.add (tcpRule 1) {}, .add (tcpRule 2) {}]).bind fun s =>
        (ipaNatDelIpv4Rule true 2 ⟨s.cache, []⟩).map Prod.fst) = some 0 := by decide
  rw [hs] at live gone
  obtain ⟨⟨ret, t⟩, hd, rfl⟩ := Option.map_eq_some_iff.mp gone
  have hl : (⟨2, 3, tcpRule 2⟩ : LiveRule) ∈ s.live := by
    rw [Option.some.inj live]
    simp
  exact ⟨s, _, t, hl, hd, del_frame_iff_sweepSafe ⟨by decide, by decide, by decide, by decide⟩
    ⟨[.add (tcpRule 1) {}, .add (tcpRule 2) {}],
      ⟨trivial, fun _ _ => ⟨trivial, fun _ _ => trivial⟩⟩, hs⟩ hl hd⟩

/-- A rule with protocol 255 in a base slot does not survive the delete of the rule behind it. -/
theorem del_sweeps_live_rule : ¬∀ (env : NatEnv) (N M : Nat) (s : NatSys) (l : LiveRule) (t : NatMem),
    TableDims N M → Reached (natStep env) (fun _ _ => True) (newTable N M) s → l ∈ s.live →
    ipaNatDelIpv4Rule true l.hdl ⟨s.cache, []⟩ = some (0, t) → FrameKept s l.hdl t.cache := by
  intro h
  obtain ⟨s, hs⟩ := Option.isSome_iff_exists.mp (show (runOps (natStep oneNetwork) (newTable 2 2)
    [.add { tcpRule 1 with protocol := 255 } {}, .add (tcpRule 2) {}]).isSome = true by
      decide)
  have live : (runOps (natStep oneNetwork) (newTable 2 2)
      [.add { tcpRule 1 with protocol := 255 } {}, .add (tcpRule 2) {}]).map NatSys.live =
      some [⟨2, 3, tcpRule 2⟩, ⟨1, 1, { tcpRule 1 with protocol := 255 }⟩] := by decide
  have gone : ((runOps (natStep oneNetwork) (newTable 2 2)
      [.add { tcpRule 1 with protocol := 255 } {}, .add (tcpRule 2) {}]).bind fun s =>
        (ipaNatDelIpv4Rule true 2 ⟨s.cache, []⟩).map fun p => (p.1, (p.2.cache.rules 1).enable)) =
      some (0, false) := by decide
  rw [hs] at live gone
  obtain ⟨⟨ret, t⟩, hd, hp⟩ := Option.map_eq_some_iff.mp gone
  obtain ⟨rfl, hoff⟩ := Prod.mk.inj hp
  have hl : ∀ l ∈ [(⟨2, 3, tcpRule 2⟩ : LiveRule), ⟨1, 1, { tcpRule 1 with protocol := 255 }⟩],
      l ∈ s.live := by
    rw [Option.some.inj live]
    exact fun _ hm => hm
  have frame := h oneNetwork 2 2 s ⟨2, 3, tcpRule 2⟩ t
    ⟨by decide, by decide, by decide, by decide⟩
    ⟨[.add { tcpRule 1 with protocol := 255 } {}, .add (tcpRule 2) {}],
      ⟨trivial, fun _ _ => ⟨trivial, fun _ _ => trivial⟩⟩, hs⟩ (hl _ (by simp)) hd
  have hon := (frame ⟨1, 1, { tcpRule 1 with protocol := 255 }⟩ (hl _ (by simp)) (by decide)).2.1
  rw [hoff] at hon
  exact absurd hon (by decide)

/-- A delete of the handle fails and changes nothing, whether or not the hardware is willing. -/
def DelRejected (s : NatSys) (h : Nat) : Prop :=
  ∀ ok, ∃ ret, ret ≠ 0 ∧ ipaNatDelIpv4Rule ok h ⟨s.cache, []⟩ = some (ret, ⟨s.cache, []⟩)

def QueryRejected (s : NatSys) (h : Nat) : Prop :=
  ∃ ret ts, ret ≠ 0 ∧ ipaNatQueryTimestamp h s.cache = some (ret, ts)

theorem HandleInv.delRejected (inv : HandleInv env s) {h : Nat}
    (dead : ∀ l ∈ s.live, l.hdl ≠ h % 2 ^ 16) (hg : h % 2 ^ 16 ≠ 0) : DelRejected s h := by
  intro ok
  refine ⟨einval, by decide, ?_⟩
  unfold ipaNatDelIpv4Rule ipaNatiDelIpv4Rule
  rw [inv.parse_dead dead, if_neg hg, if_neg (by rintro rfl; exact hg rfl)]
  rfl

theorem HandleInv.del_alias (inv : HandleInv env s) {h : Nat} (wide : 2 ^ 16 ≤ h)
    (hit : h % 2 ^ 16 = 0 ∨ ∃ l ∈ s.live, l.hdl = h % 2 ^ 16) :
    ipaNatDelIpv4Rule true h ⟨s.cache, []⟩ = none := by
  cases hd : ipaNatDelIpv4Rule true h ⟨s.cache, []⟩ with
  | none => rfl
  | some p =>
    obtain ⟨ret, t⟩ := p
    have hbase := inv.dims.baseHigh
    have hexpn := inv.dims.expnHigh
    have hb := inv.dims.baseLow
    rcases ipaNatDelIpv4Rule_cases hd with ⟨-, -, hwhy⟩ | ⟨-, -, _, _, -, -, -, -, hlt, -⟩
    · obtain ⟨expn, entry, hp, hdead⟩ := hwhy rfl (by omega)
      dsimp only at hp hdead
      rcases hit with hz | ⟨l, hl, hh⟩
      · rw [hz, ipaNatiParseIpv4RuleHdl, if_neg (by omega), if_pos rfl] at hp
        cases hp
      · rw [← hh] at hp
        obtain ⟨expn', entry', hp', h0, -, hs⟩ := inv.parse hl
        cases Option.some.inj (hp.symm.trans hp')
        rcases hdead with hdead | hdead
        · exact absurd hdead h0
        · rw [hs, inv.enabled hl] at hdead
          exact absurd hdead (by decide)
    · dsimp only at hlt
      omega

theorem query_not_rejected (s : NatSys) (h : Nat) : ¬QueryRejected s h := by
  rintro ⟨ret, ts, hret, hq⟩
  obtain ⟨p, -, hp⟩ := Option.map_eq_some_iff.mp hq
  exact hret (congrArg Prod.fst hp).symm

end DeviceHal.IpaNat
