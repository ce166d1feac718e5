import DeviceHal.IpaNat.TableAdd
import DeviceHal.IpaNat.TableRetire

namespace DeviceHal.IpaNat

open Lib

variable {env : NatEnv} {s : NatSys} {dst src : Nat → List Nat}

/-- A live rule hangs on the chain of its hash, one index entry points to it, the rule names that
entry, and the entry hangs on the chain of the other hash. -/
structure Indexed (env : NatEnv) (c : Ip4TableCache) (dst src : Nat → List Nat) (l : LiveRule) :
    Prop where
  onDst : l.slot ∈ dstBucket env c.tableEntries l.rule :: dst (dstBucket env c.tableEntries l.rule)
  entry : InTable c (c.rules l.slot).indxTblEntry
  points : ∀ x, InTable c x →
    ((c.indx x).tblEntry = l.slot ↔ x = (c.rules l.slot).indxTblEntry)
  onSrc : (c.rules l.slot).indxTblEntry ∈
    srcBucket c.tableEntries l.rule :: src (srcBucket c.tableEntries l.rule)

/-- The representation invariant: the chains of both tables, and every live rule indexed. -/
structure RepInv (env : NatEnv) (s : NatSys) (dst src : Nat → List Nat) : Prop where
  ruleChains : RuleChains s.cache dst
  indxChains : IndxChains s.cache src
  indexed : ∀ l ∈ s.live, Indexed env s.cache dst src l

theorem TableInv.repInv (inv : TableInv env s dst src) : RepInv env s dst src where
  ruleChains := inv.ruleChains
  indxChains := inv.indxChains
  indexed := by
    intro l hl
    refine ⟨inv.onDst l hl, inv.indx_inTable hl, fun x hx => ⟨fun hp => ?_, fun he => ?_⟩,
      inv.onSrc l hl⟩
    · have hpos := (inv.slot l hl).pos
      obtain ⟨k, hk, hkx⟩ := inv.owner x hx (by omega)
      have hks := inv.points k hk
      grind
    · rw [he]
      exact inv.points l hl

/-- The calls that keep the tables whole: the ioctls of an add succeed and its index link does not
wrap, no deleted handle is an alias and no live rule is taken for a dead head. -/
def SafeOp (env : NatEnv) (s : NatSys) : NatOp → Prop
  | .add clntRule io => IoctlsMeet env clntRule io s.cache ∧ ¬WrapsLink env clntRule s.cache
  | .del ruleHdl _ => NotAlias s ruleHdl.toNat ∧ SweepSafe s ruleHdl.toNat

/-- The same for clients that do not use the dead protocol. -/
def SoundOp (env : NatEnv) (s : NatSys) : NatOp → Prop
  | .add clntRule io => clntRule.protocol ≠ ipaNatInvalidProtoFieldCmp ∧
      IoctlsMeet env clntRule io s.cache ∧ ¬WrapsLink env clntRule s.cache
  | .del ruleHdl _ => NotAlias s ruleHdl.toNat

def NoDeadProto (s : NatSys) : Prop :=
  ∀ l ∈ s.live, l.rule.protocol ≠ ipaNatInvalidProtoFieldCmp

theorem NoDeadProto.sweepSafe (h : NoDeadProto s) (hdl : Nat) : SweepSafe s hdl :=
  fun _ _ _ k hk _ _ hp => absurd hp (h k hk)

theorem SoundOp.safe (h : NoDeadProto s) {op : NatOp} (ok : SoundOp env s op) : SafeOp env s op := by
  cases op with
  | add clntRule io => exact ok.2
  | del ruleHdl ok' => exact ⟨ok, h.sweepSafe _⟩

theorem NoDeadProto.step (h : NoDeadProto s) {op : NatOp} {t : NatSys} (ok : SoundOp env s op)
    (hstep : natStep env s op = some t) : NoDeadProto t := by
  cases op with
  | add clntRule io =>
    obtain ⟨⟨ret, hdl, m⟩, -, rfl⟩ := Option.map_eq_some_iff.mp hstep
    intro l hl
    simp only [afterAdd] at hl
    split at hl
    next =>
      rcases List.mem_cons.mp hl with rfl | hl
      · exact ok.1
      · exact h l hl
    next => exact h l hl
  | del ruleHdl ok' =>
    obtain ⟨⟨ret, m⟩, -, rfl⟩ := Option.map_eq_some_iff.mp hstep
    intro l hl
    simp only [afterDel] at hl
    split at hl
    next => exact h l (List.mem_of_mem_filter hl)
    next => exact h l hl

theorem HandleInv.del_returns (inv : HandleInv env s) (ok : Bool) {h : Nat}
    (notAlias : NotAlias s h) : (ipaNatDelIpv4Rule ok h ⟨s.cache, []⟩).isSome := by
  by_cases hz : h = 0
  · subst hz
    rfl
  by_cases hlive : ∃ l ∈ s.live, l.hdl = h % 2 ^ 16
  · obtain ⟨l, hl, hh⟩ := hlive
    have hsmall : h < 2 ^ 16 := notAlias.resolve_right fun hna => hna.2 l hl hh
    rw [Nat.mod_eq_of_lt hsmall] at hh
    have hbound := inv.hdl l hl
    obtain ⟨expn, entry, hp, h0, -, -⟩ := inv.parse hl
    unfold ipaNatDelIpv4Rule ipaNatiDelIpv4Rule
    rw [if_neg (show ¬h = ipaNatInvalidNatEntry from hz), Nat.mod_eq_of_lt hsmall, ← hh]
    dsimp only
    rw [hp, Option.bind_some]
    dsimp only
    rw [if_neg (show ¬entry = ipaNatInvalidNatEntry from h0)]
    generalize hq : ipaNatiPostDelDmaCmd ok ⟨s.cache, []⟩ entry expn _ = q
    obtain ⟨ret, t⟩ := q
    dsimp only
    rcases ipaNatiPostDelDmaCmd_cases hq with ⟨hret, -, -⟩ | ⟨rfl, -, -, rfl⟩
    · rw [if_pos hret]
      rfl
    · have keep := LinksOnly.dropRule ⟨s.cache, []⟩ expn entry
      have sweep := LinksOnly.sweep (dropRule ⟨s.cache, []⟩ (tblStart s.cache expn + entry) entry
        (ipaNatiFindRulePos s.cache expn entry))
      grind [sweep.base, sweep.expn, keep.base, keep.expn]
  · push Not at hlive
    have hg : h % 2 ^ 16 ≠ 0 := by
      rcases notAlias with hsmall | ⟨hg, -⟩
      · rwa [Nat.mod_eq_of_lt hsmall]
      · exact hg
    obtain ⟨ret, -, hsome⟩ := inv.delRejected hlive hg ok
    rw [hsome]
    rfl

theorem TableInv.step (inv : TableInv env s dst src) {op : NatOp} (ok : SafeOp env s op) :
    ∃ t, natStep env s op = some t ∧ ∃ dst' src', TableInv env t dst' src' := by
  cases op with
  | add clntRule io =>
    obtain ⟨meet, fits⟩ := ok
    have hreturns : (ipaNatAddIpv4Rule env io clntRule ⟨s.cache, []⟩).isSome :=
      ipaNatAddIpv4Rule_returns io fun _ => inv.chooseRule_returns clntRule
    obtain ⟨⟨ret, hdl, m⟩, ha⟩ := Option.isSome_iff_exists.mp hreturns
    exact ⟨_, Option.map_eq_some_iff.mpr ⟨_, ha, rfl⟩, inv.add meet fits ha⟩
  | del ruleHdl ok' =>
    obtain ⟨⟨ret, m⟩, hd⟩ := Option.isSome_iff_exists.mp (inv.toHandleInv.del_returns ok' ok.1)
    exact ⟨_, Option.map_eq_some_iff.mpr ⟨_, hd, rfl⟩, inv.del ok.2 hd⟩

theorem safe_reached {N M : Nat} (dims : TableDims N M)
    (reach : Reached (natStep env) (SafeOp env) (newTable N M) s) :
    ∃ dst src, TableInv env s dst src := by
  have keeps : ∀ s op t, (∃ dst src, TableInv env s dst src) → SafeOp env s op →
      natStep env s op = some t → ∃ dst src, TableInv env t dst src := by
    intro s op t inv ok hstep
    obtain ⟨dst, src, inv⟩ := inv
    obtain ⟨u, hu, inv'⟩ := inv.step ok
    cases Option.some.inj (hstep.symm.trans hu)
    exact inv'
  exact reached_invariant keeps ⟨_, _, newTable_tableInv env dims⟩ reach

theorem sound_run {N M : Nat} (dims : TableDims N M) {ops : List NatOp}
    (meet : OpsMeet (natStep env) (SoundOp env) (newTable N M) ops) :
    ∃ t, runOps (natStep env) (newTable N M) ops = some t ∧ NoDeadProto t ∧
      ∃ dst src, TableInv env t dst src := by
  have step : ∀ s op, (NoDeadProto s ∧ ∃ dst src, TableInv env s dst src) → SoundOp env s op →
      ∃ t, natStep env s op = some t ∧ (NoDeadProto t ∧ ∃ dst src, TableInv env t dst src) := by
    intro s op inv ok
    obtain ⟨hproto, dst, src, inv⟩ := inv
    obtain ⟨t, ht, inv'⟩ := inv.step (ok.safe hproto)
    exact ⟨t, ht, hproto.step ok ht, inv'⟩
  have first : NoDeadProto (newTable N M) := by simp [NoDeadProto, newTable]
  exact run_returns step ⟨first, _, _, newTable_tableInv env dims⟩ meet

theorem sound_reached {N M : Nat} (dims : TableDims N M)
    (reach : Reached (natStep env) (SoundOp env) (newTable N M) s) :
    NoDeadProto s ∧ ∃ dst src, TableInv env s dst src := by
  obtain ⟨ops, meet, run⟩ := reach
  obtain ⟨t, ht, inv⟩ := sound_run dims meet
  cases Option.some.inj (run.symm.trans ht)
  exact inv

/-- Every sequence of sound calls returns, and the representation invariant holds after it. -/
theorem run_representation {N M : Nat} (dims : TableDims N M) {ops : List NatOp}
    (meet : OpsMeet (natStep env) (SoundOp env) (newTable N M) ops) :
    ∃ t, runOps (natStep env) (newTable N M) ops = some t ∧ ∃ dst src, RepInv env t dst src := by
  obtain ⟨t, ht, -, dst, src, inv⟩ := sound_run dims meet
  exact ⟨t, ht, dst, src, inv.repInv⟩

theorem wrapsLink_large {r : IpaNatIpv4Rule} {c : Ip4TableCache} (low : 2 ≤ c.tableEntries)
    (high : c.tableEntries ≤ 2 ^ 15) (h : WrapsLink env r c) : 2 ^ 14 < c.tableEntries :=
  Nat.lt_of_le_of_lt h.2.2.1 (srcBucket_bound low high r).2

theorem run_representation_small :
    ∃ t, runOps (natStep oneNetwork) (newTable 2 2) [.add (tcpRule 1) {}, .del 1 true] = some t ∧
      ∃ dst src, RepInv oneNetwork t dst src := by
  refine run_representation ⟨by decide, by decide, by decide, by decide⟩
    ⟨⟨by decide, fun _ _ _ => ⟨rfl, fun _ => rfl, fun _ => rfl⟩, fun h => ?_⟩,
      fun _ _ => ⟨Or.inl (by decide), fun _ _ => trivial⟩⟩
  have hlarge := wrapsLink_large (by decide) (by decide) h
  exact absurd hlarge (by decide)

/-- A client call of a rule with a live protocol, and no ioctl fails. -/
def PlainOp : NatOp → Prop
  | .add clntRule io => clntRule.protocol ≠ ipaNatInvalidProtoFieldCmp ∧ io = {}
  | .del _ ok => ok = true

/-- In a table for 25000 entries two connections with the source hash 16662 leave the
second index entry off its chain. -/
theorem second_indx_lost : ¬∀ (env : NatEnv) (N M : Nat) (ops : List NatOp), TableDims N M →
    (∀ op ∈ ops, PlainOp op) →
    ∃ t, runOps (natStep env) (newTable N M) ops = some t ∧ ∃ dst src, RepInv env t dst src := by
  intro h
  have plain : ∀ op ∈ [NatOp.add (tcpRule 1) {}, .add { tcpRule 1 with publicPort := 2 } {}],
      PlainOp op := by
    intro op hop
    simp only [List.mem_cons, List.not_mem_nil, or_false] at hop
    rcases hop with rfl | rfl <;> exact ⟨by decide, rfl⟩
  obtain ⟨t, ht, dst, src, inv⟩ := h oneNetwork 32768 5000 _
    ⟨by decide, by decide, by decide, by decide⟩ plain
  have seen : (runOps (natStep oneNetwork) (newTable 32768 5000)
      [.add (tcpRule 1) {}, .add { tcpRule 1 with publicPort := 2 } {}]).map (fun t =>
        (t.cache.tableEntries,
          t.live.map fun l => ((t.cache.rules l.slot).indxTblEntry,
            srcBucket t.cache.tableEntries l.rule), (t.cache.indx 16662).nextIndex)) =
      some (32768, [(32769, 16662), (16662, 16662)], 0) := by decide
  rw [ht] at seen
  obtain ⟨hN, hlive, hnext⟩ : _ ∧ _ ∧ _ := by
    simpa only [Option.map_some, Option.some.injEq, Prod.mk.injEq] using seen
  have hm : ((32769, 16662) : Nat × Nat) ∈ t.live.map fun l =>
      ((t.cache.rules l.slot).indxTblEntry, srcBucket t.cache.tableEntries l.rule) := by
    rw [hlive]
    simp
  obtain ⟨l, hl, he⟩ := List.mem_map.mp hm
  obtain ⟨hx, hb⟩ := Prod.mk.inj he
  have hon := (inv.indexed l hl).onSrc
  rw [hx, hb] at hon
  have hlink := inv.indxChains.linked 16662 (by rw [hN]; decide)
  rw [hlink.nil_iff.mp hnext] at hon
  simp at hon

theorem TableInv.free_of_empty (inv : TableInv env s dst src) (hlive : s.live = []) {e : Nat}
    (he : InTable s.cache e) : (s.cache.rules e).enable = false := by
  by_contra hu
  have hnone : ∀ x, InTable s.cache x → (s.cache.rules x).enable = true →
      x < s.cache.tableEntries ∧ (s.cache.rules x).nextIndex ≠ 0 := by
    intro x hx hx'
    rcases inv.inUse x hx hx' with ⟨l, hl, -⟩ | ⟨-, hlt, -, hnext⟩
    · simp [hlive] at hl
    · exact ⟨hlt, hnext⟩
  have hused : (s.cache.rules e).enable = true := by simpa using hu
  have hb := (hnone e he hused).1
  -- a dead head is kept for the chain behind it, and the last rule of that chain is no dead head
  have hlast := inv.ruleChains.last_used hb hused
  refine (hnone _ ?_ hlast).2 (inv.ruleChains.linked e hb).last
  rcases List.mem_cons.mp (lastCell_mem e (dst e)) with h | h
  · rw [h]
    exact he
  · exact Or.inr (inv.ruleChains.isCell e hb _ h)

/-- Once no rule of a table is live any more, the table and its handles are as they were when it was
created. -/
theorem emptied_as_new {numberOfEntries : Nat} {c : Ip4TableCache} (hn : numberOfEntries < 2 ^ 16)
    (created : ipaNatiAddIpv4Tbl numberOfEntries = some c) (hz : 2 ≤ c.tableEntries)
    (reach : Reached (natStep env) (SoundOp env) ⟨c, []⟩ s) (hlive : s.live = []) :
    (∀ e, InTable s.cache e → s.cache.rules e = c.rules e ∧ s.cache.indx e = c.indx e) ∧
      ∀ i < s.cache.tableEntries + s.cache.expnTableEntries,
        s.cache.ruleIdArray i = c.ruleIdArray i := by
  obtain ⟨⟨N, M⟩, hd, rfl⟩ := Option.map_eq_some_iff.mp created
  obtain ⟨-, dst, src, inv⟩ := sound_reached (ipaNatiAllocTable_dims hn hd hz).1 reach
  refine ⟨fun e he => ⟨?_, ?_⟩, fun i hi => ?_⟩
  · exact inv.zeroRule e he (inv.free_of_empty hlive he)
  · refine inv.zeroIndx e he ?_
    by_contra hne
    obtain ⟨l, hl, -⟩ := inv.owner e he hne
    simp [hlive] at hl
  · by_contra hne
    obtain ⟨l, hl, -⟩ := inv.ids i hi hne
    simp [hlive] at hl

theorem emptied_as_new_small : ∃ s, runOps (natStep oneNetwork) (newTable 2 2)
    [.add (tcpRule 1) {}, .del 1 true] = some s ∧
      (∀ e, InTable s.cache e → s.cache.rules e = {} ∧ s.cache.indx e = {}) ∧
      ∀ i < s.cache.tableEntries + s.cache.expnTableEntries, s.cache.ruleIdArray i = 0 := by
  have meet : OpsMeet (natStep oneNetwork) (SoundOp oneNetwork) (newTable 2 2)
      [.add (tcpRule 1) {}, .del 1 true] := by
    refine ⟨⟨by decide, fun _ _ _ => ⟨rfl, fun _ => rfl, fun _ => rfl⟩, fun h => ?_⟩,
      fun _ _ => ⟨Or.inl (by decide), fun _ _ => trivial⟩⟩
    exact absurd (wrapsLink_large (by decide) (by decide) h) (by decide)
  have hempty : (runOps (natStep oneNetwork) (newTable 2 2)
      [.add (tcpRule 1) {}, .del 1 true]).map NatSys.live = some [] := by decide
  obtain ⟨s, hs, hlive⟩ := Option.map_eq_some_iff.mp hempty
  exact ⟨s, hs, @emptied_as_new _ _ 2 _ (by decide) rfl (by decide) ⟨_, meet, hs⟩ hlive⟩

end DeviceHal.IpaNat
