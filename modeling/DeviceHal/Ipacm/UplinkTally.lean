import DeviceHal.Ipacm.UplinkOrder
import DeviceHal.Ipacm.UplinkOffload

namespace DeviceHal.Ipacm

open Lib

namespace UplinkLan

variable {s t : UplinkLan} {wan : WanView} {iface : UplinkIface} {iptype : IpaIpType} {calls : IpaCalls}
  {group : FltGroup} {hdls : List Nat}

/-- Up to the first array that stays, each array is of rules that were installed, and goes or stays
as a whole. -/
def GroupsGo (calls : IpaCalls) : List (List Nat) → Prop
  | [] => True
  | hdls :: groups => (∃ hdl ∈ hdls, hdl ≠ 0) ∧ GoesWhole calls hdls ∧
      ((∀ hdl ∈ hdls, calls.deletesFltRule hdl = true) → GroupsGo calls groups)

/-- Arrays of different groups of one family, each of rules that are there or never were. -/
structure Arrays (driver : Handles FltRule) (iptype : IpaIpType) (groups : List (FltGroup × List Nat)) :
    Prop where
  nodup : (groups.map Prod.fst).Nodup
  family : ∀ g ∈ groups, g.1.iptype = iptype
  held : ∀ g ∈ groups, g.2 ≠ [] ∧ ∃ n, HeldOrZero driver g.1 n g.2

/-- A state that differs in what is installed and counted. -/
def SameRecords (s t : UplinkLan) : Prop :=
  ∃ driver count, t = { s with driver := driver, fltRuleCount := count }

variable {u : UplinkLan}

theorem SameRecords.trans (h : SameRecords s t) (h' : SameRecords t u) : SameRecords s u := by
  obtain ⟨_, _, rfl⟩ := h
  obtain ⟨_, _, rfl⟩ := h'
  exact ⟨_, _, rfl⟩

theorem HeldOrZero.held_of_ne {driver : Handles FltRule} {n : Nat} (h : HeldOrZero driver group n hdls)
    (hne : ∃ hdl ∈ hdls, hdl ≠ 0) : Held driver group hdls := by
  refine h.2.resolve_left fun hzero => ?_
  grind

variable {groups : List (FltGroup × List Nat)} {g : FltGroup × List Nat}

theorem Arrays.tail (h : Arrays s.driver iptype (g :: groups)) (hheld : Held s.driver g.1 g.2) :
    Arrays (s.driver.delAll g.2) iptype groups := by
  obtain ⟨hnotin, hnodup⟩ := List.nodup_cons.mp h.nodup
  refine ⟨hnodup, fun g' hmem => h.family g' (List.mem_cons_of_mem _ hmem), fun g' hmem => ?_⟩
  obtain ⟨hne, n, hor⟩ := h.held g' (List.mem_cons_of_mem _ hmem)
  refine ⟨hne, n, hor.del_other hheld fun heq => hnotin ?_⟩
  rw [← heq]
  exact List.mem_map_of_mem hmem

theorem deleteGroups_spec (hbalanced : s.Balanced)
    (hsound : s.driver.Sound) (harrays : Arrays s.driver iptype groups)
    (hgo : GroupsGo calls (groups.map Prod.snd)) :
    ∃ t, s.deleteGroups calls iptype (groups.map Prod.snd) =
        ((groups.map Prod.snd).all fun hdls => hdls.all calls.deletesFltRule, t) ∧
      t.Balanced ∧ t.driver.Sound ∧ SameRecords s t ∧
      ∀ group hdls n, group ∉ groups.map Prod.fst → HeldOrZero s.driver group n hdls →
        HeldOrZero t.driver group n hdls := by
  induction groups generalizing s with
  | nil =>
    exact ⟨s, rfl, hbalanced, hsound, ⟨_, _, rfl⟩, fun _ _ _ _ hheld => hheld⟩
  | cons g groups ih =>
    obtain ⟨hsome, hwhole, hrest⟩ := hgo
    obtain ⟨-, n, hor⟩ := harrays.held g List.mem_cons_self
    have hheld := HeldOrZero.held_of_ne hor hsome
    have hfamily := harrays.family g List.mem_cons_self
    simp only [List.map_cons, deleteGroups]
    rcases deleteFilteringHdls_cases hbalanced hsound hheld hwhole with
      ⟨hall, heq⟩ | ⟨hstay, heq⟩
    · have hgone := deleted_eq iptype hbalanced hsound hheld hfamily
      have hbal : (s.deleted iptype g.2).Balanced := by
        rw [hgone]
        exact deleted_balanced hbalanced hsound hheld hfamily
      obtain ⟨t, ht, htbal, htsound, hsame, hothers⟩ :=
        ih (s := s.deleted iptype g.2) hbal (hsound.delAll g.2) (harrays.tail hheld) (hrest hall)
      rw [heq]
      refine ⟨t, ?_, htbal, htsound, SameRecords.trans ⟨_, _, hgone⟩ hsame,
        fun group hdls n hnotin hother => ?_⟩
      · grind
      · refine hothers group hdls n (fun hmem => hnotin (List.mem_cons_of_mem _ hmem)) ?_
        exact hother.del_other hheld fun he => hnotin (he ▸ List.mem_cons_self)
    · rw [heq]
      refine ⟨s, ?_, hbalanced, hsound, ⟨_, _, rfl⟩, fun _ _ _ _ hother => hother⟩
      grind

theorem deleteGroups_damaged (hbalanced : s.Balanced)
    (hsound : s.driver.Sound) (harrays : Arrays s.driver iptype groups)
    (hpart : ¬GroupsGo calls (groups.map Prod.snd)) :
    (s.deleteGroups calls iptype (groups.map Prod.snd)).2.Damaged := by
  induction groups generalizing s with
  | nil => exact absurd trivial hpart
  | cons g groups ih =>
    obtain ⟨hne, n, hor⟩ := harrays.held g List.mem_cons_self
    have hfamily := harrays.family g List.mem_cons_self
    have hfirst : (s.deleteFilteringHdls calls iptype g.2).2.Damaged ∨
        s.deleteFilteringHdls calls iptype g.2 = (true, s.deleted iptype g.2) ∧
          Held s.driver g.1 g.2 ∧ ¬GroupsGo calls (groups.map Prod.snd) := by
      by_cases hsome : ∃ hdl ∈ g.2, hdl ≠ 0
      · have hheld := HeldOrZero.held_of_ne hor hsome
        by_cases hwhole : GoesWhole calls g.2
        · have hlater : (∀ hdl ∈ g.2, calls.deletesFltRule hdl = true) ∧
              ¬GroupsGo calls (groups.map Prod.snd) := by
            refine Classical.not_imp.mp fun hrest => hpart ⟨hsome, hwhole, hrest⟩
          refine Or.inr ⟨?_, hheld, hlater.2⟩
          exact deleteFilteringHdls_ok _ hsound.zero fun hdl hmem _ => hlater.1 hdl hmem
        · exact Or.inl (Or.inr (deleteFilteringHdls_miscounted hbalanced hsound hheld hfamily hwhole))
      · refine Or.inl (Or.inr (deleteFilteringHdls_zero hbalanced hne fun hdl hmem => ?_))
        grind
    simp only [List.map_cons, deleteGroups]
    rcases hfirst with hdamaged | ⟨heq, hheld, hlater⟩
    · split
      next hstop =>
        rw [hstop] at hdamaged
        exact hdamaged
      next hgone =>
        rw [hgone] at hdamaged
        exact hdamaged.deleteGroups _
    · rw [heq]
      have hgone := deleted_eq iptype hbalanced hsound hheld hfamily
      have hbal : (s.deleted iptype g.2).Balanced := by
        rw [hgone]
        exact deleted_balanced hbalanced hsound hheld hfamily
      exact ih (s := s.deleted iptype g.2) hbal (hsound.delAll g.2) (harrays.tail hheld) hlater

/-- The arrays of `baseGroups`, with the groups their rules are of. -/
def baseArrays (s : UplinkLan) (iptype : IpaIpType) : List (FltGroup × List Nat) :=
  (.icmp iptype, [s.icmpFltRuleHdl iptype]) ::
    (if (s.dftFlRuleHdl iptype).headD 0 = 0 then [] else [(.dft iptype, s.dftFlRuleHdl iptype)]) ++
    (if iptype = .v4 then [(.privateSubnet, s.privateFlRuleHdl)] else [])

theorem baseArrays_snd : (s.baseArrays iptype).map Prod.snd = s.baseGroups iptype := by
  unfold baseArrays baseGroups
  cases iptype <;> split <;> rfl

theorem mem_baseArrays (h : g ∈ s.baseArrays iptype) :
    g = (.icmp iptype, [s.icmpFltRuleHdl iptype]) ∨ g = (.dft iptype, s.dftFlRuleHdl iptype) ∨
      iptype = .v4 ∧ g = (.privateSubnet, s.privateFlRuleHdl) := by
  unfold baseArrays at h
  rcases List.mem_append.mp h with h | h
  · grind
  grind

theorem arrays_of_heldOrZero {driver : Handles FltRule}
    (h : ∀ g ∈ s.baseArrays iptype, g.2 ≠ [] ∧ ∃ n, HeldOrZero driver g.1 n g.2) :
    Arrays driver iptype (s.baseArrays iptype) := by
  refine ⟨?_, fun g hg => ?_, h⟩
  · unfold baseArrays
    cases iptype <;> split <;> simp
  · rcases mem_baseArrays hg with rfl | rfl | ⟨rfl, rfl⟩ <;> rfl

theorem InOrder.heldOrZero (h : s.InOrder) (hg : g ∈ s.baseArrays iptype) :
    g.2 ≠ [] ∧ ∃ n, HeldOrZero s.driver g.1 n g.2 := by
  rcases mem_baseArrays hg with rfl | rfl | ⟨rfl, rfl⟩
  · exact ⟨List.cons_ne_nil _ _, 1, h.base.icmp iptype⟩
  · have hdft := h.base.dft iptype
    refine ⟨List.length_pos_iff.mp ?_, _, hdft⟩
    rw [hdft.1]
    cases iptype <;> decide
  · have hpriv := h.base.priv
    grind [hpriv.1]

/-- All that came with an address of the family can go. -/
def BaseGoes (s : UplinkLan) (calls : IpaCalls) (iptype : IpaIpType) : Prop :=
  s.ipType.covers iptype = true → GroupsGo calls (s.baseGroups iptype)

def baseGone (s : UplinkLan) (calls : IpaCalls) (iptype : IpaIpType) : Bool :=
  !s.ipType.covers iptype ||
    (s.baseGroups iptype).all fun hdls => hdls.all calls.deletesFltRule

theorem deleteBase_spec (hbalanced : s.Balanced) (hsound : s.driver.Sound)
    (harrays : Arrays s.driver iptype (s.baseArrays iptype)) (hgoes : s.BaseGoes calls iptype) :
    ∃ t, s.deleteBase calls iptype = (s.baseGone calls iptype, t) ∧ t.Balanced ∧ t.driver.Sound ∧
      SameRecords s t ∧ ∀ group hdls n, group ∉ (s.baseArrays iptype).map Prod.fst →
        HeldOrZero s.driver group n hdls → HeldOrZero t.driver group n hdls := by
  unfold deleteBase baseGone
  split
  next hcovers =>
    have hgo := hgoes hcovers
    rw [← baseArrays_snd] at hgo ⊢
    rw [hcovers, Bool.not_true, Bool.false_or]
    exact deleteGroups_spec hbalanced hsound harrays hgo
  next hcovers =>
    have hcovers : s.ipType.covers iptype = false := by simpa using hcovers
    rw [hcovers]
    exact ⟨s, rfl, hbalanced, hsound, ⟨_, _, rfl⟩, fun _ _ _ _ hheld => hheld⟩

theorem deleteBase_damaged (hbalanced : s.Balanced) (hsound : s.driver.Sound)
    (harrays : Arrays s.driver iptype (s.baseArrays iptype)) (hpart : ¬s.BaseGoes calls iptype) :
    (s.deleteBase calls iptype).2.Damaged := by
  obtain ⟨hcovers, hpart⟩ := Classical.not_imp.mp hpart
  unfold deleteBase
  rw [if_pos hcovers]
  rw [← baseArrays_snd] at hpart ⊢
  exact deleteGroups_damaged hbalanced hsound harrays hpart

/-- What `handle_down_evt` needs. -/
def ClosesClean (s : UplinkLan) (iface : UplinkIface) (wan : WanView) (calls : IpaCalls) : Prop :=
  (iface.isOduIf && !calls.deletesOduHeaders) = false → s.ipType ≠ .null →
    (∀ iptype, wan.isWanUp iptype = true → s.TakesDown calls iptype wan.backhaulIsStaMode) ∧
      s.BaseGoes calls .v4 ∧ (s.baseGone calls .v4 = true → s.BaseGoes calls .v6)

theorem takesDown_congr {isStaMode : Bool} (hplace : u.inPlace iptype = s.inPlace iptype)
    (hpre : iptype = .v6 → (u.PrefixUp ↔ s.PrefixUp)) :
    u.TakesDown calls iptype isStaMode ↔ s.TakesDown calls iptype isStaMode := by
  unfold TakesDown
  rw [withdraws_congr hplace]
  grind

theorem withdrawV4_spec (h : s.InOrder)
    (htakes : wan.isWanUp .v4 = true → s.TakesDown calls .v4 wan.backhaulIsStaMode) :
    ∃ u, u = (if wan.isWanUp .v4 then s.handleWanDown calls .v4 wan.backhaulIsStaMode else s) ∧
      u.InOrder ∧ u.flags = s.flags ∧ u.inPlace .v6 = s.inPlace .v6 ∧ u.baseGroups = s.baseGroups ∧
      (u.PrefixUp ↔ s.PrefixUp) := by
  refine ⟨_, rfl, ?_⟩
  split
  next hup =>
    obtain ⟨horder, hflags, hother, hbase, hpre⟩ := handleWanDown_inOrder h (htakes hup)
    exact ⟨horder, hflags, hother .v6 nofun, hbase, hpre rfl⟩
  next => exact ⟨h, rfl, rfl, rfl, Iff.rfl⟩

theorem withdrawals_spec (h : s.InOrder)
    (htakes : ∀ iptype, wan.isWanUp iptype = true → s.TakesDown calls iptype wan.backhaulIsStaMode) :
    ∃ t, t = (let u := if wan.isWanUp .v4 then s.handleWanDown calls .v4 wan.backhaulIsStaMode else s
        if wan.isWanUp .v6 then u.handleWanDown calls .v6 wan.backhaulIsStaMode else u) ∧
      t.InOrder ∧ t.flags = s.flags ∧ t.baseGroups = s.baseGroups := by
  obtain ⟨u, hu, horder, hflags, hplace, hbase, hpre⟩ := withdrawV4_spec h (htakes .v4)
  refine ⟨_, rfl, ?_⟩
  simp only [← hu]
  split
  next hup =>
    have htakes' := (takesDown_congr hplace fun _ => hpre).mpr (htakes .v6 hup)
    obtain ⟨horder', hflags', -, hbase', -⟩ := handleWanDown_inOrder horder htakes'
    exact ⟨horder', hflags'.trans hflags, hbase'.trans hbase⟩
  next => exact ⟨horder, hflags, hbase⟩

theorem withdrawals_damaged (h : s.InOrder) (hup : wan.isWanUp iptype = true)
    (hpart : ¬s.TakesDown calls iptype wan.backhaulIsStaMode) :
    (let u := if wan.isWanUp .v4 then s.handleWanDown calls .v4 wan.backhaulIsStaMode else s
      if wan.isWanUp .v6 then u.handleWanDown calls .v6 wan.backhaulIsStaMode else u).Damaged := by
  by_cases hfour : wan.isWanUp .v4 = true → s.TakesDown calls .v4 wan.backhaulIsStaMode
  · obtain ⟨u, hu, horder, -, hplace, -, hpre⟩ := withdrawV4_spec h hfour
    have hsix : iptype = .v6 := by
      cases iptype with
      | v4 => exact absurd (hfour hup) hpart
      | v6 => rfl
    subst hsix
    simp only [← hu]
    rw [if_pos hup]
    refine handleWanDown_damaged horder fun htakes => hpart ?_
    exact (takesDown_congr hplace fun _ => hpre).mp htakes
  · obtain ⟨hup4, hpart4⟩ := Classical.not_imp.mp hfour
    have hdamaged := handleWanDown_damaged h hpart4
    simp only [hup4, if_true]
    split
    · exact hdamaged.handleWanDown _
    · exact hdamaged

theorem handleDownEvt_open (hheaders : (iface.isOduIf && !calls.deletesOduHeaders) = false)
    (htype : s.ipType ≠ .null) :
    s.handleDownEvt iface wan calls =
      (let t := let u := if wan.isWanUp .v4 then s.handleWanDown calls .v4 wan.backhaulIsStaMode else s
        if wan.isWanUp .v6 then u.handleWanDown calls .v6 wan.backhaulIsStaMode else u
      let r := t.deleteBase calls .v4
      { if r.1 then (r.2.deleteBase calls .v6).2 else r.2 with isActive := false }) := by
  unfold handleDownEvt
  grind

theorem InOrder.arrays (h : s.InOrder) (iptype : IpaIpType) :
    Arrays s.driver iptype (s.baseArrays iptype) := arrays_of_heldOrZero fun _ hg => h.heldOrZero hg

theorem InOrder.arrays_later (h : s.InOrder) (hsame : SameRecords s u)
    (hothers : ∀ group hdls n, group ∉ (s.baseArrays .v4).map Prod.fst →
      HeldOrZero s.driver group n hdls → HeldOrZero u.driver group n hdls) :
    Arrays u.driver .v6 (u.baseArrays .v6) := by
  have harrays : u.baseArrays .v6 = s.baseArrays .v6 := by
    obtain ⟨_, _, rfl⟩ := hsame
    rfl
  rw [harrays]
  refine arrays_of_heldOrZero fun g hg => ?_
  obtain ⟨hne, n, hheld⟩ := h.heldOrZero hg
  refine ⟨hne, n, hothers g.1 g.2 n (fun hmem => ?_) hheld⟩
  obtain ⟨g', hg', heq⟩ := List.mem_map.mp hmem
  have hfour := (h.arrays .v4).family g' hg'
  have hsix := (h.arrays .v6).family g hg
  rw [heq, hsix] at hfour
  cases hfour

theorem closeBase_spec (h : s.InOrder) (hfour : s.BaseGoes calls .v4)
    (hsix : s.baseGone calls .v4 = true → s.BaseGoes calls .v6) :
    (if (s.deleteBase calls .v4).1 then ((s.deleteBase calls .v4).2.deleteBase calls .v6).2
      else (s.deleteBase calls .v4).2).Balanced ∧
    SameRecords s (if (s.deleteBase calls .v4).1 then ((s.deleteBase calls .v4).2.deleteBase calls .v6).2
      else (s.deleteBase calls .v4).2) := by
  obtain ⟨u, hu, hbalanced, hsound, hsame, hothers⟩ :=
    deleteBase_spec h.balanced h.books.sound (h.arrays .v4) hfour
  rw [hu]
  simp only
  split
  next hgone =>
    have hlater : u.BaseGoes calls .v6 := by
      obtain ⟨_, _, rfl⟩ := hsame
      exact hsix hgone
    obtain ⟨v, hv, hbalanced', -, hsame', -⟩ :=
      deleteBase_spec hbalanced hsound (h.arrays_later hsame hothers) hlater
    rw [hv]
    exact ⟨hbalanced', hsame.trans hsame'⟩
  next => exact ⟨hbalanced, hsame⟩

theorem closeBase_damaged (h : s.InOrder)
    (hpart : ¬(s.BaseGoes calls .v4 ∧ (s.baseGone calls .v4 = true → s.BaseGoes calls .v6))) :
    (if (s.deleteBase calls .v4).1 then ((s.deleteBase calls .v4).2.deleteBase calls .v6).2
      else (s.deleteBase calls .v4).2).Damaged := by
  by_cases hfour : s.BaseGoes calls .v4
  · obtain ⟨hgone, hlater⟩ := Classical.not_imp.mp fun hsix => hpart ⟨hfour, hsix⟩
    obtain ⟨u, hu, hbalanced, hsound, hsame, hothers⟩ :=
      deleteBase_spec h.balanced h.books.sound (h.arrays .v4) hfour
    rw [hu]
    simp only [hgone, if_true]
    refine deleteBase_damaged hbalanced hsound (h.arrays_later hsame hothers) fun hgoes => hlater ?_
    obtain ⟨_, _, rfl⟩ := hsame
    exact hgoes
  · have hdamaged := deleteBase_damaged h.balanced h.books.sound (h.arrays .v4) hfour
    split
    · exact hdamaged.deleteBase
    · exact hdamaged

variable (calls iptype) in
theorem baseGoes_congr (hflags : u.flags = s.flags) (hbase : u.baseGroups = s.baseGroups) :
    (u.BaseGoes calls iptype ↔ s.BaseGoes calls iptype) ∧
      u.baseGone calls iptype = s.baseGone calls iptype := by
  simp only [UplinkLan.flags, Prod.mk.injEq] at hflags
  unfold BaseGoes baseGone
  rw [hflags.2.1, hbase]
  exact ⟨Iff.rfl, rfl⟩

theorem handleDownEvt_right (h : s.InOrder) (hclean : s.ClosesClean iface wan calls) :
    (s.handleDownEvt iface wan calls).FltBooksRight := by
  cases hheaders : iface.isOduIf && !calls.deletesOduHeaders with
  | true =>
    unfold handleDownEvt
    rw [hheaders]
    exact h.right
  | false =>
  by_cases htype : s.ipType = .null
  · unfold handleDownEvt
    simp only [hheaders, Bool.false_eq_true, if_false, htype, if_true]
    exact h.right
  · obtain ⟨htakes, hfour, hsix⟩ := hclean hheaders htype
    obtain ⟨t, ht, horder, hflags, hbase⟩ := withdrawals_spec h htakes
    have hcongr4 := baseGoes_congr .v4 calls hflags hbase
    have hcongr6 := baseGoes_congr .v6 calls hflags hbase
    have hclose := closeBase_spec horder (hcongr4.1.mpr hfour) fun hgone =>
      hcongr6.1.mpr (hsix (hcongr4.2.symm.trans hgone))
    rw [handleDownEvt_open hheaders htype]
    simp only [← ht]
    generalize (if (t.deleteBase calls .v4).1 then ((t.deleteBase calls .v4).2.deleteBase calls .v6).2
      else (t.deleteBase calls .v4).2) = v at hclose
    obtain ⟨hbalanced, _, _, rfl⟩ := hclose
    exact ⟨horder.strays, horder.miscounted, hbalanced, horder.right.2.2.2⟩

theorem handleDownEvt_wrong (h : s.InOrder) (hpart : ¬s.ClosesClean iface wan calls) :
    ¬(s.handleDownEvt iface wan calls).FltBooksRight := by
  simp only [ClosesClean, Classical.not_imp] at hpart
  obtain ⟨hheaders, htype, hpart⟩ := hpart
  rw [handleDownEvt_open hheaders htype]
  refine Damaged.wrong ?_
  by_cases htakes : ∀ iptype, wan.isWanUp iptype = true → s.TakesDown calls iptype wan.backhaulIsStaMode
  · obtain ⟨t, ht, horder, hflags, hbase⟩ := withdrawals_spec h htakes
    have hcongr4 := baseGoes_congr .v4 calls hflags hbase
    have hcongr6 := baseGoes_congr .v6 calls hflags hbase
    simp only [← ht]
    refine closeBase_damaged horder fun hgoes => hpart ⟨htakes, hcongr4.1.mp hgoes.1, fun hgone => ?_⟩
    exact hcongr6.1.mp (hgoes.2 (hcongr4.2.trans hgone))
  · simp only [not_forall] at htakes
    obtain ⟨iptype, hup, hstays⟩ := htakes
    have hdamaged := withdrawals_damaged h hup hstays
    simp only at hdamaged ⊢
    generalize (if wan.isWanUp .v6 = true then _ else _) = t at hdamaged
    have hone : (t.deleteBase calls .v4).2.Damaged := hdamaged.deleteBase
    have htwo : ((t.deleteBase calls .v4).2.deleteBase calls .v6).2.Damaged := hone.deleteBase
    split
    · exact htwo
    · exact hone

/-- The rules that `handle_addr_evt` asks for. -/
def addrRules (s : UplinkLan) (calls : IpaCalls) : IfaceAddr → List (FltGroup × Nat)
  | .v4 _ => if calls.rtRuleResult = 0 then
      [(.dft .v4, defaultFilteringRules .v4), (.icmp .v4, 1)] else []
  | .v6 _ => if calls.rtRuleResult = 0 ∧ s.ipv6Addr = [] then
      [(.icmp .v6, 1), (.dft .v6, defaultFilteringRules .v6)] else []

def privateRules : IpaIpType → List (FltGroup × Nat)
  | .v4 => [(.privateSubnet, ipaMaxPrivateSubnetEntries)]
  | .v6 => []

def eventRules (s : UplinkLan) (iface : UplinkIface) (calls : IpaCalls) (addr : IfaceAddr) :
    List (FltGroup × Nat) :=
  if addr.isZero then []
  else if iface.oduBridge then privateRules addr.iptype
  else if s.admitsAddr addr.iptype then
    s.addrRules calls addr ++
      if calls.rtRuleResult = ipacmFailure then [] else privateRules addr.iptype
  else []

theorem privateRules_inOrder (h : s.InOrder)
    (hwhole : ∀ g ∈ privateRules iptype, TakesWhole calls g.1 g.2) :
    (s.addDummyPrivateSubnetFltRule calls iptype).InOrder := by
  refine addDummyPrivateSubnetFltRule_inOrder h fun hfour => ?_
  subst hfour
  exact hwhole _ List.mem_cons_self

theorem privateRules_damaged (h : s.Balanced)
    (hpart : ¬∀ g ∈ privateRules iptype, TakesWhole calls g.1 g.2) :
    (s.addDummyPrivateSubnetFltRule calls iptype).Damaged := by
  cases iptype with
  | v6 => exact absurd (fun g hg => nomatch hg) hpart
  | v4 =>
    refine addDummyPrivateSubnetFltRule_damaged h fun hwhole => hpart fun g hg => ?_
    rw [List.mem_singleton.mp hg]
    exact hwhole

theorem handleAddrEvt_cases (h : s.InOrder) (addr : IfaceAddr) :
    ((∀ g ∈ s.addrRules calls addr, TakesWhole calls g.1 g.2) → (s.handleAddrEvt calls addr).2.InOrder) ∧
      ((¬∀ g ∈ s.addrRules calls addr, TakesWhole calls g.1 g.2) →
        (s.handleAddrEvt calls addr).2.Damaged) := by
  have hconfig : ∃ u : UplinkLan, u = { s with ipType := s.ipType.config addr.iptype } ∧ u.InOrder :=
    ⟨_, rfl, h.reflag s.isUpstreamSet s.isDownstreamSet _ s.ipv6Addr⟩
  obtain ⟨u, hu, horder⟩ := hconfig
  unfold handleAddrEvt
  simp only [← hu]
  cases addr with
  | v4 ip =>
    simp only [addrRules]
    by_cases hrt : calls.rtRuleResult = 0
    · rw [if_pos hrt, if_neg (not_not.mpr hrt)]
      simp only [List.forall_mem_cons, List.not_mem_nil, false_implies, implies_true, and_true]
      by_cases hdft : TakesWhole calls (.dft .v4) (defaultFilteringRules .v4)
      · have hfirst := initFlRule_inOrder horder hdft
        constructor
        · rintro ⟨-, hicmp⟩
          exact installIcmpFltRule_inOrder hfirst hicmp
        · intro hpart
          exact installIcmpFltRule_damaged hfirst.balanced fun hicmp => hpart ⟨hdft, hicmp⟩
      · have hfirst := initFlRule_damaged horder.balanced hdft
        exact ⟨fun hwhole => absurd hwhole.1 hdft, fun _ => hfirst.installIcmpFltRule⟩
    grind
  | v6 ip =>
    simp only [addrRules]
    have hnone : ((¬∀ g ∈ ([] : List (FltGroup × Nat)), TakesWhole calls g.1 g.2) → u.Damaged) :=
      fun hpart => absurd (fun g hg => absurd hg List.not_mem_nil) hpart
    by_cases hmem : ip ∈ s.ipv6Addr
    · grind
    rw [if_neg hmem]
    by_cases hrt : calls.rtRuleResult = 0
    · by_cases hnil : s.ipv6Addr = []
      · simp only [hrt, hnil, and_self, if_true, ne_eq, not_true_eq_false, if_false, List.forall_mem_cons,
          List.not_mem_nil, false_implies, implies_true, and_true]
        by_cases hicmp : TakesWhole calls (.icmp .v6) 1
        · have hfirst := installIcmpFltRule_inOrder horder hicmp
          constructor
          · rintro ⟨-, hdft⟩
            have hboth := initFlRule_inOrder hfirst hdft
            exact hboth.reflag _ _ _ _
          · intro hpart
            have hboth := initFlRule_damaged hfirst.balanced fun hdft => hpart ⟨hicmp, hdft⟩
            exact hboth
        · have hfirst := installIcmpFltRule_damaged horder.balanced hicmp
          have hboth : ((u.installIcmpFltRule calls .v6).initFlRule calls .v6).Damaged := hfirst.initFlRule
          exact ⟨fun hwhole => absurd hwhole.1 hicmp, fun _ => hboth⟩
      · simp only [hrt, hnil, and_false, if_false, ne_eq, not_true_eq_false]
        exact ⟨fun _ => horder.reflag _ _ _ _, fun hpart => hnone hpart⟩
    grind

theorem handleAddrEvt_fst (ip : BitVec 32) :
    (s.handleAddrEvt calls (.v4 ip)).1 = calls.rtRuleResult := by
  unfold handleAddrEvt
  grind

theorem addrAdd_cases (h : s.InOrder) (addr : IfaceAddr) :
    ((∀ g ∈ s.eventRules iface calls addr, TakesWhole calls g.1 g.2) →
        (s.addrAdd iface wan calls addr).InOrder) ∧
      ((¬∀ g ∈ s.eventRules iface calls addr, TakesWhole calls g.1 g.2) →
        (s.addrAdd iface wan calls addr).Damaged) := by
  have hnone : ¬(¬∀ g ∈ ([] : List (FltGroup × Nat)), TakesWhole calls g.1 g.2) :=
    fun hpart => absurd (fun g hg => nomatch hg) hpart
  unfold addrAdd eventRules
  split
  · exact ⟨fun _ => h, fun hpart => absurd hpart hnone⟩
  split
  · exact ⟨privateRules_inOrder h, privateRules_damaged h.balanced⟩
  split
  next hadmits =>
    obtain ⟨hwhole, hpart⟩ := handleAddrEvt_cases h addr
    have hres : addr.iptype = .v4 → (s.handleAddrEvt calls addr).1 = calls.rtRuleResult := by
      intro hfour
      cases addr with
      | v4 ip => exact handleAddrEvt_fst ip
      | v6 ip => cases hfour
    generalize s.handleAddrEvt calls addr = r at hwhole hpart hres
    obtain ⟨res, u⟩ := r
    simp only at hwhole hpart hres ⊢
    have hprivate : res ≠ ipacmFailure → privateRules addr.iptype =
        if calls.rtRuleResult = ipacmFailure then [] else privateRules addr.iptype := by
      intro hgoes
      cases htype : addr.iptype with
      | v4 => rw [if_neg fun he => hgoes ((hres htype).trans he)]
      | v6 => simp [privateRules]
    have hstop : res = ipacmFailure →
        (if calls.rtRuleResult = ipacmFailure then [] else privateRules addr.iptype) = [] := by
      intro hfails
      cases htype : addr.iptype with
      | v4 => rw [if_pos ((hres htype).symm.trans hfails)]
      | v6 => simp [privateRules]
    simp only [List.forall_mem_append]
    by_cases hfails : res = ipacmFailure
    · grind
    · rw [← hprivate hfails, if_neg hfails]
      constructor
      · rintro ⟨hall, hlater⟩
        exact (privateRules_inOrder (hwhole hall) hlater).reflag _ _ _ _
      · intro hnot
        by_cases hall : ∀ g ∈ s.addrRules calls addr, TakesWhole calls g.1 g.2
        · have hlast := privateRules_damaged (hwhole hall).balanced fun hlater => hnot ⟨hall, hlater⟩
          exact hlast
        · have hlast : (u.addDummyPrivateSubnetFltRule calls addr.iptype).Damaged :=
            (hpart hall).addDummyPrivateSubnetFltRule
          exact hlast
  · exact ⟨fun _ => h, fun hpart => absurd hpart hnone⟩

/-- The events after which the books are right, by the state they are handled in and by what the
kernel answers. -/
def KeepsBooks (s : UplinkLan) (iface : UplinkIface) (op : UplinkOp) : Prop :=
  s.isActive = true →
    match op.event with
    | .addrAdd addr => ∀ g ∈ s.eventRules iface op.calls addr, TakesWhole op.calls g.1 g.2
    | .wanUpTether iptype isSta => ¬(iptype = .v4 ∧ isSta = true) → s.ipType.covers iptype = true →
        s.isUpstreamSet iptype = false → s.isDownstreamSet iptype = true →
        s.TakesUplink op.wan op.calls iptype isSta
    | .downstreamAdd iptype => s.isDownstreamSet iptype = false → s.isUpstreamSet iptype = true →
        s.ipType.covers iptype = true → s.TakesUplink op.wan op.calls iptype op.wan.backhaulIsStaMode
    | .wanDownTether iptype isSta => s.ipType.covers iptype = true → s.isUpstreamSet iptype = true →
        s.isDownstreamSet iptype = true → s.TakesDown op.calls iptype isSta
    | .downstreamDel iptype => s.isDownstreamSet iptype = true → s.isUpstreamSet iptype = true →
        s.TakesDown op.calls iptype op.wan.backhaulIsStaMode
    | .linkDown => s.ClosesClean iface op.wan op.calls

/-- The books are right, and those of an active interface agree in all parts. -/
structure Kept (s : UplinkLan) : Prop where
  right : s.FltBooksRight
  inOrder : s.isActive = true → s.InOrder

theorem InOrder.kept (h : s.InOrder) : s.Kept := ⟨h.right, fun _ => h⟩

variable {isSta : Bool}

theorem wanUpTether_kept (h : s.InOrder)
    (htakes : ¬(iptype = .v4 ∧ isSta = true) → s.ipType.covers iptype = true →
      s.isUpstreamSet iptype = false → s.isDownstreamSet iptype = true →
      s.TakesUplink wan calls iptype isSta) : (s.wanUpTether wan calls iptype isSta).InOrder := by
  unfold wanUpTether
  split
  · exact h
  next hsta =>
  split
  next hup =>
    simp only [Bool.and_eq_true, Bool.not_eq_true', decide_eq_true_eq] at hup hsta
    have hflag := h.reflag (Function.update s.isUpstreamSet iptype true) s.isDownstreamSet s.ipType s.ipv6Addr
    simp only
    split
    next hdown => exact installUplink_inOrder hflag (htakes hsta hup.1 hup.2 hdown)
    next => exact hflag
  · exact h

theorem wanUpTether_wrong (h : s.InOrder) (hsta : ¬(iptype = .v4 ∧ isSta = true))
    (hcovers : s.ipType.covers iptype = true) (hunset : s.isUpstreamSet iptype = false)
    (hdown : s.isDownstreamSet iptype = true) (hpart : ¬s.TakesUplink wan calls iptype isSta) :
    ¬(s.wanUpTether wan calls iptype isSta).FltBooksRight := by
  have hflag := h.reflag (Function.update s.isUpstreamSet iptype true) s.isDownstreamSet s.ipType s.ipv6Addr
  unfold wanUpTether
  rw [if_neg (by simpa using hsta), hcovers, hunset]
  simp only [Bool.not_false, Bool.and_self, if_true, hdown]
  exact installUplink_wrong hflag hpart

theorem downstreamAdd_kept (h : s.InOrder)
    (htakes : s.isDownstreamSet iptype = false → s.isUpstreamSet iptype = true →
      s.ipType.covers iptype = true → s.TakesUplink wan calls iptype wan.backhaulIsStaMode) :
    (s.downstreamAdd wan calls iptype).InOrder := by
  unfold downstreamAdd
  split
  · exact h
  next hunset =>
    have hflag := h.reflag s.isUpstreamSet (Function.update s.isDownstreamSet iptype true) s.ipType s.ipv6Addr
    simp only
    split
    next hup =>
      simp only [Bool.and_eq_true] at hup
      exact installUplink_inOrder hflag (htakes (by simpa using hunset) hup.1 hup.2)
    next => exact hflag

theorem downstreamAdd_wrong (h : s.InOrder) (hunset : s.isDownstreamSet iptype = false)
    (hup : s.isUpstreamSet iptype = true) (hcovers : s.ipType.covers iptype = true)
    (hpart : ¬s.TakesUplink wan calls iptype wan.backhaulIsStaMode) :
    ¬(s.downstreamAdd wan calls iptype).FltBooksRight := by
  have hflag := h.reflag s.isUpstreamSet (Function.update s.isDownstreamSet iptype true) s.ipType s.ipv6Addr
  unfold downstreamAdd
  simp only [hunset, Bool.false_eq_true, if_false, hup, hcovers, Bool.and_self, if_true]
  exact installUplink_wrong hflag hpart

theorem wanDownTether_kept (h : s.InOrder)
    (htakes : s.ipType.covers iptype = true → s.isUpstreamSet iptype = true →
      s.isDownstreamSet iptype = true → s.TakesDown calls iptype isSta) :
    (s.wanDownTether calls iptype isSta).InOrder := by
  unfold wanDownTether
  split
  next hup =>
    simp only [Bool.and_eq_true] at hup
    have hflag := h.reflag (Function.update s.isUpstreamSet iptype false) s.isDownstreamSet s.ipType s.ipv6Addr
    simp only
    split
    next hdown => exact (handleWanDown_inOrder hflag (htakes hup.1 hup.2 hdown)).1
    next => exact hflag
  · exact h

theorem wanDownTether_wrong (h : s.InOrder) (hcovers : s.ipType.covers iptype = true)
    (hup : s.isUpstreamSet iptype = true) (hdown : s.isDownstreamSet iptype = true)
    (hpart : ¬s.TakesDown calls iptype isSta) : ¬(s.wanDownTether calls iptype isSta).FltBooksRight := by
  have hflag := h.reflag (Function.update s.isUpstreamSet iptype false) s.isDownstreamSet s.ipType s.ipv6Addr
  unfold wanDownTether
  simp only [hcovers, hup, Bool.and_self, if_true, hdown]
  exact (handleWanDown_damaged hflag hpart).wrong

theorem downstreamDel_kept (h : s.InOrder)
    (htakes : s.isDownstreamSet iptype = true → s.isUpstreamSet iptype = true →
      s.TakesDown calls iptype wan.backhaulIsStaMode) : (s.downstreamDel wan calls iptype).InOrder := by
  unfold downstreamDel
  split
  next hdown =>
    have hflag := h.reflag s.isUpstreamSet (Function.update s.isDownstreamSet iptype false) s.ipType s.ipv6Addr
    simp only
    split
    next hup => exact (handleWanDown_inOrder hflag (htakes hdown hup)).1
    next => exact hflag
  · exact h

theorem downstreamDel_wrong (h : s.InOrder) (hdown : s.isDownstreamSet iptype = true)
    (hup : s.isUpstreamSet iptype = true) (hpart : ¬s.TakesDown calls iptype wan.backhaulIsStaMode) :
    ¬(s.downstreamDel wan calls iptype).FltBooksRight := by
  have hflag := h.reflag s.isUpstreamSet (Function.update s.isDownstreamSet iptype false) s.ipType s.ipv6Addr
  unfold downstreamDel
  simp only [hdown, if_true, hup]
  exact (handleWanDown_damaged hflag hpart).wrong

theorem handleDownEvt_inactive : (s.handleDownEvt iface wan calls).isActive = false := by
  grind [handleDownEvt]

theorem eventCallback_kept {op : UplinkOp} (h : s.Kept) (hkeeps : s.KeepsBooks iface op) :
    (s.eventCallback iface op).Kept := by
  unfold eventCallback
  cases hactive : s.isActive with
  | false => exact h
  | true =>
    have horder := h.inOrder hactive
    have hop := hkeeps hactive
    obtain ⟨event, wan, calls⟩ := op
    cases event with
    | addrAdd addr => exact ((addrAdd_cases horder addr).1 hop).kept
    | wanUpTether iptype isSta => exact (wanUpTether_kept horder hop).kept
    | wanDownTether iptype isSta => exact (wanDownTether_kept horder hop).kept
    | downstreamAdd iptype => exact (downstreamAdd_kept horder hop).kept
    | downstreamDel iptype => exact (downstreamDel_kept horder hop).kept
    | linkDown =>
      refine ⟨handleDownEvt_right horder hop, fun hactive' => ?_⟩
      exact absurd (handleDownEvt_inactive.symm.trans hactive') Bool.noConfusion

theorem eventCallback_wrong {op : UplinkOp} (h : s.Kept) (hkeeps : ¬s.KeepsBooks iface op) :
    ¬(s.eventCallback iface op).FltBooksRight := by
  obtain ⟨hactive, hop⟩ := Classical.not_imp.mp hkeeps
  have horder := h.inOrder hactive
  unfold eventCallback
  rw [hactive]
  obtain ⟨event, wan, calls⟩ := op
  cases event with
  | addrAdd addr => exact ((addrAdd_cases horder addr).2 hop).wrong
  | wanUpTether iptype isSta =>
    simp only [Classical.not_imp] at hop
    obtain ⟨hsta, hcovers, hunset, hdown, hpart⟩ := hop
    exact wanUpTether_wrong horder hsta hcovers hunset hdown hpart
  | wanDownTether iptype isSta =>
    simp only [Classical.not_imp] at hop
    obtain ⟨hcovers, hup, hdown, hpart⟩ := hop
    exact wanDownTether_wrong horder hcovers hup hdown hpart
  | downstreamAdd iptype =>
    simp only [Classical.not_imp] at hop
    obtain ⟨hunset, hup, hcovers, hpart⟩ := hop
    exact downstreamAdd_wrong horder hunset hup hcovers hpart
  | downstreamDel iptype =>
    simp only [Classical.not_imp] at hop
    obtain ⟨hdown, hup, hpart⟩ := hop
    exact downstreamDel_wrong horder hdown hup hpart
  | linkDown => exact handleDownEvt_wrong horder hop

theorem initial_inOrder (iface : UplinkIface) (wan : WanView) : (initial iface wan).InOrder := by
  refine ⟨initial_books iface wan, ⟨fun _ => ⟨rfl, Or.inl rfl⟩, fun iptype => ?_, ?_⟩, fun iptype => ?_,
    rfl, rfl, fun _ => ⟨nofun, fun hne => absurd rfl hne⟩, fun _ => Nat.zero_le _⟩
  · exact ⟨List.length_replicate, Or.inl rfl⟩
  · exact ⟨List.length_replicate, Or.inl rfl⟩
  · have hnone : (initial iface wan).installedCount iptype = 0 := by
      unfold installedCount Handles.count
      rw [Finset.card_eq_zero, Finset.filter_eq_empty_iff]
      intro g _
      exact Bool.false_ne_true
    rw [hnone]
    rfl

/-- The books are right all along a run exactly if each of its events keeps them so. -/
theorem fltBooksRight_iff_keepsBooks (iface : UplinkIface) (wan : WanView) (ops : List UplinkOp) :
    Always (step iface) FltBooksRight (initial iface wan) ops ↔
      OpsMeet (step iface) (fun s op => s.KeepsBooks iface op) (initial iface wan) ops := by
  refine always_iff_of_keeps (fun s h => h.right)
    (fun s op t h _ hkeeps ht => ?_) (fun s op h _ hkeeps => ?_) (initial_inOrder iface wan).kept
    (opsMeet_true _ ops)
  · cases ht
    exact eventCallback_kept h hkeeps
  · exact ⟨_, rfl, eventCallback_wrong h hkeeps⟩

/-- The modem's rules are in place when the backhaul becomes a station's: what is withdrawn is a
handle that was never written. -/
def modeSwitch : List UplinkOp :=
  [⟨.addrAdd (.v4 1), mobileWan false, {}⟩, ⟨.downstreamAdd .v4, mobileWan false, {}⟩,
    ⟨.wanUpTether .v4 false, mobileWan true, {}⟩, ⟨.wanDownTether .v4 true, mobileWan false, {}⟩]

theorem modeSwitch_wrong :
    ¬Always (step usbIface) FltBooksRight (initial usbIface (mobileWan false)) modeSwitch := by
  intro halways
  have hlast : ∃ t, runOps (step usbIface) (initial usbIface (mobileWan false)) modeSwitch = some t ∧
      t.strays = [0] := ⟨_, rfl, by decide⟩
  obtain ⟨t, hrun, hstrays⟩ := hlast
  have hright := (halways.last hrun).1
  rw [hstrays] at hright
  cases hright

end UplinkLan

end DeviceHal.Ipacm
