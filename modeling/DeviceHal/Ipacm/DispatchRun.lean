import DeviceHal.Ipacm.IfaceManager

namespace DeviceHal.Ipacm

open Lib

namespace EvtDispatcher

theorem Grouped.filter {records : List CmdEvts} (h : Grouped records) (keep : Nat → Bool) :
    Grouped (records.filter fun record : CmdEvts => keep record.obj) := by
  induction records with
  | nil => trivial
  | cons record rest ih =>
    obtain ⟨hnext, hrest⟩ := h
    by_cases hkeep : keep record.obj = true
    · simp only [List.filter_cons, hkeep, if_true]
      refine ⟨fun ⟨later, hlater, hobj⟩ => ?_, ih hrest⟩
      obtain ⟨next, hhead, hsame⟩ := hnext ⟨later, (List.mem_filter.mp hlater).1, hobj⟩
      cases rest with
      | nil => cases hhead
      | cons first rest =>
        grind
    · simp only [List.filter_cons, hkeep]
      exact ih hrest

theorem Grouped.append {records later : List CmdEvts} (h : Grouped records) (h' : Grouped later)
    (hobj : ∀ record ∈ records, ∀ r ∈ later, r.obj ≠ record.obj) : Grouped (records ++ later) := by
  induction records with
  | nil => exact h'
  | cons record rest ih =>
    obtain ⟨hnext, hrest⟩ := h
    refine ⟨fun ⟨other, hother, hsame⟩ => ?_, ih hrest fun r hr => hobj r (List.mem_cons_of_mem _ hr)⟩
    rcases List.mem_append.mp hother with hin | hin
    · obtain ⟨next, hhead, hnextobj⟩ := hnext ⟨other, hin, hsame⟩
      cases rest with
      | nil => cases hhead
      | cons first rest => exact ⟨next, hhead, hnextobj⟩
    · exact absurd hsame (hobj record List.mem_cons_self other hin)

def block (obj : Nat) : Nat → List IpaCmEventId → List CmdEvts
  | _, [] => []
  | node, event :: events => ⟨node, event, obj⟩ :: block obj (node + 1) events

theorem foldl_registr (s : EvtDispatcher) (obj : Nat) (events : List IpaCmEventId) :
    events.foldl (fun dispatcher event => dispatcher.registr event obj) s =
      ⟨s.head ++ block obj s.newNode events, s.newNode + events.length⟩ := by
  induction events generalizing s with
  | nil => simp [block]
  | cons event events ih =>
    rw [List.foldl_cons, ih]
    simp only [registr, block, List.append_assoc, List.singleton_append, List.length_cons]
    congr 1
    omega

theorem mem_block {obj node : Nat} {events : List IpaCmEventId} {record : CmdEvts}
    (h : record ∈ block obj node events) :
    record.obj = obj ∧ node ≤ record.node ∧ record.node < node + events.length := by
  induction events generalizing node with
  | nil => cases h
  | cons event events ih =>
    rw [List.length_cons]
    rcases List.mem_cons.mp h with rfl | hrest
    · exact ⟨rfl, Nat.le_refl _, by change node < _; omega⟩
    grind

theorem block_nodup (obj node : Nat) (events : List IpaCmEventId) :
    ((block obj node events).map CmdEvts.node).Nodup := by
  induction events generalizing node with
  | nil => exact List.nodup_nil
  | cons event events ih =>
    refine List.nodup_cons.mpr ⟨fun hmem => ?_, ih (node + 1)⟩
    obtain ⟨record, hrecord, hnode⟩ := List.mem_map.mp hmem
    have hle := (mem_block hrecord).2.1
    change record.node = node at hnode
    omega

theorem block_grouped (obj node : Nat) (events : List IpaCmEventId) : Grouped (block obj node events) := by
  induction events generalizing node with
  | nil => trivial
  | cons event events ih =>
    refine ⟨fun ⟨later, hlater, _⟩ => ?_, ih (node + 1)⟩
    cases events with
    | nil => cases hlater
    | cons next events => exact ⟨_, rfl, rfl⟩

theorem block_events (obj node : Nat) (events : List IpaCmEventId) :
    (block obj node events).map CmdEvts.event = events := by
  induction events generalizing node with
  | nil => rfl
  | cons event events ih => exact congrArg (event :: ·) (ih (node + 1))

end EvtDispatcher

theorem IfaceKind.events_nodup (kind : IfaceKind) : kind.events.Nodup := by
  cases kind with
  | wan isStaMode => cases isStaMode <;> decide
  | embms isStaMode => exact List.nodup_singleton _
  | _ => decide

namespace IfaceManager

open EvtDispatcher

structure Registered (s : IfaceManager) : Prop where
  nodes : (s.dispatcher.head.map CmdEvts.node).Nodup
  fresh : ∀ record ∈ s.dispatcher.head, record.node < s.dispatcher.newNode
  grouped : Grouped s.dispatcher.head
  known : ∀ record ∈ s.dispatcher.head, ∃ iface, s.objs[record.obj]? = some iface ∧
    (s.dispatcher.head.filter fun r => r.obj = record.obj).map CmdEvts.event = iface.kind.events ∧
    (record.obj ∈ s.destroyed ↔ iface.built = false)
  destroyed : ∀ obj ∈ s.destroyed, obj < s.objs.length

variable {s : IfaceManager}

theorem new_registered : ({} : IfaceManager).Registered where
  nodes := List.nodup_nil
  fresh _ h := nomatch h
  grouped := trivial
  known _ h := nomatch h
  destroyed _ h := nomatch h

theorem Registered.obj_lt (h : s.Registered) {record : CmdEvts} (hr : record ∈ s.dispatcher.head) :
    record.obj < s.objs.length := by
  obtain ⟨iface, hiface, -⟩ := h.known record hr
  exact (List.getElem?_eq_some_iff.mp hiface).1

theorem Registered.register (h : s.Registered) (kind : IfaceKind) (ipaIfIndex : Nat)
    (ifCat : IpacmIfaceType) : (s.register kind ipaIfIndex ifCat).Registered := by
  have hdispatcher : (s.register kind ipaIfIndex ifCat).dispatcher =
      ⟨s.dispatcher.head ++ block s.objs.length s.dispatcher.newNode kind.events,
        s.dispatcher.newNode + kind.events.length⟩ := foldl_registr ..
  have hold : ∀ record ∈ s.dispatcher.head, ∀ r ∈ block s.objs.length s.dispatcher.newNode kind.events,
      r.obj ≠ record.obj := by
    intro record hrecord r hr he
    have hlt := h.obj_lt hrecord
    rw [← he, (mem_block hr).1] at hlt
    omega
  have hdestroyed : ∀ obj, obj ∈ (s.register kind ipaIfIndex ifCat).destroyed ↔
      obj ∈ s.destroyed ∨ obj = s.objs.length ∧ s.build kind = false := by
    intro obj
    change obj ∈ (if s.build kind = true then s.destroyed else s.objs.length :: s.destroyed) ↔ _
    split
    next hbuilt => simp [hbuilt]
    next hbuilt =>
      rw [Bool.not_eq_true] at hbuilt
      simp [hbuilt, or_comm]
  refine ⟨?_, ?_, ?_, ?_, ?_⟩
  · rw [hdispatcher, List.map_append]
    refine h.nodes.append (block_nodup ..) fun node hin hnew => ?_
    obtain ⟨record, hrecord, hnode⟩ := List.mem_map.mp hin
    obtain ⟨r, hr, hnode'⟩ := List.mem_map.mp hnew
    have hlt := h.fresh record hrecord
    have hle := (mem_block hr).2.1
    omega
  · rw [hdispatcher]
    intro record hrecord
    rcases List.mem_append.mp hrecord with hin | hin
    · exact Nat.lt_add_right _ (h.fresh record hin)
    · exact (mem_block hin).2.2
  · rw [hdispatcher]
    exact h.grouped.append (block_grouped ..) hold
  · rw [hdispatcher]
    intro record hrecord
    rw [List.filter_append]
    rcases List.mem_append.mp hrecord with hin | hin
    · obtain ⟨iface, hiface, hevents, hdead⟩ := h.known record hin
      have hlt := h.obj_lt hin
      have hnone : (block s.objs.length s.dispatcher.newNode kind.events).filter
          (fun r => r.obj = record.obj) = [] := by
        refine List.filter_eq_nil_iff.mpr fun r hr => ?_
        simpa using hold record hin r hr
      refine ⟨iface, (List.getElem?_append_left hlt).trans hiface, ?_, ?_⟩
      · rw [hnone, List.append_nil]
        exact hevents
      grind
    · have hobj := (mem_block hin).1
      have hnone : s.dispatcher.head.filter (fun r => r.obj = record.obj) = [] := by
        refine List.filter_eq_nil_iff.mpr fun r hr => ?_
        simpa using (hold r hr record hin).symm
      have hall : (block s.objs.length s.dispatcher.newNode kind.events).filter
          (fun r => r.obj = record.obj) = block s.objs.length s.dispatcher.newNode kind.events := by
        refine List.filter_eq_self.mpr fun r hr => ?_
        simpa [hobj] using (mem_block hr).1
      refine ⟨⟨kind, ipaIfIndex, ifCat, s.build kind⟩, ?_, ?_, ?_⟩
      · rw [hobj]
        exact List.getElem?_concat_length
      · rw [hnone, hall]
        exact block_events ..
      · rw [hdestroyed, hobj]
        refine ⟨fun hmem => ?_, fun hbuilt => Or.inr ⟨rfl, hbuilt⟩⟩
        rcases hmem with hin' | hnew
        · exact absurd (h.destroyed _ hin') (Nat.lt_irrefl _)
        · exact hnew.2
  · intro obj hobj
    have hlen : (s.register kind ipaIfIndex ifCat).objs.length = s.objs.length + 1 := List.length_append
    rcases (hdestroyed obj).mp hobj with hin | hnew
    · have hlt := h.destroyed obj hin
      omega
    · omega

theorem Registered.step (h : s.Registered) {op : IfaceManagerOp} {t : IfaceManager}
    (hstep : s.step op = some t) : t.Registered := by
  cases op with
  | createIfaceInstance ipaInterfaceIndex ifCat ifType oduEnable oduRouterMode =>
    cases Option.some.inj hstep
    unfold createIfaceInstance
    split
    · exact h
    · split
      · exact h.register ..
      · exact h
  | processEvt event data =>
    unfold IfaceManager.step at hstep
    dsimp only at hstep
    split at hstep
    next hend =>
      cases Option.some.inj hstep
      obtain ⟨gone, hdestroyed, hrecords, hgone⟩ : ∃ gone : List Nat,
          (s.dispatch event data).destroyed = gone ++ s.destroyed ∧
            (s.dispatch event data).records = (s.dispatcher.head.filter fun record => record.obj ∉ gone) ∧
            ∀ obj ∈ gone, s.deletes event data obj = true := processLoop_frame
      refine ⟨?_, ?_, ?_, ?_, ?_⟩
      · simpa [hrecords] using h.nodes.sublist (List.filter_sublist.map _)
      · change ∀ record ∈ (s.dispatch event data).records, _
        rw [hrecords]
        intro record hrecord
        exact h.fresh record (List.mem_filter.mp hrecord).1
      · simpa [hrecords] using h.grouped.filter fun obj => obj ∉ gone
      · change ∀ record ∈ (s.dispatch event data).records, ∃ iface, _ ∧
          ((s.dispatch event data).records.filter _).map _ = _ ∧ (_ ∈ (s.dispatch event data).destroyed ↔ _)
        rw [hrecords, hdestroyed]
        intro record hrecord
        obtain ⟨hin, hstays⟩ := List.mem_filter.mp hrecord
        have hnot : record.obj ∉ gone := by simpa using hstays
        obtain ⟨iface, hiface, hevents, hdead⟩ := h.known record hin
        refine ⟨iface, hiface, ?_, ?_⟩
        · rw [← hevents, List.filter_filter]
          grind
        grind
      · change ∀ obj ∈ (s.dispatch event data).destroyed, _
        rw [hdestroyed]
        intro obj hobj
        rcases List.mem_append.mp hobj with hin | hin
        · grind [deletes]
        · exact h.destroyed obj hin
    next => cases hstep

theorem registered_of_run {ops : List IfaceManagerOp} (run : runOps step {} ops = some s) : s.Registered :=
  run_invariant (fun _ _ _ h _ hstep => h.step hstep) new_registered (opsMeet_true _ ops) run

/-- The dispatch follows no freed record and calls no destroyed listener, and it calls the listeners
that are registered for the event in their order, each once. No callback destroys another listener. -/
structure DispatchRight (s : IfaceManager) (event : IpaCmEventId) (data : EventData) : Prop where
  finished : (s.dispatch event data).ending = .finished
  inOrder : (s.dispatch event data).calls =
    (s.dispatcher.head.filter fun record => record.event = event).map CmdEvts.obj
  once : (s.dispatch event data).calls.Nodup

/-- No instance whose constructor gave up is registered for the event, and no ECM instance learns from
it that the category of its interface changed. -/
def SafeDispatch (s : IfaceManager) (event : IpaCmEventId) (data : EventData) : Prop :=
  ∀ record ∈ s.dispatcher.head, record.event = event → ∀ iface ∈ s.objs[record.obj]?,
    iface.built = true ∧ ¬(event = .cfgChange ∧ iface.kind = .wan .ecmWan ∧
      data.ifCat iface.ipaIfNum ≠ iface.ipaIfCate)

instance (s : IfaceManager) (event : IpaCmEventId) (data : EventData) : Decidable (s.SafeDispatch event data) :=
  inferInstanceAs (Decidable (∀ record ∈ s.dispatcher.head, record.event = event →
    ∀ iface ∈ s.objs[record.obj]?, iface.built = true ∧ ¬(event = .cfgChange ∧ iface.kind = .wan .ecmWan ∧
      data.ifCat iface.ipaIfNum ≠ iface.ipaIfCate)))

theorem last_of_deletesThis {iface : IfaceInstance} {event : IpaCmEventId} {data : EventData}
    (hdel : iface.deletesThis event data = true)
    (hcfg : ¬(event = .cfgChange ∧ iface.kind = .wan .ecmWan ∧ data.ifCat iface.ipaIfNum ≠ iface.ipaIfCate)) :
    iface.kind.events.getLast? = some event := by
  unfold IfaceInstance.deletesThis at hdel
  split at hdel
  next hkind => rw [hkind]; rfl
  next hkind => rw [hkind]; rfl
  next hkind => rw [hkind]; rfl
  next hkind => rw [hkind]; rfl
  next hkind => rw [hkind]; rfl
  next isStaMode hkind =>
    obtain ⟨hmode, -⟩ := of_decide_eq_true hdel
    rw [hkind, hmode]
    rfl
  next isStaMode hkind =>
    obtain ⟨hmode, -⟩ := of_decide_eq_true hdel
    rw [hkind]
    cases isStaMode with
    | wlanWan => exact absurd rfl hmode
    | q6Wan => rfl
    | ecmWan => rfl
  next isStaMode hkind =>
    grind
  next isStaMode hkind => rw [hkind]; rfl
  next => cases hdel

theorem Registered.clean_iff (h : s.Registered) (event : IpaCmEventId) (data : EventData) :
    Clean event (s.deletes event data) s.destroyed s.dispatcher.head ↔ s.SafeDispatch event data := by
  rw [EvtDispatcher.clean_iff]
  constructor
  · intro hclean record hrecord hevent iface hiface
    obtain ⟨before, rest, hsplit⟩ := List.append_of_mem hrecord
    obtain ⟨hlive, hlast⟩ := hclean before record rest hsplit hevent
    obtain ⟨iface', hiface', hevents, hdead⟩ := h.known record hrecord
    cases Option.some.inj (hiface.symm.trans hiface')
    refine ⟨?_, ?_⟩
    · rw [hdead] at hlive
      exact Bool.not_eq_false _ |>.mp hlive
    · rintro ⟨rfl, hkind, hcat⟩
      have hdel : s.deletes .cfgChange data record.obj = true := by
        unfold deletes
        rw [hiface]
        simp [IfaceInstance.deletesThis, hkind, hcat]
      have hnone : rest.filter (fun r => r.obj = record.obj) = [] := by
        refine List.filter_eq_nil_iff.mpr fun r hr => ?_
        simpa using hlast hdel r hr
      rw [hsplit, List.filter_append, List.filter_cons_of_pos (by simp), hnone, List.map_append] at hevents
      have hend := congrArg List.getLast? hevents
      rw [List.map_cons, hevent, List.map_nil, List.getLast?_concat, hkind] at hend
      cases hend
  · intro hsafe before record rest hsplit hevent
    have hrecord : record ∈ s.dispatcher.head := hsplit ▸ List.mem_append_right _ List.mem_cons_self
    obtain ⟨iface, hiface, hevents, hdead⟩ := h.known record hrecord
    obtain ⟨hbuilt, hcfg⟩ := hsafe record hrecord hevent iface hiface
    refine ⟨fun hin => ?_, fun hdel later hlater hobj => ?_⟩
    · rw [hdead.mp hin] at hbuilt
      cases hbuilt
    · have hthis : iface.deletesThis event data = true := by
        unfold deletes at hdel
        rw [hiface] at hdel
        exact hdel
      have hend := last_of_deletesThis hthis hcfg
      have hnodup := iface.kind.events_nodup
      rw [← hevents, hsplit, List.filter_append, List.filter_cons_of_pos (by simp), List.map_append,
        List.map_cons, hevent] at hend hnodup
      -- the event stands before a later record of the instance and is also its last
      have hsome : (rest.filter fun r => r.obj = record.obj).map CmdEvts.event ≠ [] := by
        intro hnil
        have hmem : later ∈ rest.filter fun r => r.obj = record.obj := List.mem_filter.mpr ⟨hlater, by simpa using hobj⟩
        rw [List.map_eq_nil_iff.mp hnil] at hmem
        cases hmem
      have hafter := (List.nodup_append.mp hnodup).2.1
      rw [List.getLast?_append_of_ne_nil _ (List.cons_ne_nil _ _), List.getLast?_cons_of_ne_nil hsome] at hend
      exact (List.nodup_cons.mp hafter).1 (List.mem_of_getLast? hend)

theorem Registered.calls_nodup (h : s.Registered) (event : IpaCmEventId) :
    ((s.dispatcher.head.filter fun record => record.event = event).map CmdEvts.obj).Nodup := by
  have hnodup : s.dispatcher.head.Nodup := h.nodes.of_map _
  refine (List.nodup_map_iff_inj_on (hnodup.filter _)).mpr fun r hr r' hr' hobj => ?_
  obtain ⟨hin, hevent⟩ := List.mem_filter.mp hr
  obtain ⟨hin', hevent'⟩ := List.mem_filter.mp hr'
  obtain ⟨iface, -, hevents, -⟩ := h.known r hin
  have hinj := List.inj_on_of_nodup_map (hevents ▸ iface.kind.events_nodup)
  grind

/-- After any creations and dispatches, a dispatch is right exactly if it is safe. -/
theorem dispatchRight_iff_safe {ops : List IfaceManagerOp} (run : runOps step {} ops = some s)
    (event : IpaCmEventId) (data : EventData) : s.DispatchRight event data ↔ s.SafeDispatch event data := by
  have h := registered_of_run run
  rw [← h.clean_iff]
  constructor
  · intro hright
    by_contra hclean
    refine @processLoop_not_finished _ _ _ [] ⟨s.dispatcher.head, s.destroyed, [], .running⟩ _ rfl h.nodes
      h.grouped nofun hclean hright.finished
  · intro hclean
    obtain ⟨hfinished, hcalls⟩ := @processLoop_finished _ _ _ [] ⟨s.dispatcher.head, s.destroyed, [], .running⟩
      _ rfl h.nodes (Nat.le_refl _) hclean
    refine ⟨hfinished, hcalls, ?_⟩
    have hsame : (s.dispatch event data).calls = _ := hcalls
    rw [hsame]
    exact h.calls_nodup event

/-- Two modem interfaces, an access point and a LAN interface; the first modem interface has gone. -/
def household : List IfaceManagerOp :=
  [.createIfaceInstance 1 .wanIf .q6Wan false false, .createIfaceInstance 2 .wanIf .q6Wan false false,
    .createIfaceInstance 3 .wlanIf .q6Wan false false, .createIfaceInstance 4 .lanIf .q6Wan false false,
    .processEvt .linkDown ⟨1, fun _ => .wanIf⟩]

theorem household_dispatchRight : ∃ s, runOps step {} household = some s ∧
    s.DispatchRight .linkDown ⟨2, fun _ => .wanIf⟩ :=
  ⟨_, rfl, (@dispatchRight_iff_safe _ household rfl _ _).mpr (by decide)⟩

/-- The interface of an ECM instance becomes a LAN interface. -/
theorem cradleSwitch_not_right : ∃ s, runOps step {} [.createIfaceInstance 1 .wanIf .ecmWan false false] = some s ∧
    ¬s.DispatchRight .cfgChange ⟨0, fun _ => .lanIf⟩ := by
  refine ⟨_, rfl, fun h => ?_⟩
  have hfinished := h.finished
  revert hfinished
  decide

end IfaceManager

end DeviceHal.Ipacm
