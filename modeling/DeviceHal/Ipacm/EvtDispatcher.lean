import Mathlib.Data.List.Nodup

namespace DeviceHal.Ipacm

/-- The events that `create_iface_instance` registers, in their order in `ipa_cm_event_id`. -/
inductive IpaCmEventId where
  | cfgChange
  | privateSubnetChange
  | firewallChange
  | linkDown
  | addrAdd
  | routeDel
  | wanUpstreamRouteAdd
  | wanUpstreamRouteDel
  | wlanLinkDown
  | wlanClientAdd
  | wlanClientAddEx
  | wlanClientDel
  | wlanClientPowerSave
  | wlanClientRecover
  | neighClientIpAddrAdd
  | neighClientIpAddrDel
  | swRoutingEnable
  | swRoutingDisable
  | cradleWanModeSwitch
  | wanXlatConnect
  | tetheringStatsUpdate
  | networkStatsUpdate
  | downstreamAdd
  | downstreamDel
  | handleWanUp
  | handleWanDown
  | handleWanUpV6
  | handleWanDownV6
  | handleWanUpTether
  | handleWanDownTether
  | handleWanUpV6Tether
  | handleWanDownV6Tether
  | ssrNotice
  | lanDeleteSelf
deriving DecidableEq

/-- A registration record; `node` is its address, `obj` that of the listener. -/
structure CmdEvts where
  node : Nat
  event : IpaCmEventId
  obj : Nat
deriving DecidableEq

/-- The list from `head` on. A new record gets an address of its own. -/
structure EvtDispatcher where
  head : List CmdEvts := []
  newNode : Nat := 0

/-- How a dispatch ends: at the end of the list, at a record that has been freed, or with a call of
a listener that has been destroyed. -/
inductive DispatchEnd where
  | running
  | finished
  | freedRecord
  | destroyedListener
deriving DecidableEq

/-- A dispatch under way: the list, the destroyed listeners and the callbacks made so far. -/
structure Dispatch where
  records : List CmdEvts
  destroyed : List Nat
  calls : List Nat := []
  ending : DispatchEnd := .running

namespace EvtDispatcher

def registr (s : EvtDispatcher) (event : IpaCmEventId) (obj : Nat) : EvtDispatcher where
  head := s.head ++ [⟨s.newNode, event, obj⟩]
  newNode := s.newNode + 1

def deregistr (head : List CmdEvts) (obj : Nat) : List CmdEvts := head.filter fun tmp => tmp.obj ≠ obj

/-- The callback of a listener. If it deletes itself, its records are freed. -/
def eventCallback (deletes : Nat → Bool) (obj : Nat) (d : Dispatch) : Dispatch :=
  if deletes obj then
    { d with records := deregistr d.records obj, destroyed := obj :: d.destroyed, calls := d.calls ++ [obj] }
  else { d with calls := d.calls ++ [obj] }

/-- The loop of `ProcessEvt` from the address `tmp` on. The record is copied before the callback, so
that the loop goes on from the copied `next`. -/
def processLoop (event : IpaCmEventId) (deletes : Nat → Bool) : Nat → Option Nat → Dispatch → Dispatch
  | _, none, d => { d with ending := .finished }
  | 0, some _, d => d
  | fuel + 1, some tmp, d =>
    match d.records.dropWhile fun record => record.node ≠ tmp with
    | [] => { d with ending := .freedRecord }
    | tmp1 :: rest =>
      let next := rest.head?.map CmdEvts.node
      if tmp1.event = event then
        if tmp1.obj ∈ d.destroyed then { d with ending := .destroyedListener }
        else processLoop event deletes fuel next (eventCallback deletes tmp1.obj d)
      else processLoop event deletes fuel next d

def processEvt (s : EvtDispatcher) (destroyed : List Nat) (event : IpaCmEventId) (deletes : Nat → Bool) :
    Dispatch :=
  processLoop event deletes s.head.length (s.head.head?.map CmdEvts.node) ⟨s.head, destroyed, [], .running⟩

variable {event : IpaCmEventId} {deletes : Nat → Bool}

/-- No listener that deletes itself at the event has a record further on, and none that is called has
been destroyed. -/
def Clean (event : IpaCmEventId) (deletes : Nat → Bool) (destroyed : List Nat) : List CmdEvts → Prop
  | [] => True
  | record :: rest =>
    (record.event = event → record.obj ∉ destroyed ∧
      (deletes record.obj = true → ∀ later ∈ rest, later.obj ≠ record.obj)) ∧
      Clean event deletes destroyed rest

/-- The records of a listener stand side by side. -/
def Grouped : List CmdEvts → Prop
  | [] => True
  | record :: rest =>
    ((∃ later ∈ rest, later.obj = record.obj) → ∃ next ∈ rest.head?, next.obj = record.obj) ∧ Grouped rest

variable {records : List CmdEvts}

theorem clean_iff {destroyed : List Nat} :
    Clean event deletes destroyed records ↔ ∀ before record rest, records = before ++ record :: rest →
      record.event = event → record.obj ∉ destroyed ∧
        (deletes record.obj = true → ∀ later ∈ rest, later.obj ≠ record.obj) := by
  induction records with
  | nil => simp [Clean]
  | cons first records ih =>
    constructor
    · intro hclean before record rest hsplit
      cases before with
      | nil =>
        cases hsplit
        exact hclean.1
      | cons b before =>
        cases hsplit
        exact ih.mp hclean.2 before record rest rfl
    · intro hall
      refine ⟨hall [] first records rfl, ih.mpr fun before record rest hsplit => ?_⟩
      exact hall (first :: before) record rest (hsplit ▸ rfl)

theorem Clean.destroy {destroyed : List Nat} {obj : Nat}
    (hobj : ∀ record ∈ records, record.obj ≠ obj) :
    Clean event deletes (obj :: destroyed) records ↔ Clean event deletes destroyed records := by
  induction records with
  | nil => exact Iff.rfl
  | cons record records ih =>
    have hne : record.obj ≠ obj := hobj record List.mem_cons_self
    have hrest := ih fun record' hmem => hobj record' (List.mem_cons_of_mem _ hmem)
    simp only [Clean, List.mem_cons, not_or, hrest]
    simp [hne]

variable {before rest : List CmdEvts} {record : CmdEvts}

theorem dropWhile_node (hnodup : ((before ++ record :: rest).map CmdEvts.node).Nodup) :
    (before ++ record :: rest).dropWhile (fun r => r.node ≠ record.node) = record :: rest := by
  have hbefore : ∀ r ∈ before, r.node ≠ record.node := by
    intro r hr he
    rw [List.map_append, List.map_cons] at hnodup
    exact List.disjoint_of_nodup_append hnodup (List.mem_map_of_mem hr) (he ▸ List.mem_cons_self)
  rw [List.dropWhile_append_of_pos fun r hr => by simpa using hbefore r hr]
  simp

theorem dropWhile_absent {node : Nat} (h : ∀ r ∈ records, r.node ≠ node) :
    records.dropWhile (fun r => r.node ≠ node) = [] := by
  induction records with
  | nil => rfl
  | cons r records ih =>
    have hr : r.node ≠ node := h r List.mem_cons_self
    rw [List.dropWhile_cons_of_pos (by simpa using hr)]
    exact ih fun r' hr' => h r' (List.mem_cons_of_mem _ hr')

theorem deregistr_split (hrest : ∀ later ∈ rest, later.obj ≠ record.obj) :
    deregistr (before ++ record :: rest) record.obj = deregistr before record.obj ++ rest := by
  unfold deregistr
  have hkeep : rest.filter (fun tmp => tmp.obj ≠ record.obj) = rest := by
    refine List.filter_eq_self.mpr fun later hlater => ?_
    simpa using hrest later hlater
  grind

theorem nodup_filter_append (hnodup : ((before ++ record :: rest).map CmdEvts.node).Nodup) :
    ((deregistr before record.obj ++ rest).map CmdEvts.node).Nodup := by
  refine hnodup.sublist (List.Sublist.map _ ?_)
  exact List.filter_sublist.append (List.sublist_cons_self record rest)

theorem processLoop_record {d : Dispatch} (hrecords : d.records = before ++ record :: rest)
    (hnodup : ((before ++ record :: rest).map CmdEvts.node).Nodup) (fuel : Nat) :
    processLoop event deletes (fuel + 1) (some record.node) d =
      if record.event = event then
        if record.obj ∈ d.destroyed then { d with ending := .destroyedListener }
        else processLoop event deletes fuel (rest.head?.map CmdEvts.node) (eventCallback deletes record.obj d)
      else processLoop event deletes fuel (rest.head?.map CmdEvts.node) d := by
  rw [processLoop, hrecords, dropWhile_node hnodup]

theorem processLoop_finished {rest : List CmdEvts} : ∀ {before : List CmdEvts} {d : Dispatch} {fuel : Nat},
    d.records = before ++ rest → ((before ++ rest).map CmdEvts.node).Nodup → rest.length ≤ fuel →
    Clean event deletes d.destroyed rest →
    (processLoop event deletes fuel (rest.head?.map CmdEvts.node) d).ending = .finished ∧
      (processLoop event deletes fuel (rest.head?.map CmdEvts.node) d).calls =
        d.calls ++ (rest.filter fun record => record.event = event).map CmdEvts.obj := by
  induction rest with
  | nil =>
    intro before d fuel _ _ _ _
    cases fuel with
    | zero => exact ⟨rfl, (List.append_nil _).symm⟩
    | succ fuel => exact ⟨rfl, (List.append_nil _).symm⟩
  | cons record rest ih =>
    intro before d fuel hrecords hnodup hfuel hclean
    obtain ⟨hhead, htail⟩ := hclean
    cases fuel with
    | zero => simp at hfuel
    | succ fuel =>
      rw [List.length_cons] at hfuel
      have hlen : rest.length ≤ fuel := by omega
      have hsplit : before ++ record :: rest = (before ++ [record]) ++ rest := by simp
      have hnodup' : (((before ++ [record]) ++ rest).map CmdEvts.node).Nodup := hsplit ▸ hnodup
      change (processLoop event deletes (fuel + 1) (some record.node) d).ending = _ ∧
        (processLoop event deletes (fuel + 1) (some record.node) d).calls = _
      rw [processLoop_record hrecords hnodup]
      by_cases hevent : record.event = event
      · obtain ⟨hlive, hlast⟩ := hhead hevent
        rw [if_pos hevent, if_neg hlive, List.filter_cons_of_pos (by simpa using hevent), List.map_cons]
        unfold eventCallback
        by_cases hdel : deletes record.obj = true
        · -- its records are behind the loop
          rw [if_pos hdel]
          have hgone : deregistr d.records record.obj = deregistr before record.obj ++ rest := by
            rw [hrecords]
            exact deregistr_split (hlast hdel)
          have hdone := @ih _ ⟨deregistr d.records record.obj, record.obj :: d.destroyed,
            d.calls ++ [record.obj], d.ending⟩ fuel hgone (nodup_filter_append hnodup) hlen
            ((Clean.destroy (hlast hdel)).mpr htail)
          refine ⟨hdone.1, hdone.2.trans ?_⟩
          simp
        · rw [if_neg hdel]
          have hdone := @ih _ ⟨d.records, d.destroyed, d.calls ++ [record.obj], d.ending⟩ fuel
            (hrecords.trans hsplit) hnodup' hlen htail
          refine ⟨hdone.1, hdone.2.trans ?_⟩
          simp
      grind

theorem processLoop_not_finished {rest : List CmdEvts} : ∀ {before : List CmdEvts} {d : Dispatch} {fuel : Nat},
    d.records = before ++ rest → ((before ++ rest).map CmdEvts.node).Nodup → Grouped rest →
    d.ending ≠ .finished → ¬Clean event deletes d.destroyed rest →
    (processLoop event deletes fuel (rest.head?.map CmdEvts.node) d).ending ≠ .finished := by
  induction rest with
  | nil =>
    intro before d fuel _ _ _ _ hclean
    exact absurd trivial hclean
  | cons record rest ih =>
    intro before d fuel hrecords hnodup hgrouped hrunning hclean
    obtain ⟨hnext, hgrouped'⟩ := hgrouped
    cases fuel with
    | zero => exact hrunning
    | succ fuel =>
      have hsplit : before ++ record :: rest = (before ++ [record]) ++ rest := by simp
      have hnodup' : (((before ++ [record]) ++ rest).map CmdEvts.node).Nodup := hsplit ▸ hnodup
      change (processLoop event deletes (fuel + 1) (some record.node) d).ending ≠ _
      rw [processLoop_record hrecords hnodup]
      by_cases hevent : record.event = event
      · rw [if_pos hevent]
        by_cases hdead : record.obj ∈ d.destroyed
        · rw [if_pos hdead]
          exact nofun
        · rw [if_neg hdead]
          unfold eventCallback
          by_cases hdel : deletes record.obj = true
          · rw [if_pos hdel]
            by_cases hlast : ∀ later ∈ rest, later.obj ≠ record.obj
            · have hgone : deregistr d.records record.obj = deregistr before record.obj ++ rest := by
                rw [hrecords]
                exact deregistr_split hlast
              refine ih (d := ⟨deregistr d.records record.obj, record.obj :: d.destroyed,
                d.calls ++ [record.obj], d.ending⟩) hgone (nodup_filter_append hnodup) hgrouped' hrunning ?_
              intro hrest
              exact hclean ⟨fun _ => ⟨hdead, fun _ => hlast⟩, (Clean.destroy hlast).mp hrest⟩
            · -- the next record is its own and has been freed
              push Not at hlast
              obtain ⟨next, hhead, hobj⟩ := hnext hlast
              rw [Option.mem_def] at hhead
              rw [hhead, Option.map_some]
              cases fuel with
              | zero => exact hrunning
              | succ fuel =>
                have hfreed : (deregistr d.records record.obj).dropWhile (fun r => r.node ≠ next.node) = [] := by
                  refine dropWhile_absent fun r hr he => ?_
                  obtain ⟨hmem, hne⟩ := List.mem_filter.mp hr
                  have hsame : r = next := by
                    have hin : next ∈ d.records := by
                      rw [hrecords]
                      exact List.mem_append_right _ (List.mem_cons_of_mem _ (List.mem_of_mem_head? hhead))
                    exact List.inj_on_of_nodup_map (hrecords ▸ hnodup) hmem hin he
                  rw [hsame, hobj] at hne
                  simp at hne
                rw [processLoop, hfreed]
                exact nofun
          · rw [if_neg hdel]
            refine ih (d := ⟨d.records, d.destroyed, d.calls ++ [record.obj], d.ending⟩) (hrecords.trans hsplit)
              hnodup' hgrouped' hrunning fun hrest => hclean ⟨fun _ => ⟨hdead, fun h => absurd h hdel⟩, hrest⟩
      · rw [if_neg hevent]
        exact ih (hrecords.trans hsplit) hnodup' hgrouped' hrunning
          fun hrest => hclean ⟨fun h => absurd h hevent, hrest⟩

theorem processLoop_frame {fuel : Nat} : ∀ {tmp : Option Nat} {d : Dispatch},
    ∃ gone : List Nat, (processLoop event deletes fuel tmp d).destroyed = gone ++ d.destroyed ∧
      (processLoop event deletes fuel tmp d).records = (d.records.filter fun record => record.obj ∉ gone) ∧
      ∀ obj ∈ gone, deletes obj = true := by
  have hsame : ∀ d : Dispatch, ∃ gone : List Nat, d.destroyed = gone ++ d.destroyed ∧
      d.records = (d.records.filter fun record => record.obj ∉ gone) ∧ ∀ obj ∈ gone, deletes obj = true := by
    intro d
    exact ⟨[], rfl, by simp, nofun⟩
  induction fuel with
  | zero =>
    intro tmp d
    cases tmp with
    | none => exact hsame d
    | some tmp => exact hsame d
  | succ fuel ih =>
    intro tmp d
    cases tmp with
    | none => exact hsame d
    | some tmp =>
      unfold processLoop
      split
      next => exact hsame d
      next tmp1 rest _ =>
        dsimp only
        split
        next =>
          split
          next => exact hsame d
          next =>
            unfold eventCallback
            split
            next hdel =>
              obtain ⟨gone, hdestroyed, hrecords, hall⟩ := @ih (rest.head?.map CmdEvts.node)
                ⟨deregistr d.records tmp1.obj, tmp1.obj :: d.destroyed, d.calls ++ [tmp1.obj], d.ending⟩
              refine ⟨gone ++ [tmp1.obj], ?_, ?_, ?_⟩
              · rw [hdestroyed, List.append_assoc]
                rfl
              · rw [hrecords]
                simp [deregistr, List.filter_filter]
              grind
            next => exact ih (d := ⟨d.records, d.destroyed, d.calls ++ [tmp1.obj], d.ending⟩)
        next => exact ih

end EvtDispatcher

end DeviceHal.Ipacm
