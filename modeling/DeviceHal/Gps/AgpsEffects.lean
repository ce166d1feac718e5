import DeviceHal.Gps.AgpsSubscribers

namespace DeviceHal.Gps

/-- The events that tell a subscriber that its connection is closed. -/
def AgpsEvent.isClosing : AgpsEvent → Bool
  | .unsubscribe _ | .released => true
  | _ => false

/-- The events after which the modem hears of an open connection, or of another try. -/
def AgpsEvent.isOpening : AgpsEvent → Bool
  | .granted | .denied => true
  | _ => false

@[simp] theorem closes_nil (h : Int) : closes h [] = 0 := rfl

@[simp] theorem closes_append (h : Int) (outs more : List AgpsOut) :
    closes h (outs ++ more) = closes h outs + closes h more := List.count_append

namespace AgpsStateMachine

variable {sm : AgpsStateMachine} {h : Int}

def listed (h : Int) (subscribers : List AgpsSubscriber) : Nat := (handles subscribers).count h

theorem listed_pos {l : List AgpsSubscriber} : 0 < listed h l ↔ h ∈ handles l :=
  List.count_pos_iff

theorem listed_eq_zero {l : List AgpsSubscriber} : listed h l = 0 ↔ h ∉ handles l :=
  List.count_eq_zero

theorem listed_cons (s : AgpsSubscriber) (l : List AgpsSubscriber) :
    listed h (s :: l) = listed h l + if s.mConnHandle = h then 1 else 0 := by
  unfold listed
  rw [handles_cons, List.count_cons]
  simp

theorem listed_split (p : AgpsSubscriber → Bool) (l : List AgpsSubscriber) :
    listed h (l.filter p) + listed h (l.filter (!p ·)) = listed h l := by
  induction l with
  | nil => rfl
  | cons s l ih =>
    rw [listed_cons, List.filter_cons, List.filter_cons]
    cases hp : p s
    · simp only [Bool.false_eq_true, if_false, Bool.not_false, if_true, listed_cons]
      omega
    · simp only [if_true, Bool.not_true, Bool.false_eq_true, if_false, listed_cons]
      omega

theorem closes_notice (event : AgpsEvent) (s : AgpsSubscriber) :
    closes h (sm.notice event s) =
      if event.isClosing then (if s.mConnHandle = h then 1 else 0) else 0 := by
  unfold notice closes
  cases sm.kind <;> cases event <;>
    simp [frameworkNotice, dsNotice, AgpsEvent.isClosing, List.count_cons]

theorem closes_notices (event : AgpsEvent) (l : List AgpsSubscriber) :
    closes h (l.flatMap fun s => sm.notice event s) =
      if event.isClosing then listed h l else 0 := by
  induction l with
  | nil => simp [listed]
  | cons s l ih =>
    rw [List.flatMap_cons, closes_append, ih, closes_notice, listed_cons]
    split <;> omega

theorem reopens_notice (event : AgpsEvent) (s : AgpsSubscriber) :
    (sm.notice event s).any (·.reopens h) = true ↔
      event.isOpening = true ∧ s.mConnHandle = h := by
  unfold notice
  cases sm.kind <;> cases event <;>
    simp [frameworkNotice, dsNotice, AgpsEvent.isOpening, AgpsOut.reopens]

theorem reopens_notices (event : AgpsEvent) (l : List AgpsSubscriber) :
    (l.flatMap fun s => sm.notice event s).any (·.reopens h) = true ↔
      event.isOpening = true ∧ h ∈ handles l := by
  grind [List.any_eq_true, mem_handles, reopens_notice]

/-- The event does not make the handle active, tells of no connection for it unless it stays
active, and takes it out of the list with one close. -/
structure Spares (h : Int) (sm : AgpsStateMachine)
    (result : AgpsStateMachine × List AgpsOut) : Prop where
  active : h ∈ activeHandles result.1.mSubscriberList → h ∈ activeHandles sm.mSubscriberList
  reopens : result.2.any (·.reopens h) = true → h ∈ activeHandles result.1.mSubscriberList
  closes : closes h result.2 + listed h result.1.mSubscriberList = listed h sm.mSubscriberList

theorem Spares.nothing (sm : AgpsStateMachine) : Spares h sm (sm, []) :=
  ⟨id, by simp, by simp⟩

theorem Spares.dataConn {r : AgpsStateMachine × List AgpsOut} (hs : Spares h sm r)
    (sm' : AgpsStateMachine) (hl : sm'.mSubscriberList = r.1.mSubscriberList) (client : DSClient)
    (request : Bool) :
    Spares h sm ((sm'.requestOrReleaseDataConn client request).1,
      r.2 ++ (sm'.requestOrReleaseDataConn client request).2.1) := by
  obtain ⟨retries, outs, ret, hcall, hask, hclose⟩ := requestOrReleaseDataConn_eq client request sm'
  rw [hcall]
  refine ⟨?_, ?_, ?_⟩
  · dsimp only
    rw [hl]
    exact hs.active
  · dsimp only
    rw [List.any_append, Bool.or_eq_true]
    rintro (ho | ho)
    · exact hl ▸ hs.reopens ho
    · exact hask h ho
  · dsimp only
    rw [closes_append, hclose, hl]
    exact hs.closes

variable {s : AgpsSubscriber}

theorem subscribe_spares (client : DSClient) (ha : s.mIsInactive = false)
    (hh : s.mConnHandle = h → h ∈ handles sm.mSubscriberList ∧ sm.mState ≠ .acquired) :
    Spares h sm (sm.processAgpsEventSubscribe client s) := by
  have hactive : h ∈ activeHandles (sm.addSubscriber s).mSubscriberList →
      h ∈ activeHandles sm.mSubscriberList := by
    rw [mem_activeHandles_addSubscriber ha]
    rintro (hm | ⟨he, hn⟩)
    · exact hm
    · exact absurd (hh he.symm).1 hn
  have hlisted : listed h (sm.addSubscriber s).mSubscriberList = listed h sm.mSubscriberList := by
    rw [addSubscriber_list]
    split
    next => rfl
    next hn =>
      have hne : s.mConnHandle ≠ h := fun he => hn (he ▸ (hh he).1)
      unfold listed handles
      rw [List.map_append, List.count_append]
      simp [hne]
  have hadd : Spares h sm (sm.addSubscriber s, []) := ⟨hactive, by simp, by simp [hlisted]⟩
  unfold processAgpsEventSubscribe
  split
  next =>
    have hreq := hadd.dataConn (sm.addSubscriber s) rfl client true
    obtain ⟨retries, outs, ret, hcall, -⟩ :=
      requestOrReleaseDataConn_eq client true (sm.addSubscriber s)
    rw [hcall] at hreq ⊢
    dsimp only
    split
    · exact ⟨hreq.active, hreq.reopens, hreq.closes⟩
    · exact hreq
  next => exact hadd
  next => exact hadd
  next hs =>
    obtain ⟨retries, hr⟩ := noticed_eq .granted sm
    have hne : s.mConnHandle ≠ h := fun he => (hh he).2 hs
    simp only [notifyEventToSubscriber, Bool.false_eq_true, if_false]
    have hl : ((sm.noticed .granted).addSubscriber s).mSubscriberList =
        (sm.addSubscriber s).mSubscriberList := by
      rw [addSubscriber_list, addSubscriber_list, hr]
    refine ⟨?_, ?_, ?_⟩
    · dsimp only
      rw [hl]
      exact hactive
    · intro ho
      exact absurd ((reopens_notice _ _).mp ho).2 hne
    · dsimp only
      rw [closes_notice, hl, hlisted]
      simp [AgpsEvent.isClosing]

theorem retireSubscriber_spares (hn : (handles sm.mSubscriberList).Nodup)
    (hs : s ∈ sm.mSubscriberList) :
    Spares h sm (sm.retireSubscriber s) ∧
      (handles (sm.retireSubscriber s).1.mSubscriberList).Nodup ∧
      s.mConnHandle ∉ activeHandles (sm.retireSubscriber s).1.mSubscriberList := by
  unfold retireSubscriber
  split
  · have hact := activeHandles_markInactive (h := s.mConnHandle) hn
    refine ⟨⟨?_, by simp, ?_⟩, ?_, ?_⟩
    · grind [setInactive]
    · simp [setInactive, listed]
    · dsimp only [setInactive]
      rw [handles_markInactive]
      exact hn
    · dsimp only [setInactive]
      rw [hact]
      simp
  · obtain ⟨retries, hr⟩ := noticed_eq (.unsubscribe s) sm
    have hlist : (sm.notifyEventToSubscriber (.unsubscribe s) s true).1.mSubscriberList =
        sm.mSubscriberList.filter (·.mConnHandle ≠ s.mConnHandle) := by
      simp only [notifyEventToSubscriber, if_true, deleteSubscriber, hr]
    rw [hlist, activeHandles_delete]
    refine ⟨⟨?_, ?_, ?_⟩, handles_filter_nodup hn _, by simp⟩
    · rw [hlist, activeHandles_delete]
      exact fun hm => (List.mem_filter.mp hm).1
    · intro ho
      exact absurd ((reopens_notice _ _).mp ho).1 (by simp [AgpsEvent.isOpening])
    · rw [hlist]
      have hclose : closes h (sm.notifyEventToSubscriber (.unsubscribe s) s true).2 =
          if s.mConnHandle = h then 1 else 0 := closes_notice _ _
      rw [hclose]
      split
      next he =>
        have hgone : listed h (sm.mSubscriberList.filter (·.mConnHandle ≠ s.mConnHandle)) = 0 := by
          rw [listed_eq_zero, mem_handles_delete]
          rintro ⟨-, hne⟩
          exact hne he.symm
        have honce : listed h sm.mSubscriberList = 1 :=
          List.count_eq_one_of_mem hn (mem_handles.mpr ⟨s, hs, he⟩)
        rw [hgone, honce]
      next hne =>
        have hother : listed h (sm.mSubscriberList.filter
            fun t => !decide (t.mConnHandle ≠ s.mConnHandle)) = 0 := by
          rw [listed_eq_zero, mem_handles]
          rintro ⟨t, ht, rfl⟩
          have he : t.mConnHandle = s.mConnHandle := by simpa using (List.mem_filter.mp ht).2
          exact hne he.symm
        have hsplit := listed_split (h := h) (fun t => decide (t.mConnHandle ≠ s.mConnHandle))
          sm.mSubscriberList
        rw [hother] at hsplit
        simpa using hsplit

theorem leaveConnection_spares (hn : (handles sm.mSubscriberList).Nodup)
    (hs : s ∈ sm.mSubscriberList) (client : DSClient) :
    Spares h sm (sm.leaveConnection client s) ∧
      (handles (sm.leaveConnection client s).1.mSubscriberList).Nodup ∧
      s.mConnHandle ∉ activeHandles (sm.leaveConnection client s).1.mSubscriberList := by
  obtain ⟨hspares, hnodup, hgone⟩ := retireSubscriber_spares (h := h) hn hs
  unfold leaveConnection
  generalize sm.retireSubscriber s = r at *
  obtain ⟨after, outs⟩ := r
  dsimp only
  have hask := fun (state : AgpsState) =>
    hspares.dataConn (after.transitionState state) rfl client false
  have hlist := fun (state : AgpsState) =>
    requestOrReleaseDataConn_eq client false (after.transitionState state)
  split
  · obtain ⟨retries, more, ret, hcall, -⟩ := hlist .released
    have hreq := hask .released
    rw [hcall] at hreq ⊢
    exact ⟨hreq, hnodup, hgone⟩
  split
  · obtain ⟨retries, more, ret, hcall, -⟩ := hlist .releasing
    have hreq := hask .releasing
    rw [hcall] at hreq ⊢
    exact ⟨hreq, hnodup, hgone⟩
  · exact ⟨hspares, hnodup, hgone⟩

theorem unsubscribe_spares (hn : (handles sm.mSubscriberList).Nodup)
    (hs : s ∈ sm.mSubscriberList) (client : DSClient)
    (hh : s.mConnHandle = h → sm.mState ≠ .released) :
    Spares h sm (sm.processAgpsEventUnsubscribe client s) := by
  unfold processAgpsEventUnsubscribe
  split
  next hst =>
    obtain ⟨retries, hr⟩ := noticed_eq (.unsubscribe s) sm
    have hne : s.mConnHandle ≠ h := fun he => hh he hst
    refine ⟨?_, ?_, ?_⟩
    · simp only [notifyEventToSubscriber, Bool.false_eq_true, if_false, hr]
      exact id
    · intro ho
      exact absurd ((reopens_notice _ _).mp ho).2 hne
    · simp only [notifyEventToSubscriber, Bool.false_eq_true, if_false, hr, closes_notice, hne,
        ite_self, Nat.zero_add]
  next => exact (leaveConnection_spares hn hs client).1
  next => exact (leaveConnection_spares hn hs client).1
  next =>
    have hret := (retireSubscriber_spares (h := h) hn hs).1
    dsimp only
    split
    · exact ⟨hret.active, hret.reopens, hret.closes⟩
    · exact hret

theorem unsubscribe_inactive (hn : (handles sm.mSubscriberList).Nodup)
    (hs : s ∈ sm.mSubscriberList) (client : DSClient) (hst : sm.mState ≠ .released) :
    s.mConnHandle ∉ activeHandles (sm.processAgpsEventUnsubscribe client s).1.mSubscriberList := by
  unfold processAgpsEventUnsubscribe
  split
  next h => exact absurd h hst
  next => exact (leaveConnection_spares (h := 0) hn hs client).2.2
  next => exact (leaveConnection_spares (h := 0) hn hs client).2.2
  next =>
    have hret := (retireSubscriber_spares (h := 0) hn hs).2.2
    dsimp only
    split
    · exact hret
    · exact hret

theorem granted_spares : Spares h sm sm.processAgpsEventGranted := by
  unfold processAgpsEventGranted
  split
  next => exact .nothing sm
  next => exact .nothing sm
  next => exact .nothing sm
  next =>
    obtain ⟨r, hr⟩ := notifyAllSubscribers_keep .granted .forActiveSubscribers
      (sm.transitionState .acquired)
    rw [hr]
    refine ⟨id, ?_, ?_⟩
    · intro ho
      exact ((reopens_notices _ _).mp ho).2
    · dsimp only
      rw [closes_notices]
      simp [AgpsEvent.isClosing, transitionState]

theorem finishReleasing_spares (client : DSClient) : Spares h sm (sm.finishReleasing client) := by
  obtain ⟨r, hr⟩ := notifyAllSubscribers_drop .released .forInactiveSubscribers sm
  have hkept : Spares h sm (sm.notifyAllSubscribers .released true .forInactiveSubscribers) := by
    rw [hr]
    refine ⟨?_, ?_, ?_⟩
    · intro hm
      obtain ⟨s, hs, ha, he⟩ := mem_activeHandles.mp hm
      exact mem_activeHandles.mpr ⟨s, (List.mem_filter.mp hs).1, ha, he⟩
    · intro ho
      exact absurd ((reopens_notices _ _).mp ho).1 (by simp [AgpsEvent.isOpening])
    · dsimp only
      rw [closes_notices]
      exact listed_split _ _
  unfold finishReleasing
  generalize sm.notifyAllSubscribers .released true .forInactiveSubscribers = r at hkept ⊢
  obtain ⟨after, outs⟩ := r
  dsimp only
  split
  · exact hkept.dataConn (after.transitionState .pending) rfl client true
  · exact ⟨hkept.active, hkept.reopens, hkept.closes⟩

theorem released_spares (client : DSClient) : Spares h sm (sm.processAgpsEventReleased client) := by
  unfold processAgpsEventReleased
  split
  next => exact .nothing sm
  next => exact .nothing sm
  next =>
    obtain ⟨r, hr⟩ := notifyAllSubscribers_drop .released .forAllSubscribers
      (sm.transitionState .released)
    rw [hr]
    refine ⟨?_, ?_, ?_⟩
    · simp [AgpsNotificationType.meets, activeHandles]
    · intro ho
      exact absurd ((reopens_notices _ _).mp ho).1 (by simp [AgpsEvent.isOpening])
    · dsimp only
      rw [closes_notices]
      exact listed_split _ _
  next => exact finishReleasing_spares client

theorem denied_spares (client : DSClient)
    (hh : sm.mState = .pending → h ∉ handles sm.mSubscriberList) :
    Spares h sm (sm.processAgpsEventDenied client) := by
  unfold processAgpsEventDenied
  split
  next => exact .nothing sm
  next => exact .nothing sm
  next => exact finishReleasing_spares client
  next hst =>
    obtain ⟨r, hr⟩ := notifyAllSubscribers_drop .denied .forAllSubscribers
      (sm.transitionState .released)
    rw [hr]
    refine ⟨?_, ?_, ?_⟩
    · simp [AgpsNotificationType.meets, activeHandles]
    · intro ho
      obtain ⟨s, hs, he⟩ := mem_handles.mp ((reopens_notices _ _).mp ho).2
      exact absurd (mem_handles.mpr ⟨s, (List.mem_filter.mp hs).1, he⟩) (hh hst)
    · have hzero : listed h sm.mSubscriberList = 0 := listed_eq_zero.mpr (hh hst)
      dsimp only
      rw [closes_notices, hzero]
      simp [AgpsEvent.isClosing, AgpsNotificationType.meets, listed]

/-- A subscriber that comes is active, one that leaves is in the list. -/
def WellFormed (sm : AgpsStateMachine) : AgpsEvent → Prop
  | .subscribe s => s.mIsInactive = false
  | .unsubscribe s => s ∈ sm.mSubscriberList
  | _ => True

@[simp] theorem translate_subscribe (s : AgpsSubscriber) :
    sm.translate (.subscribe s) = .subscribe s := by simp [translate]

@[simp] theorem translate_unsubscribe (s : AgpsSubscriber) :
    sm.translate (.unsubscribe s) = .unsubscribe s := by simp [translate]

@[simp] theorem translate_granted : sm.translate .granted = .granted := by simp [translate]

@[simp] theorem translate_denied : sm.translate .denied = .denied := by simp [translate]

/-- The event cannot reopen the handle or close it twice, if it is not active. -/
def Harmless (h : Int) (sm : AgpsStateMachine) (event : AgpsEvent) : Prop :=
  match sm.translate event with
  | .subscribe s => s.mConnHandle = h → h ∈ handles sm.mSubscriberList ∧ sm.mState ≠ .acquired
  | .unsubscribe s => s.mConnHandle = h → sm.mState ≠ .released
  | .denied => sm.mState = .pending → h ∉ handles sm.mSubscriberList
  | _ => True

theorem harmless_subscribe : sm.Harmless h (.subscribe s) ↔
    (s.mConnHandle = h → h ∈ handles sm.mSubscriberList ∧ sm.mState ≠ .acquired) := by
  unfold Harmless
  rw [translate_subscribe]

theorem harmless_unsubscribe : sm.Harmless h (.unsubscribe s) ↔
    (s.mConnHandle = h → sm.mState ≠ .released) := by
  unfold Harmless
  rw [translate_unsubscribe]

theorem harmless_granted : sm.Harmless h .granted := by
  unfold Harmless
  rw [translate_granted]
  trivial

variable {event : AgpsEvent}

theorem WellFormed.translate (hw : sm.WellFormed event) : sm.WellFormed (sm.translate event) := by
  unfold AgpsStateMachine.translate
  split
  · trivial
  · exact hw

theorem processAgpsEvent_spares (hn : (handles sm.mSubscriberList).Nodup) (client : DSClient)
    (hw : sm.WellFormed event) (hh : sm.Harmless h event) :
    Spares h sm (sm.processAgpsEvent client event) := by
  have hw' := hw.translate
  unfold Harmless at hh
  unfold processAgpsEvent
  generalize sm.translate event = e at hw' hh ⊢
  cases e with
  | subscribe s => exact subscribe_spares client hw' hh
  | unsubscribe s => exact unsubscribe_spares hn hw' client hh
  | granted => exact granted_spares
  | released => exact released_spares client
  | denied => exact denied_spares client hh

theorem finishReleasing_sublist (client : DSClient) :
    (sm.finishReleasing client).1.mSubscriberList.Sublist sm.mSubscriberList := by
  obtain ⟨r, hr⟩ := notifyAllSubscribers_drop .released .forInactiveSubscribers sm
  have hsub : (sm.notifyAllSubscribers .released true .forInactiveSubscribers).1.mSubscriberList.Sublist
      sm.mSubscriberList := by
    rw [hr]
    exact List.filter_sublist
  unfold finishReleasing
  generalize sm.notifyAllSubscribers .released true .forInactiveSubscribers = r at hsub ⊢
  obtain ⟨after, outs⟩ := r
  dsimp only
  split
  · obtain ⟨retries, more, ret, hcall, -⟩ :=
      requestOrReleaseDataConn_eq client true (after.transitionState .pending)
    rw [hcall]
    exact hsub
  · exact hsub

theorem answer_sublist (client : DSClient)
    (he : event = .granted ∨ event = .released ∨ event = .denied) :
    (sm.dispatchEvent client event).1.mSubscriberList.Sublist sm.mSubscriberList := by
  have hall : ∀ e, ((sm.transitionState .released).notifyAllSubscribers e true
      .forAllSubscribers).1.mSubscriberList.Sublist sm.mSubscriberList := by
    intro e
    obtain ⟨r, hr⟩ := notifyAllSubscribers_drop e .forAllSubscribers
      (sm.transitionState .released)
    rw [hr]
    exact List.filter_sublist
  rcases he with rfl | rfl | rfl
  · unfold dispatchEvent processAgpsEventGranted
    dsimp only
    split
    next => exact List.Sublist.refl _
    next => exact List.Sublist.refl _
    next => exact List.Sublist.refl _
    next =>
      obtain ⟨r, hr⟩ := notifyAllSubscribers_keep .granted .forActiveSubscribers
        (sm.transitionState .acquired)
      rw [hr]
      exact List.Sublist.refl _
  · unfold dispatchEvent processAgpsEventReleased
    dsimp only
    split
    next => exact List.Sublist.refl _
    next => exact List.Sublist.refl _
    next => exact hall .released
    next => exact finishReleasing_sublist client
  · unfold dispatchEvent processAgpsEventDenied
    dsimp only
    split
    next => exact List.Sublist.refl _
    next => exact List.Sublist.refl _
    next => exact finishReleasing_sublist client
    next => exact hall .denied

theorem subscribe_list (client : DSClient) (s : AgpsSubscriber) :
    (sm.processAgpsEventSubscribe client s).1.mSubscriberList =
      (sm.addSubscriber s).mSubscriberList := by
  unfold processAgpsEventSubscribe
  split
  next =>
    obtain ⟨retries, outs, ret, hcall, -⟩ :=
      requestOrReleaseDataConn_eq client true (sm.addSubscriber s)
    rw [hcall]
    dsimp only
    split <;> rfl
  next => rfl
  next => rfl
  next =>
    obtain ⟨retries, hr⟩ := noticed_eq .granted sm
    simp only [notifyEventToSubscriber, Bool.false_eq_true, if_false]
    rw [addSubscriber_list, addSubscriber_list, hr]

theorem unsubscribe_keeps (hn : (handles sm.mSubscriberList).Nodup)
    (hs : s ∈ sm.mSubscriberList) (client : DSClient) :
    (handles (sm.processAgpsEventUnsubscribe client s).1.mSubscriberList).Nodup ∧
      ∀ h, h ∈ activeHandles (sm.processAgpsEventUnsubscribe client s).1.mSubscriberList →
        h ∈ activeHandles sm.mSubscriberList := by
  unfold processAgpsEventUnsubscribe
  split
  next =>
    obtain ⟨retries, hr⟩ := noticed_eq (.unsubscribe s) sm
    simp only [notifyEventToSubscriber, Bool.false_eq_true, if_false, hr]
    exact ⟨hn, fun h => id⟩
  next =>
    have hleave := fun h => leaveConnection_spares (h := h) hn hs client
    exact ⟨(hleave 0).2.1, fun h => (hleave h).1.active⟩
  next =>
    have hleave := fun h => leaveConnection_spares (h := h) hn hs client
    exact ⟨(hleave 0).2.1, fun h => (hleave h).1.active⟩
  next =>
    have hret := fun h => retireSubscriber_spares (h := h) hn hs
    dsimp only
    split
    · exact ⟨(hret 0).2.1, fun h => (hret h).1.active⟩
    · exact ⟨(hret 0).2.1, fun h => (hret h).1.active⟩

theorem activeHandles_sublist {l l' : List AgpsSubscriber} (hs : l.Sublist l')
    (hm : h ∈ activeHandles l) : h ∈ activeHandles l' := by
  obtain ⟨s, hl, ha, he⟩ := mem_activeHandles.mp hm
  exact mem_activeHandles.mpr ⟨s, hs.subset hl, ha, he⟩

theorem processAgpsEvent_keeps (hn : (handles sm.mSubscriberList).Nodup) (client : DSClient)
    (hw : sm.WellFormed event) :
    (handles (sm.processAgpsEvent client event).1.mSubscriberList).Nodup ∧
      ∀ h, h ∈ activeHandles (sm.processAgpsEvent client event).1.mSubscriberList →
        h ∈ activeHandles sm.mSubscriberList ∨
          ∃ s, event = .subscribe s ∧ s.mConnHandle = h ∧ h ∉ handles sm.mSubscriberList := by
  have answer : ∀ e, e = .granted ∨ e = .released ∨ e = .denied →
      (handles (sm.dispatchEvent client e).1.mSubscriberList).Nodup ∧
        ∀ h, h ∈ activeHandles (sm.dispatchEvent client e).1.mSubscriberList →
          h ∈ activeHandles sm.mSubscriberList ∨
            ∃ s, event = .subscribe s ∧ s.mConnHandle = h ∧ h ∉ handles sm.mSubscriberList := by
    intro e he
    have hsub : (sm.dispatchEvent client e).1.mSubscriberList.Sublist sm.mSubscriberList :=
      answer_sublist client he
    exact ⟨hn.sublist (hsub.map _), fun h hm => Or.inl (activeHandles_sublist hsub hm)⟩
  unfold processAgpsEvent
  cases event with
  | subscribe s =>
    have hlist : (sm.dispatchEvent client (.subscribe s)).1.mSubscriberList =
        (sm.addSubscriber s).mSubscriberList := subscribe_list client s
    rw [translate_subscribe, hlist]
    refine ⟨nodup_addSubscriber hn, fun h hm => ?_⟩
    rcases (mem_activeHandles_addSubscriber hw).mp hm with hm | ⟨he, hnew⟩
    · exact Or.inl hm
    · exact Or.inr ⟨s, rfl, he.symm, hnew⟩
  | unsubscribe s =>
    rw [translate_unsubscribe]
    obtain ⟨hnodup, hactive⟩ := unsubscribe_keeps hn hw client
    exact ⟨hnodup, fun h hm => Or.inl (hactive h hm)⟩
  | granted =>
    rw [translate_granted]
    exact answer .granted (Or.inl rfl)
  | released =>
    grind [translate]
  | denied =>
    rw [translate_denied]
    exact answer .denied (Or.inr (Or.inr rfl))

end AgpsStateMachine

end DeviceHal.Gps
