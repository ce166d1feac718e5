import DeviceHal.Gps.Agps
import Mathlib.Data.List.Nodup

namespace DeviceHal.Gps

namespace AgpsStateMachine

def handles (subscribers : List AgpsSubscriber) : List Int :=
  subscribers.map (·.mConnHandle)

def activeHandles (subscribers : List AgpsSubscriber) : List Int :=
  handles (subscribers.filter (!·.mIsInactive))

@[simp] theorem handles_nil : handles [] = [] := rfl

@[simp] theorem handles_cons (s : AgpsSubscriber) (l : List AgpsSubscriber) :
    handles (s :: l) = s.mConnHandle :: handles l := rfl

variable {l : List AgpsSubscriber} {h : Int}

theorem mem_handles : h ∈ handles l ↔ ∃ s ∈ l, s.mConnHandle = h := List.mem_map

theorem mem_activeHandles :
    h ∈ activeHandles l ↔ ∃ s ∈ l, s.mIsInactive = false ∧ s.mConnHandle = h := by
  unfold activeHandles
  rw [mem_handles]
  grind

theorem activeHandles_subset (hm : h ∈ activeHandles l) : h ∈ handles l := by
  obtain ⟨s, hs, -, he⟩ := mem_activeHandles.mp hm
  exact mem_handles.mpr ⟨s, hs, he⟩

theorem nodup_activeHandles (hn : (handles l).Nodup) : (activeHandles l).Nodup := by
  unfold activeHandles handles
  exact hn.sublist (List.filter_sublist.map _)

theorem handles_filter_nodup (hn : (handles l).Nodup)
    (p : AgpsSubscriber → Bool) : (handles (l.filter p)).Nodup := by
  unfold handles
  exact hn.sublist (List.filter_sublist.map _)

@[simp] theorem handles_markInactive (h : Int) (l : List AgpsSubscriber) :
    handles (markInactive h l) = handles l := by
  induction l with
  | nil => rfl
  | cons s l ih =>
    unfold markInactive
    split
    next => rfl
    next => rw [handles_cons, handles_cons, ih]

theorem markInactive_eq (hn : (handles l).Nodup) : markInactive h l =
      l.map fun s => if s.mConnHandle = h then { s with mIsInactive := true } else s := by
  induction l with
  | nil => rfl
  | cons s l ih =>
    obtain ⟨hs, hl⟩ := List.nodup_cons.mp hn
    unfold markInactive
    split
    next heq =>
      have hrest : l.map (fun s => if s.mConnHandle = h then { s with mIsInactive := true } else s)
          = l := by
        apply (List.map_congr_left fun t ht => ?_).trans (List.map_id l)
        have hne : t.mConnHandle ≠ h := by
          intro he
          exact hs (mem_handles.mpr ⟨t, ht, he.trans heq.symm⟩)
        simp [hne]
      rw [List.map_cons, hrest]
      simp [heq]
    next hne =>
      rw [List.map_cons, ih hl]
      simp [hne]

theorem activeHandles_markInactive (hn : (handles l).Nodup) :
    activeHandles (markInactive h l) = (activeHandles l).filter (· ≠ h) := by
  rw [markInactive_eq hn]
  clear hn
  unfold activeHandles handles
  induction l with
  | nil => rfl
  | cons s l ih =>
    grind

theorem activeHandles_delete (h : Int) (l : List AgpsSubscriber) :
    activeHandles (l.filter (·.mConnHandle ≠ h)) = (activeHandles l).filter (· ≠ h) := by
  unfold activeHandles handles
  rw [List.filter_map, List.filter_filter, List.filter_filter]
  congr 1
  apply List.filter_congr
  intro s _
  simp [Function.comp, Bool.and_comm]

theorem mem_handles_delete {h g : Int} :
    h ∈ handles (l.filter (·.mConnHandle ≠ g)) ↔ h ∈ handles l ∧ h ≠ g := by
  grind [mem_handles]

variable {sm : AgpsStateMachine} {s : AgpsSubscriber}

theorem getSubscriber_some
    (hg : sm.getSubscriber h = some s) : s ∈ sm.mSubscriberList ∧ s.mConnHandle = h := by
  have hm := List.mem_of_find?_eq_some hg
  have he := List.find?_some hg
  exact ⟨hm, by simpa using he⟩

theorem getSubscriber_none : sm.getSubscriber h = none ↔ h ∉ handles sm.mSubscriberList := by
  unfold getSubscriber
  rw [List.find?_eq_none, mem_handles]
  simp

theorem getFirstSubscriber_active (hg : sm.getFirstSubscriber false = some s) :
    s.mConnHandle ∈ activeHandles sm.mSubscriberList := by
  have hm := List.mem_of_find?_eq_some hg
  have he := List.find?_some hg
  exact mem_activeHandles.mpr ⟨s, hm, by simpa using he, rfl⟩

theorem anyActiveSubscribers_iff (sm : AgpsStateMachine) :
    sm.anyActiveSubscribers = true ↔ activeHandles sm.mSubscriberList ≠ [] := by
  unfold anyActiveSubscribers activeHandles handles
  rw [List.any_eq_true, ne_eq, List.map_eq_nil_iff, List.filter_eq_nil_iff]
  push Not
  rfl

theorem addSubscriber_list : (sm.addSubscriber s).mSubscriberList =
      if s.mConnHandle ∈ handles sm.mSubscriberList then sm.mSubscriberList
      else sm.mSubscriberList ++ [s] := by
  have hany : (sm.mSubscriberList.any (·.mConnHandle = s.mConnHandle)) = true ↔
      s.mConnHandle ∈ handles sm.mSubscriberList := by
    rw [mem_handles]
    simp
  grind [addSubscriber]

theorem addSubscriber_eq (s : AgpsSubscriber) (sm : AgpsStateMachine) :
    sm.addSubscriber s = { sm with mSubscriberList := (sm.addSubscriber s).mSubscriberList } := by
  unfold addSubscriber
  split <;> rfl

theorem nodup_addSubscriber (hn : (handles sm.mSubscriberList).Nodup) :
    (handles (sm.addSubscriber s).mSubscriberList).Nodup := by
  rw [addSubscriber_list]
  split
  next => exact hn
  next hm =>
    unfold handles at *
    rw [List.map_append]
    exact hn.append (List.nodup_singleton _) (by simpa using hm)

theorem mem_handles_addSubscriber : h ∈ handles (sm.addSubscriber s).mSubscriberList ↔
      h ∈ handles sm.mSubscriberList ∨ h = s.mConnHandle := by
  grind [addSubscriber_list, handles]

theorem mem_activeHandles_addSubscriber (ha : s.mIsInactive = false) :
    h ∈ activeHandles (sm.addSubscriber s).mSubscriberList ↔
      h ∈ activeHandles sm.mSubscriberList ∨
        h = s.mConnHandle ∧ h ∉ handles sm.mSubscriberList := by
  rw [addSubscriber_list]
  split
  next hm =>
    grind
  next hm =>
    simp only [activeHandles, handles, List.filter_append, List.map_append, List.mem_append]
    constructor
    · rintro (hh | hh)
      · exact Or.inl hh
      · have he : h = s.mConnHandle := by simpa [ha] using hh
        exact Or.inr ⟨he, he ▸ hm⟩
    grind

theorem noticed_eq (event : AgpsEvent) (sm : AgpsStateMachine) :
    ∃ r, sm.noticed event = { sm with mRetries := r } := by
  unfold noticed
  split
  · exact ⟨0, rfl⟩
  · exact ⟨sm.mRetries, rfl⟩

theorem notifyLoop_eq (event : AgpsEvent) (del : Bool) (type : AgpsNotificationType)
    (passed rest : List AgpsSubscriber) (sm : AgpsStateMachine) :
    ∃ r, notifyLoop event del type passed rest sm =
      ({ sm with
          mSubscriberList := passed ++ if del then rest.filter (!type.meets ·) else rest
          mRetries := r },
        (rest.filter type.meets).flatMap fun s => sm.notice event s) := by
  induction rest generalizing passed sm with
  | nil =>
    refine ⟨sm.mRetries, ?_⟩
    simp [notifyLoop]
  | cons s rest ih =>
    unfold notifyLoop
    split
    next hmeets =>
      obtain ⟨r, hr⟩ := noticed_eq event sm
      obtain ⟨r', hr'⟩ :=
        ih (if del then passed else passed ++ [s]) { sm with mRetries := r }
      refine ⟨r', ?_⟩
      simp only [notifyEventToSubscriber, hr, Bool.false_eq_true, if_false, hr']
      cases del <;> simp [hmeets] <;> rfl
    next hmeets =>
      obtain ⟨r, hr⟩ := ih (passed ++ [s]) sm
      grind

theorem notifyAllSubscribers_drop (event : AgpsEvent) (type : AgpsNotificationType)
    (sm : AgpsStateMachine) :
    ∃ r, sm.notifyAllSubscribers event true type =
      ({ sm with
          mSubscriberList := sm.mSubscriberList.filter (!type.meets ·)
          mRetries := r },
        (sm.mSubscriberList.filter type.meets).flatMap fun s => sm.notice event s) :=
  notifyLoop_eq event true type [] sm.mSubscriberList sm

theorem notifyAllSubscribers_keep (event : AgpsEvent) (type : AgpsNotificationType)
    (sm : AgpsStateMachine) :
    ∃ r, sm.notifyAllSubscribers event false type =
      ({ sm with mRetries := r },
        (sm.mSubscriberList.filter type.meets).flatMap fun s => sm.notice event s) :=
  notifyLoop_eq event false type [] sm.mSubscriberList sm

end AgpsStateMachine

/-- The call reopens the connection of a handle: an open status, or a request to try it again. -/
def AgpsOut.reopens (h : Int) : AgpsOut → Bool
  | .atlOpenStatus handle _ _ _ _ => handle = h
  | .sendRequestATL handle _ => handle = h
  | _ => false

/-- The calls that report that the connection of a handle is closed. -/
def closes (h : Int) (outs : List AgpsOut) : Nat := outs.count (.atlCloseStatus h true)

namespace AgpsStateMachine

theorem notifyDenied_ds {sm : AgpsStateMachine} (hk : sm.kind = .ds) (s : AgpsSubscriber) :
    sm.notifyEventToSubscriber .denied s false =
      ({ sm with mRetries := 0 }, [.sendRequestATL s.mConnHandle locAgpsTypeSupl]) := by
  simp [notifyEventToSubscriber, noticed, notice, dsNotice, hk]

theorem requestOrReleaseDataConn_eq (client : DSClient) (request : Bool)
    (sm : AgpsStateMachine) :
    ∃ r outs ret, sm.requestOrReleaseDataConn client request =
        ({ sm with mRetries := r }, outs, ret) ∧
      (∀ h, outs.any (·.reopens h) = true → h ∈ activeHandles sm.mSubscriberList) ∧
      ∀ h, closes h outs = 0 := by
  unfold requestOrReleaseDataConn
  split
  next =>
    exact ⟨sm.mRetries, _, _, rfl, by simp [AgpsOut.reopens], by simp [closes]⟩
  next hkind =>
    unfold dsRequestOrRelease
    split
    · exact ⟨sm.mRetries, _, _, rfl, by simp [AgpsOut.reopens], by simp [closes]⟩
    split
    next => exact ⟨sm.mRetries, _, _, rfl, by simp, by simp [closes]⟩
    next s hs =>
      have hact := getFirstSubscriber_active hs
      have hdeny : ∀ h, AgpsOut.reopens h (.sendRequestATL s.mConnHandle locAgpsTypeSupl) = true →
          h ∈ activeHandles sm.mSubscriberList := by
        intro h hr
        have he : s.mConnHandle = h := by simpa [AgpsOut.reopens] using hr
        exact he ▸ hact
      split
      next =>
        rw [notifyDenied_ds hkind]
        exact ⟨0, _, _, rfl, by simpa using hdeny, by simp [closes]⟩
      next ret _ =>
        split
        · dsimp only
          split
          · rw [notifyDenied_ds (by exact hkind)]
            exact ⟨0, _, _, rfl, by simpa [AgpsOut.reopens] using hdeny, by simp [closes]⟩
          · exact ⟨_, _, _, rfl, by simp [AgpsOut.reopens], by simp [closes]⟩
        · split
          · rw [notifyDenied_ds hkind]
            exact ⟨0, _, _, rfl, by simpa [AgpsOut.reopens] using hdeny, by simp [closes]⟩
          · exact ⟨sm.mRetries, _, _, rfl, by simp [AgpsOut.reopens], by simp [closes]⟩

end AgpsStateMachine

end DeviceHal.Gps
