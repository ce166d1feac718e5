import DeviceHal.Gps.LocTimer

namespace DeviceHal.Gps

open Lib

variable {s : TimerSystem} {timer : LocTimerDelegate}

/-- The fd has fired, or a `MsgTimerExpire` is queued or under way. -/
def ExpiryPending (s : TimerSystem) : Prop :=
  s.poll ≠ .waiting ∨ .expire ∈ s.queue ∨ s.expiring ≠ none

/-- The timerfd is armed with the time of the soonest timer and polled, or neither if there is
none. -/
def Mirrors (s : TimerSystem) : Prop :=
  s.itValue = s.getSoonestTimer.map LocTimerDelegate.mFutureTime ∧
    s.polled = s.getSoonestTimer.isSome

def MirrorsAtRest (s : TimerSystem) : Prop := ¬ExpiryPending s → Mirrors s

/-- The message processed takes the last timer out of the heap, or comes to the end of a
`MsgTimerExpire` with none left. -/
def LeavesEmpty (s : TimerSystem) : Prop :=
  match s.expiring with
  | some _ => s.getSoonestTimer = none
  | none => match s.queue with
    | .remove timer :: _ => (s.heap.remove LocTimerDelegate.ranks timer).1.peek = none
    | .expire :: _ => s.getSoonestTimer = none
    | _ => False

/-- An expiry is pending when the message has been processed: the fd has fired, or a later
`MsgTimerExpire` is queued. -/
def StaysPending (s : TimerSystem) : Prop :=
  s.poll ≠ .waiting ∨ .expire ∈ (if s.expiring = none then s.queue.tail else s.queue)

/-- A message that leaves the heap empty, with no expiry pending, finds the timer disarmed. -/
def DisarmedWhenEmpty (s : TimerSystem) : TimerEvent → Prop
  | .msgTask => LeavesEmpty s → ¬StaysPending s → s.itValue = none ∧ s.polled = false
  | _ => True

structure MirrorInv (s : TimerSystem) : Prop where
  sound : s.heap.mTree.Sound LocTimerDelegate.ranks
  mirrors : MirrorsAtRest s

namespace TimerSystem

theorem updateSoonestTime_null (s : TimerSystem) :
    s.updateSoonestTime none = match s.getSoonestTimer with
      | none => s
      | some top => { s with polled := true, itValue := some top.mFutureTime } := by
  unfold updateSoonestTime
  grind

theorem updateSoonestTime_same {prior : Option LocTimerDelegate} (h : s.getSoonestTimer = prior) :
    s.updateSoonestTime prior = s := by
  unfold updateSoonestTime
  exact if_neg (not_not.mpr h)

theorem updateSoonestTime_sooner {top prior : LocTimerDelegate} (h : s.getSoonestTimer = some top)
    (rank : OutRanks LocTimerDelegate.ranks top prior) :
    s.updateSoonestTime (some prior) = { s with polled := true, itValue := some top.mFutureTime } := by
  have hne : some top ≠ some prior := by
    intro he
    rw [Option.some.inj he] at rank
    exact irrefl prior rank
  unfold updateSoonestTime
  dsimp only
  rw [h, if_pos hne]
  exact if_pos rank

end TimerSystem

theorem Mirrors.armed {top : LocTimerDelegate} (h : s.getSoonestTimer = some top) :
    Mirrors { s with polled := true, itValue := some top.mFutureTime } := by
  have hsame : ({ s with polled := true, itValue := some top.mFutureTime } :
      TimerSystem).getSoonestTimer = some top := h
  unfold Mirrors
  rw [hsame]
  exact ⟨rfl, rfl⟩

theorem Mirrors.of_top {s' : TimerSystem} (h : Mirrors s)
    (top : s'.getSoonestTimer = s.getSoonestTimer) (it : s'.itValue = s.itValue)
    (polled : s'.polled = s.polled) : Mirrors s' := by
  unfold Mirrors
  rw [top, it, polled]
  exact h

theorem mirrors_empty (h : s.getSoonestTimer = none) :
    Mirrors s ↔ s.itValue = none ∧ s.polled = false := by
  unfold Mirrors
  rw [h]
  rfl

theorem Mirrors.updateSoonestTime_null
    (h : s.getSoonestTimer = none → s.itValue = none ∧ s.polled = false) :
    Mirrors (s.updateSoonestTime none) := by
  rw [s.updateSoonestTime_null]
  cases htop : s.getSoonestTimer with
  | none => exact (mirrors_empty htop).mpr (h htop)
  | some top => exact Mirrors.armed htop

theorem Mirrors.procPush (h : Mirrors s) (timer : LocTimerDelegate) : Mirrors (s.procPush timer) := by
  have hpush : ({ s with heap := s.heap.push LocTimerDelegate.ranks timer } :
      TimerSystem).getSoonestTimer = _ := LocHeapNode.top?_push timer s.heap.mTree
  unfold TimerSystem.procPush
  cases hprior : s.getSoonestTimer with
  | none =>
    have hprior' : s.heap.mTree.top? = none := hprior
    rw [hprior'] at hpush
    exact Mirrors.updateSoonestTime_null fun hnone => by rw [hpush] at hnone; cases hnone
  | some prior =>
    have hprior' : s.heap.mTree.top? = some prior := hprior
    rw [hprior'] at hpush
    dsimp only at hpush
    by_cases hrank : OutRanks LocTimerDelegate.ranks timer prior
    · rw [if_pos hrank] at hpush
      rw [TimerSystem.updateSoonestTime_sooner hpush hrank]
      exact Mirrors.armed hpush
    · rw [if_neg hrank] at hpush
      rw [TimerSystem.updateSoonestTime_same hpush]
      exact h.of_top (hpush.trans hprior.symm) rfl rfl

theorem Mirrors.procRemove (sound : s.heap.mTree.Sound LocTimerDelegate.ranks) (h : Mirrors s)
    {timer : LocTimerDelegate}
    (left : (s.heap.remove LocTimerDelegate.ranks timer).1.peek = none →
      s.itValue = none ∧ s.polled = false) : Mirrors (s.procRemove timer) := by
  unfold TimerSystem.procRemove
  dsimp only
  split
  next => exact Mirrors.updateSoonestTime_null left
  next hne =>
    refine h.of_top ?_ rfl rfl
    change (s.heap.mTree.remove LocTimerDelegate.ranks timer).1.top? = s.heap.mTree.top?
    cases htop : s.heap.mTree.top? with
    | none =>
      rw [LocHeapNode.top?_none htop]
      rfl
    | some top =>
      refine LocHeapNode.top?_remove htop fun he => hne ?_
      rw [he]
      rcases LocHeapNode.remove_spec (x := top) sound with ⟨-, hres, -⟩ | ⟨hm, -⟩
      · exact htop.trans hres.symm
      · exact absurd (LocHeapNode.top?_mem htop) hm

theorem pending_updateSoonestTime (prior : Option LocTimerDelegate) :
    ExpiryPending (s.updateSoonestTime prior) ↔ ExpiryPending s := by
  obtain ⟨polled, itValue, hs⟩ := s.updateSoonestTime_kernel prior
  rw [hs]
  rfl

theorem pending_procPush : ExpiryPending (s.procPush timer) ↔ ExpiryPending s :=
  pending_updateSoonestTime (s := { s with heap := s.heap.push LocTimerDelegate.ranks timer }) _

theorem pending_procRemove : ExpiryPending (s.procRemove timer) ↔ ExpiryPending s := by
  unfold TimerSystem.procRemove
  dsimp only
  split
  next => exact pending_updateSoonestTime none
  next => exact Iff.rfl

theorem pending_expireTimer (hexp : s.expiring ≠ none) : ExpiryPending (s.expireTimer timer) := by
  refine Or.inr (Or.inr ?_)
  change (s.stop timer).expiring ≠ none
  rw [TimerSystem.stop_expiring]
  exact hexp

theorem MirrorsAtRest.send (h : MirrorsAtRest s) (msg : TimerMsg) (live : List LocTimerDelegate) : MirrorsAtRest { s with queue := s.queue ++ [msg], live } := by
  intro rest
  refine h fun hp => rest ?_
  rcases hp with hp | hp | hp
  · exact Or.inl hp
  · exact Or.inr (Or.inl (List.mem_append_left _ hp))
  · exact Or.inr (Or.inr hp)

theorem sound_calls (sound : s.heap.mTree.Sound LocTimerDelegate.ranks) (op : PqOp LocTimerDelegate) :
    (s.heap.step LocTimerDelegate.ranks op).1.mTree.Sound LocTimerDelegate.ranks :=
  (LocHeap.step_spec sound op).1

theorem sound_updateSoonestTime (sound : s.heap.mTree.Sound LocTimerDelegate.ranks)
    (prior : Option LocTimerDelegate) :
    (s.updateSoonestTime prior).heap.mTree.Sound LocTimerDelegate.ranks := by
  obtain ⟨polled, itValue, hs⟩ := s.updateSoonestTime_kernel prior
  rw [hs]
  exact sound

@[simp] theorem TimerSystem.stop_heap : (s.stop timer).heap = s.heap := by
  unfold stop
  split
  next => rfl
  next => rfl

theorem sound_procExpire (sound : s.heap.mTree.Sound LocTimerDelegate.ranks) :
    s.procExpire.heap.mTree.Sound LocTimerDelegate.ranks := by
  have hs : (s.heap.pop LocTimerDelegate.ranks).1.mTree.Sound LocTimerDelegate.ranks :=
    sound_calls sound .pop
  unfold TimerSystem.procExpire
  generalize s.heap.pop LocTimerDelegate.ranks = p at hs
  obtain ⟨heap, popped⟩ := p
  dsimp only at hs ⊢
  cases popped with
  | none => exact sound_updateSoonestTime hs none
  | some timer =>
    change (TimerSystem.stop timer _).heap.mTree.Sound _
    rw [TimerSystem.stop_heap]
    exact hs

theorem sound_procExpireTurn (sound : s.heap.mTree.Sound LocTimerDelegate.ranks)
    (timerOfNow : Timespec) :
    (s.procExpireTurn timerOfNow).heap.mTree.Sound LocTimerDelegate.ranks := by
  have hs : (s.heap.pop LocTimerDelegate.ranks).1.mTree.Sound LocTimerDelegate.ranks :=
    sound_calls sound .pop
  unfold TimerSystem.procExpireTurn
  have hidle := sound_updateSoonestTime (s := { s with expiring := none }) sound none
  cases s.getSoonestTimer with
  | none => exact hidle
  | some top =>
    dsimp only
    split
    next =>
      generalize s.heap.pop LocTimerDelegate.ranks = p at hs
      obtain ⟨heap, popped⟩ := p
      dsimp only at hs ⊢
      cases popped with
      | none => exact sound_updateSoonestTime hs none
      | some timer =>
        change (TimerSystem.stop timer _).heap.mTree.Sound _
        rw [TimerSystem.stop_heap]
        exact hs
    next => exact hidle

theorem mirrors_procExpireTurn {timerOfNow : Timespec}
    (hexp : s.expiring = some timerOfNow) (good : DisarmedWhenEmpty s .msgTask) :
    MirrorsAtRest (s.procExpireTurn timerOfNow) := by
  have hpop := LocHeap.pop_peek LocTimerDelegate.ranks s.heap
  unfold TimerSystem.procExpireTurn
  cases htop : s.getSoonestTimer with
  | none =>
    dsimp only
    intro rest
    rw [pending_updateSoonestTime] at rest
    refine Mirrors.updateSoonestTime_null fun _ => good ?_ fun stays => rest ?_
    · unfold LeavesEmpty
      rw [hexp]
      exact htop
    · rw [StaysPending, if_neg (by rw [hexp]; simp)] at stays
      rcases stays with stays | stays
      · exact Or.inl stays
      · exact Or.inr (Or.inl stays)
  | some top =>
    dsimp only
    split
    next =>
      generalize s.heap.pop LocTimerDelegate.ranks = p at hpop
      obtain ⟨heap, popped⟩ := p
      dsimp only at hpop ⊢
      rw [hpop.trans htop]
      refine fun rest => absurd (pending_expireTimer ?_) rest
      exact fun hnone => by rw [hexp] at hnone; cases hnone
    next =>
      refine fun _ => Mirrors.updateSoonestTime_null fun hnone => ?_
      exact absurd (htop.symm.trans hnone) (by simp)

theorem MirrorInv.msgTask (h : MirrorInv s) (good : DisarmedWhenEmpty s .msgTask) :
    MirrorInv s.msgTask := by
  -- without its first message the state mirrors the heap as before, and what is pending stays
  have before : ∀ msg queue, s.expiring = none → s.queue = msg :: queue → msg ≠ .expire →
      ¬ExpiryPending { s with queue } → Mirrors { s with queue } := by
    intro msg queue hexp hq ne rest
    refine (h.mirrors fun hp => rest ?_).of_top rfl rfl rfl
    rcases hp with hp | hp | hp
    · exact Or.inl hp
    · rw [hq] at hp
      rcases List.mem_cons.mp hp with hp | hp
      · exact absurd hp.symm ne
      · exact Or.inr (Or.inl hp)
    · exact absurd hexp hp
  have stays : ∀ msg queue, s.expiring = none → s.queue = msg :: queue → StaysPending s →
      ExpiryPending { s with queue } := by
    intro msg queue hexp hq stays
    rw [StaysPending, if_pos hexp, hq] at stays
    rcases stays with stays | stays
    · exact Or.inl stays
    · exact Or.inr (Or.inl stays)
  unfold TimerSystem.msgTask
  split
  next timerOfNow hexp =>
    exact ⟨sound_procExpireTurn h.sound timerOfNow, mirrors_procExpireTurn hexp good⟩
  next hexp =>
    split
    next => exact h
    next timer queue hq =>
      refine ⟨sound_updateSoonestTime (sound_calls (s := { s with queue }) h.sound (.push timer)) _,
        fun rest => ?_⟩
      have rest' := mt pending_procPush.mpr rest
      exact (before _ queue hexp hq (by simp) rest').procPush timer
    next timer queue hq =>
      refine ⟨?_, fun rest => ?_⟩
      · have hs := sound_calls (s := { s with queue }) h.sound (.remove timer)
        unfold TimerSystem.procRemove
        dsimp only
        split
        next => exact sound_updateSoonestTime hs none
        next => exact hs
      · have rest' := mt pending_procRemove.mpr rest
        refine (before _ queue hexp hq (by simp) rest').procRemove (s := { s with queue }) h.sound
          fun hempty => good ?_ fun hstays => rest' (stays _ queue hexp hq hstays)
        rw [LeavesEmpty, hexp, hq]
        exact hempty
    next queue hq =>
      refine ⟨sound_procExpire (s := { s with queue }) h.sound, ?_⟩
      have hpop := LocHeap.pop_peek LocTimerDelegate.ranks s.heap
      unfold TimerSystem.procExpire
      dsimp only
      generalize s.heap.pop LocTimerDelegate.ranks = p at hpop
      obtain ⟨heap, popped⟩ := p
      dsimp only at hpop ⊢
      cases popped with
      | some timer => exact fun rest => absurd (pending_expireTimer (by simp)) rest
      | none =>
        intro rest
        have rest' := mt (pending_updateSoonestTime none).mpr rest
        refine Mirrors.updateSoonestTime_null fun _ =>
          good ?_ fun hstays => rest' (stays _ queue hexp hq hstays)
        rw [LeavesEmpty, hexp, hq]
        exact hpop.symm

theorem MirrorInv.step (h : MirrorInv s) {evt : TimerEvent} (good : DisarmedWhenEmpty s evt) :
    MirrorInv (timerStep s evt) := by
  cases evt with
  | tick now =>
    change MirrorInv (if s.now ≤ now then { s with now } else s)
    split
    next => exact ⟨h.sound, h.mirrors⟩
    next => exact h
  | start addr timeOutInMs =>
    change MirrorInv (s.start addr timeOutInMs)
    unfold TimerSystem.start
    split
    next => exact h
    next =>
      split
      next => exact h
      next => exact ⟨h.sound, h.mirrors.send _ _⟩
  | stop timer =>
    change MirrorInv (s.stop timer)
    unfold TimerSystem.stop
    split
    next => exact ⟨h.sound, h.mirrors.send _ _⟩
    next => exact h
  | pollTask =>
    change MirrorInv s.pollTask
    unfold TimerSystem.pollTask
    split
    next =>
      split
      next => exact ⟨h.sound, fun rest => absurd (Or.inl (by simp)) rest⟩
      next => exact h
    next => exact ⟨h.sound, fun rest => absurd (Or.inl (by simp)) rest⟩
    next => exact ⟨h.sound, fun rest => absurd (Or.inl (by simp)) rest⟩
    next => exact ⟨h.sound, fun rest => absurd (Or.inr (Or.inl (by simp))) rest⟩
  | msgTask => exact h.msgTask good

theorem updateSoonestTime_empty (h : s.getSoonestTimer = none) : s.updateSoonestTime none = s := by
  rw [s.updateSoonestTime_null, h]

theorem msgTask_leavesEmpty (hempty : LeavesEmpty s) (hrest : ¬StaysPending s) :
    ¬ExpiryPending s.msgTask ∧ s.msgTask.getSoonestTimer = none ∧
      s.msgTask.itValue = s.itValue ∧ s.msgTask.polled = s.polled := by
  have atRest : ∀ msg queue, s.expiring = none → s.queue = msg :: queue →
      ¬ExpiryPending { s with queue } := by
    intro msg queue hexp hq hp
    refine hrest ?_
    rw [StaysPending, if_pos hexp, hq]
    rcases hp with hp | hp | hp
    · exact Or.inl hp
    · exact Or.inr hp
    · exact absurd hexp hp
  unfold LeavesEmpty at hempty
  unfold TimerSystem.msgTask
  split
  next timerOfNow hexp =>
    rw [hexp] at hempty
    have hidle : ({ s with expiring := none } : TimerSystem).getSoonestTimer = none := hempty
    have hturn : s.procExpireTurn timerOfNow = { s with expiring := none } := by
      unfold TimerSystem.procExpireTurn
      rw [show s.getSoonestTimer = none from hempty]
      exact updateSoonestTime_empty hidle
    rw [hturn]
    refine ⟨fun hp => hrest ?_, hempty, rfl, rfl⟩
    rw [StaysPending, if_neg (by rw [hexp]; simp)]
    rcases hp with hp | hp | hp
    · exact Or.inl hp
    · exact Or.inr hp
    · exact absurd rfl hp
  next hexp =>
    rw [hexp] at hempty
    split
    next hq =>
      rw [hq] at hempty
      exact hempty.elim
    next timer queue hq =>
      rw [hq] at hempty
      exact hempty.elim
    next timer queue hq =>
      rw [hq] at hempty
      have hremove : ({ s with queue } : TimerSystem).procRemove timer =
          { s with queue, heap := (s.heap.remove LocTimerDelegate.ranks timer).1 } := by
        unfold TimerSystem.procRemove
        dsimp only
        split
        next => exact updateSoonestTime_empty hempty
        next => rfl
      rw [hremove]
      exact ⟨atRest _ queue hexp hq, hempty, rfl, rfl⟩
    next queue hq =>
      rw [hq] at hempty
      have hpop := LocHeap.pop_peek LocTimerDelegate.ranks s.heap
      have hnull : s.heap.mTree = .null := LocHeapNode.top?_none hempty
      have hexpire : ({ s with queue } : TimerSystem).procExpire = { s with queue } := by
        have hheap : s.heap.pop LocTimerDelegate.ranks = (s.heap, none) := by
          unfold LocHeap.pop
          rw [hnull]
          exact congrArg (fun t => (LocHeap.mk t, none)) hnull.symm
        unfold TimerSystem.procExpire
        dsimp only
        rw [hheap]
        exact updateSoonestTime_empty (s := { s with queue }) hempty
      rw [hexpire]
      exact ⟨atRest _ queue hexp hq, hempty, rfl, rfl⟩

theorem not_mirrors_of_armed {evt : TimerEvent} (bad : ¬DisarmedWhenEmpty s evt) :
    ¬MirrorsAtRest (timerStep s evt) := by
  cases evt with
  | msgTask =>
    unfold DisarmedWhenEmpty at bad
    push Not at bad
    obtain ⟨hempty, hrest, harmed⟩ := bad
    obtain ⟨hp, htop, hit, hpolled⟩ := msgTask_leavesEmpty hempty hrest
    intro h
    obtain ⟨hnone, hfalse⟩ := (mirrors_empty htop).mp (h hp)
    exact harmed (hit ▸ hnone) (hpolled ▸ hfalse)
  | _ => exact absurd trivial bad

/-- All along a run the kernel timer mirrors the heap top exactly if no message leaves the heap empty
and the timer armed. -/
theorem mirrors_iff (now : Timespec) (evts : List TimerEvent) :
    Always timerRun MirrorsAtRest { now } evts ↔ OpsMeet timerRun DisarmedWhenEmpty { now } evts := by
  have first : MirrorInv { now } := ⟨trivial, fun _ => ⟨rfl, rfl⟩⟩
  exact always_iff (fun _ h => h.mirrors) (fun s evt h _ good => ⟨_, rfl, h.step good⟩)
    (fun s evt _ _ bad => ⟨_, rfl, not_mirrors_of_armed bad⟩) first (opsMeet_true _ evts)

/-- The last timer is stopped: the timer stays armed and polled. -/
theorem last_timer_stays_armed : ¬∀ (now : Timespec) (evts : List TimerEvent),
    Always timerRun MirrorsAtRest { now } evts := by
  intro h
  have always := h (secs 0 (by decide)) [.start 1 10000, .msgTask, .stop ⟨1, secs 10 (by decide)⟩,
    .msgTask]
  have last := (((always.2 _ rfl).2 _ rfl).2 _ rfl).2 _ rfl
  have mirrors := last (by unfold ExpiryPending; decide +kernel)
  exact absurd mirrors.2 (by decide +kernel)

end DeviceHal.Gps
