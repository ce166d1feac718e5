import DeviceHal.Gps.TimerMirror

namespace DeviceHal.Gps

open Lib

variable {s : TimerSystem} {timer : LocTimerDelegate}

/-- A timer that its client has not stopped is in the heap or on the way to it. -/
def NoneLost (s : TimerSystem) : Prop :=
  ∀ timer ∈ s.live, timer ∈ s.heap.contents ∨ .push timer ∈ s.queue

/-- No two timers that are not stopped share an address, and none has that of one to be removed. -/
structure KeptInv (s : TimerSystem) : Prop where
  sound : s.heap.mTree.Sound LocTimerDelegate.ranks
  addrs : (s.live.map LocTimerDelegate.addr).Nodup
  stopped : ∀ timer, .remove timer ∈ s.queue → ∀ other ∈ s.live, other.addr ≠ timer.addr
  kept : NoneLost s

variable {heap : LocHeap LocTimerDelegate}

theorem LocHeap.stays_or_taken
    (sound : heap.mTree.Sound LocTimerDelegate.ranks) (op : PqOp LocTimerDelegate)
    (stored : timer ∈ heap.contents) : timer ∈ (heap.step LocTimerDelegate.ranks op).1.contents ∨
      (heap.step LocTimerDelegate.ranks op).2 = some timer ∧ (op = .pop ∨ op = .remove timer) := by
  have hstep := (LocHeap.step_spec sound op).2
  have herase : ∀ other, timer ∈ heap.contents.erase other ∨ other = timer := fun other =>
    or_iff_not_imp_right.mpr fun hne => (Multiset.mem_erase_of_ne (Ne.symm hne)).mpr stored
  generalize (heap.step LocTimerDelegate.ranks op).2 = res at hstep ⊢
  generalize (heap.step LocTimerDelegate.ranks op).1.contents = after at hstep ⊢
  generalize heap.contents = before at hstep stored herase
  cases hstep with
  | push => exact Or.inl (Multiset.mem_cons_of_mem stored)
  | popNone | removeNone => exact Or.inl stored
  | pop _ other => exact (herase other).imp_right fun he => ⟨congrArg some he, Or.inl rfl⟩
  | remove _ other => exact (herase other).imp_right fun he => ⟨congrArg some he, Or.inr (congrArg _ he)⟩

theorem KeptInv.stop (h : KeptInv s) {heap : LocHeap LocTimerDelegate}
    (sound : heap.mTree.Sound LocTimerDelegate.ranks)
    (stays : ∀ other ∈ s.heap.contents, other ≠ timer → other ∈ heap.contents) :
    KeptInv ({ s with heap }.stop timer) := by
  have hkept : ∀ other ∈ s.live, other ≠ timer → other ∈ heap.contents ∨ .push other ∈ s.queue :=
    fun other hlive hne => (h.kept other hlive).imp_left (stays other · hne)
  unfold TimerSystem.stop
  split
  next hlive =>
    have hother : ∀ other ∈ s.live.erase timer, other ∈ s.live ∧ other.addr ≠ timer.addr := by
      intro other hm
      have hin := List.mem_of_mem_erase hm
      refine ⟨hin, fun haddr => ?_⟩
      cases List.inj_on_of_nodup_map h.addrs hin hlive haddr
      exact (List.Nodup.mem_erase_iff h.addrs.of_map).mp hm |>.1 rfl
    refine ⟨sound, h.addrs.sublist (List.erase_sublist.map _), fun t ht other hm => ?_, fun other hm => ?_⟩
    · rcases List.mem_append.mp ht with ht | ht
      · exact h.stopped t ht other (hother other hm).1
      · cases List.mem_singleton.mp ht
        exact (hother other hm).2
    · refine (hkept other (hother other hm).1 fun he => (hother other hm).2 (he ▸ rfl)).imp_right ?_
      exact List.mem_append_left _
  next hlive =>
    exact ⟨sound, h.addrs, h.stopped, fun other hm => hkept other hm fun he => hlive (he ▸ hm)⟩

theorem KeptInv.updateSoonestTime (h : KeptInv s) (prior : Option LocTimerDelegate) :
    KeptInv (s.updateSoonestTime prior) := by
  obtain ⟨polled, itValue, hs⟩ := s.updateSoonestTime_kernel prior
  rw [hs]
  exact ⟨h.sound, h.addrs, h.stopped, h.kept⟩

/-- The soonest timer is popped and called, if there is one. -/
theorem KeptInv.pop (h : KeptInv s) (expiring : Option Timespec)
    {popped : Option LocTimerDelegate} (hpop : s.heap.pop LocTimerDelegate.ranks = (heap, popped)) :
    (popped = none → KeptInv { s with heap, expiring }) ∧
      ∀ timer, popped = some timer → KeptInv ({ s with heap, expiring }.expireTimer timer) := by
  have hsound := sound_calls h.sound .pop
  change (s.heap.pop LocTimerDelegate.ranks).1.mTree.Sound _ at hsound
  rw [hpop] at hsound
  have hout : ∀ other ∈ s.heap.contents, other ∈ heap.contents ∨ popped = some other := by
    intro other hin
    have hor := LocHeap.stays_or_taken h.sound .pop hin
    change other ∈ (s.heap.pop LocTimerDelegate.ranks).1.contents ∨ _ at hor
    rw [hpop] at hor
    exact hor.imp_right fun hres => (congrArg Prod.snd hpop).symm.trans hres.1
  refine ⟨?_, ?_⟩
  · rintro rfl
    refine ⟨hsound, h.addrs, h.stopped, fun other hm => (h.kept other hm).imp_left fun hin => ?_⟩
    exact (hout other hin).resolve_right nofun
  · rintro timer rfl
    have hstop := @KeptInv.stop { s with expiring } timer
      ⟨h.sound, h.addrs, h.stopped, h.kept⟩ heap hsound
      fun other hin hne => (hout other hin).resolve_right fun ho => hne (Option.some.inj ho).symm
    exact ⟨hstop.sound, hstop.addrs, hstop.stopped, hstop.kept⟩

theorem KeptInv.next (h : KeptInv s) {msg : TimerMsg} {queue : List TimerMsg} (hq : s.queue = msg :: queue)
    (sound : heap.mTree.Sound LocTimerDelegate.ranks)
    (stays : ∀ other ∈ s.live, other ∈ s.heap.contents ∨ msg = .push other → other ∈ heap.contents) :
    KeptInv { s with queue, heap } := by
  refine ⟨sound, h.addrs, fun t ht => h.stopped t (hq ▸ List.mem_cons_of_mem _ ht), fun other hm => ?_⟩
  rcases h.kept other hm with hin | hin
  · exact Or.inl (stays other hm (Or.inl hin))
  · rw [hq] at hin
    rcases List.mem_cons.mp hin with hmsg | hin
    · exact Or.inl (stays other hm (Or.inr hmsg.symm))
    · exact Or.inr hin

theorem KeptInv.msgTask (h : KeptInv s) : KeptInv s.msgTask := by
  have hidle : KeptInv { s with expiring := none } := ⟨h.sound, h.addrs, h.stopped, h.kept⟩
  unfold TimerSystem.msgTask
  split
  next timerOfNow hexp =>
    unfold TimerSystem.procExpireTurn
    split
    next => exact hidle.updateSoonestTime none
    next =>
      split
      next =>
        split
        next heap popped hpop =>
          cases popped with
          | none => exact ((h.pop none hpop).1 rfl).updateSoonestTime none
          | some timer => exact (h.pop s.expiring hpop).2 timer rfl
      next => exact hidle.updateSoonestTime none
  next hexp =>
    split
    next => exact h
    next timer queue hq =>
      refine (h.next hq (sound_calls h.sound (.push timer)) fun other hm hin => ?_).updateSoonestTime _
      rcases hin with hin | hmsg
      · exact (LocHeap.stays_or_taken h.sound (.push timer) hin).resolve_right (by simp)
      · cases hmsg
        change timer ∈ (s.heap.mTree.push LocTimerDelegate.ranks timer).contents
        rw [LocHeapNode.contents_push]
        exact Multiset.mem_cons_self _ _
    next timer queue hq =>
      have hremove : KeptInv { s with queue, heap := (s.heap.remove LocTimerDelegate.ranks timer).1 } := by
        refine h.next hq (sound_calls h.sound (.remove timer)) fun other hm hin => ?_
        have hother := h.stopped timer (hq ▸ List.mem_cons_self) other hm
        refine (LocHeap.stays_or_taken h.sound (.remove timer) (hin.resolve_right nofun)).resolve_right ?_
        rintro ⟨-, hop | hop⟩
        · cases hop
        · cases hop
          exact hother rfl
      unfold TimerSystem.procRemove
      dsimp only
      split
      next => exact hremove.updateSoonestTime none
      next => exact hremove
    next queue hq =>
      have hread : KeptInv { s with queue } := h.next hq h.sound fun _ _ hin => hin.resolve_right nofun
      unfold TimerSystem.procExpire
      split
      next heap popped hpop =>
        cases popped with
        | none => exact ((hread.pop s.expiring hpop).1 rfl).updateSoonestTime none
        | some timer => exact (hread.pop (some s.now) hpop).2 timer rfl

theorem KeptInv.step (h : KeptInv s) (evt : TimerEvent) : KeptInv (timerStep s evt) := by
  cases evt with
  | tick now =>
    change KeptInv (if s.now ≤ now then { s with now } else s)
    split <;> exact ⟨h.sound, h.addrs, h.stopped, h.kept⟩
  | start addr timeOutInMs =>
    change KeptInv (s.start addr timeOutInMs)
    unfold TimerSystem.start
    split
    next => exact h
    next hfree =>
      split
      next => exact h
      next futureTime _ =>
        unfold TimerSystem.allocated at hfree
        rw [Bool.or_eq_true, not_or] at hfree
        have hlive : addr ∉ s.live.map LocTimerDelegate.addr := fun hm => hfree.1 (by simpa using hm)
        refine ⟨h.sound, List.nodup_cons.mpr ⟨hlive, h.addrs⟩, fun t ht other hm => ?_, fun other hm => ?_⟩
        · have hqueued : .remove t ∈ s.queue := by simpa using ht
          rcases List.mem_cons.mp hm with rfl | hm
          · exact fun haddr => hfree.2 (List.any_eq_true.mpr ⟨_, hqueued, by simpa using haddr.symm⟩)
          · exact h.stopped t hqueued other hm
        · rcases List.mem_cons.mp hm with rfl | hm
          · exact Or.inr (by simp)
          · exact (h.kept other hm).imp_right (List.mem_append_left _)
  | stop timer => exact h.stop h.sound fun _ hin _ => hin
  | pollTask =>
    change KeptInv s.pollTask
    unfold TimerSystem.pollTask
    split
    next => split <;> exact ⟨h.sound, h.addrs, h.stopped, h.kept⟩
    next => exact ⟨h.sound, h.addrs, h.stopped, h.kept⟩
    next => exact ⟨h.sound, h.addrs, h.stopped, h.kept⟩
    next =>
      refine ⟨h.sound, h.addrs, fun t ht => h.stopped t ?_, fun other hm =>
        (h.kept other hm).imp_right (List.mem_append_left _)⟩
      simpa using ht
  | msgTask => exact h.msgTask

/-- No order of starts, stops, expiries and messages loses a timer that was not stopped. -/
theorem none_lost_always (now : Timespec) (evts : List TimerEvent) :
    Always timerRun NoneLost { now } evts := by
  have first : KeptInv { now } := ⟨trivial, List.nodup_nil, nofun, nofun⟩
  refine @always_invariant _ _ _ (fun _ _ => True) KeptInv _ (fun _ h => h.kept)
    (fun s evt t h _ ht => ?_) _ _ first (opsMeet_true _ evts)
  cases ht
  exact h.step evt

end DeviceHal.Gps
