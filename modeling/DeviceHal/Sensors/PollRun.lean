import DeviceHal.Sensors.SensorEventQueue
import DeviceHal.Sensors.Routing

namespace DeviceHal.Sensors

open Lib

namespace PollContext

variable {t : HandleTable} {s s' : PollContext}

/-- What every step keeps: all queues, and that who sleeps for data sleeps at empty queues. -/
structure PollInv (t : HandleTable) (s : PollContext) : Prop where
  kept : Kept t s []
  next : 0 < s.queueCount → s.nextReadIndex < s.queueCount
  asleep : ∀ r maxReads, s.pollers r = .waits maxReads → s.waitingForData = true ∧ AllEmpty s
  waits_pos : ∀ r maxReads, s.pollers r = .waits maxReads → 0 < maxReads
  woken_pos : ∀ r maxReads, s.pollers r = .woken maxReads → 0 < maxReads

theorem pollInv_initial (t : HandleTable) (queueCount : Nat) (garbage : Nat → Nat → SensorsEvent) :
    PollInv t (initial queueCount garbage) where
  kept _ := ⟨SensorEventQueue.new_bounded (by decide) _, rfl, rfl, nofun, nofun, nofun⟩
  next h := h
  asleep _ _ h := nomatch h
  waits_pos _ _ h := nomatch h
  woken_pos _ _ h := nomatch h

variable {i : Nat}

theorem Kept.writer (h : Kept t s []) {writer : WriterTask}
    (hself : QueueKept t i (s.queues i) writer (s.written i) (s.read i) (eventsOf i (s.returned.flatten ++ []))) :
    Kept t { s with writers := Function.update s.writers i writer } [] := by
  intro j
  dsimp only
  by_cases he : j = i
  · rw [he, Function.update_self]
    exact hself
  · rw [Function.update_of_ne he]
    exact h j

theorem PollInv.writer (h : PollInv t s) {writer : WriterTask}
    (hself : QueueKept t i (s.queues i) writer (s.written i) (s.read i) (eventsOf i (s.returned.flatten ++ []))) :
    PollInv t { s with writers := Function.update s.writers i writer } :=
  ⟨h.kept.writer hself, h.next, h.asleep, h.waits_pos, h.woken_pos⟩

theorem PollInv.writerLocks (h : PollInv t s) (hstep : step t s (.writerLocks i) = some s') :
    PollInv t s' := by
  have hi := h.kept i
  rw [step] at hstep
  split at hstep
  next =>
    split at hstep
    next hfull =>
      cases Option.some.inj hstep
      exact h.writer ⟨hi.bounded, hi.written_eq, hi.returned_eq, nofun, nofun, fun _ => hfull⟩
    next hroom =>
      cases Option.some.inj hstep
      have hreserved := SensorEventQueue.reserved_getWritableRegion hi.bounded hroom
        (by decide : sensorEventQueueCapacity ≠ 0)
      refine h.writer ⟨hi.bounded, hi.written_eq, hi.returned_eq, ?_, nofun, nofun⟩
      grind
  next => cases hstep

theorem PollInv.deviceWrites (h : PollInv t s) {i j : Nat} {e : SensorsEvent}
    (hstep : step t s (.deviceWrites i j e) = some s') : PollInv t s' := by
  have hi := h.kept i
  rw [step] at hstep
  split at hstep
  next first bufferSize hpolling =>
    split at hstep
    next hin =>
      cases Option.some.inj hstep
      have hreserved := hi.polling first bufferSize hpolling
      have hcontents := hreserved.contents_write hin.2 e
      refine ⟨fun k => ?_, h.next, fun r maxReads hwaits => ?_, h.waits_pos, h.woken_pos⟩
      · dsimp only
        by_cases he : k = i
        · rw [he, Function.update_self]
          refine ⟨⟨hi.bounded.start_lt, hi.bounded.size_le⟩, ?_, hi.returned_eq, ?_, ?_, hi.waitsForSpace⟩
          · rw [hcontents]
            exact hi.written_eq
          · intro first' size' hw
            exact (hi.polling first' size' hw).write ..
          grind
        · rw [Function.update_of_ne he]
          exact h.kept k
      · obtain ⟨hwaiting, hempty⟩ := h.asleep r maxReads hwaits
        refine ⟨hwaiting, fun k hk => ?_⟩
        have hsize := hempty k hk
        dsimp only
        by_cases he : k = i
        · rw [he] at hsize
          rw [he, Function.update_self]
          exact hsize
        · rw [Function.update_of_ne he]
          exact hsize
    next => cases hstep
  next => cases hstep

theorem PollInv.deviceReturns (h : PollInv t s) {eventsPolled : Int}
    (hstep : step t s (.deviceReturns i eventsPolled) = some s') : PollInv t s' := by
  have hi := h.kept i
  rw [step] at hstep
  split at hstep
  next first bufferSize hpolling =>
    split at hstep
    next =>
      cases Option.some.inj hstep
      exact h.writer hi.atLock
    next =>
      split at hstep
      next hin =>
        cases Option.some.inj hstep
        refine h.writer ⟨hi.bounded, hi.written_eq, hi.returned_eq, nofun, ?_, nofun⟩
        intro first' size' count hpolled
        obtain ⟨hfirst, hsize, hcount⟩ := WriterTask.polled.inj hpolled
        rw [← hfirst, ← hsize, ← hcount]
        exact ⟨hi.polling first bufferSize hpolling, hin.2⟩
      next => cases hstep
  next => cases hstep

theorem broadcast_pollers (s : PollContext) (r : Nat) (maxReads : Nat) :
    s.broadcast.pollers r ≠ .waits maxReads := by
  grind [broadcast]

theorem woken_of_broadcast {r maxReads : Nat} (h : s.broadcast.pollers r = .woken maxReads) :
    s.pollers r = .waits maxReads ∨ s.pollers r = .woken maxReads := by
  unfold broadcast at h
  grind

theorem PollInv.writerMarks (h : PollInv t s) (hstep : step t s (.writerMarks i) = some s') :
    PollInv t s' := by
  have hi := h.kept i
  rw [step] at hstep
  split at hstep
  next first bufferSize eventsPolled hpolled =>
    obtain ⟨hreserved, hle⟩ := hi.polled first bufferSize eventsPolled hpolled
    have hcontents := hreserved.contents_markAsWritten hle
    have hbounded := hreserved.bounded_markAsWritten hi.bounded hle
    generalize hevents : ((List.range eventsPolled).map fun j => (s.queues i).mData (first + j)) = events
      at hcontents hstep
    dsimp only at hstep
    have hkept : Kept t { s with
        queues := Function.update s.queues i ((s.queues i).markAsWritten eventsPolled)
        written := Function.update s.written i (s.written i ++ events)
        writers := Function.update s.writers i .atLock } [] := by
      intro k
      dsimp only
      by_cases he : k = i
      · rw [he, Function.update_self, Function.update_self, Function.update_self]
        refine ⟨hbounded, ?_, hi.returned_eq, nofun, nofun, nofun⟩
        rw [hcontents, ← List.append_assoc, ← hi.written_eq]
      · rw [Function.update_of_ne he, Function.update_of_ne he, Function.update_of_ne he]
        exact h.kept k
    by_cases hwaiting : s.waitingForData
    · rw [if_pos hwaiting] at hstep
      cases Option.some.inj hstep
      refine ⟨hkept, h.next, fun r n hr => absurd hr (broadcast_pollers _ r n),
        fun r n hr => absurd hr (broadcast_pollers _ r n), fun r n hr => ?_⟩
      rcases woken_of_broadcast hr with hw | hw
      · exact h.waits_pos r n hw
      · exact h.woken_pos r n hw
    · rw [if_neg hwaiting] at hstep
      cases Option.some.inj hstep
      exact ⟨hkept, h.next, fun r n hr => absurd (h.asleep r n hr).1 hwaiting, h.waits_pos, h.woken_pos⟩
  next => cases hstep

theorem PollInv.pollLocked (hkept : Kept t s []) (hnext : 0 < s.queueCount → s.nextReadIndex < s.queueCount)
    {r maxReads : Nat} (hpos : 0 < maxReads)
    (hasleep : ∀ r' n, r' ≠ r → s.pollers r' = .waits n → AllEmpty s)
    (hwaits : ∀ r' n, r' ≠ r → s.pollers r' = .waits n → 0 < n)
    (hwoken : ∀ r' n, r' ≠ r → s.pollers r' = .woken n → 0 < n) : PollInv t (s.pollLocked t r maxReads) := by
  have hscanned := @scanned_scanAll t s maxReads hkept hnext
  have hexit := @scanAll_exit t s maxReads hnext
  have hcount := hscanned.queueCount
  unfold PollContext.pollLocked
  dsimp only
  split
  next hnone =>
    have hempty : AllEmpty (scanAll t s maxReads).1 := by
      rcases hexit with hfull | hempty
      · grind
      · exact hempty
    have hkept' : Kept t (scanAll t s maxReads).1 [] := hnone ▸ hscanned.kept
    refine ⟨hkept', ?_, fun _ _ _ => ⟨rfl, hempty⟩, ?_, ?_⟩
    · dsimp only
      rw [hcount]
      exact hscanned.next
    · intro r' n hr'
      by_cases he : r' = r
      · grind
      · have hother := (Function.update_of_ne he ..).symm.trans hr'
        rw [hscanned.pollers] at hother
        exact hwaits r' n he hother
    · intro r' n hr'
      by_cases he : r' = r
      · grind
      · have hother := (Function.update_of_ne he ..).symm.trans hr'
        rw [hscanned.pollers] at hother
        exact hwoken r' n he hother
  next hsome =>
    have hnobody : ∀ r' n, r' ≠ r → s.pollers r' ≠ .waits n := by
      intro r' n he hr'
      exact hsome (@scan_allEmpty t maxReads s.scanFuel s 0 [] (hasleep r' n he hr') hnext)
    have hno : ∀ r' n, (Function.update (scanAll t s maxReads).1.pollers r .idle) r' ≠ .waits n := by
      intro r' n hr'
      by_cases he : r' = r
      · grind
      · have hother := (Function.update_of_ne he ..).symm.trans hr'
        rw [hscanned.pollers] at hother
        exact hnobody r' n he hother
    refine ⟨fun i => ?_, ?_, fun r' n hr' => absurd hr' (hno r' n), fun r' n hr' => absurd hr' (hno r' n), ?_⟩
    · have hi := hscanned.kept i
      grind
    · dsimp only
      rw [hcount]
      exact hscanned.next
    · intro r' n hr'
      by_cases he : r' = r
      · grind
      · have hother := (Function.update_of_ne he ..).symm.trans hr'
        rw [hscanned.pollers] at hother
        exact hwoken r' n he hother

theorem PollInv.poll (h : PollInv t s) {r maxReads : Nat} (hstep : step t s (.poll r maxReads) = some s') :
    PollInv t s' := by
  rw [step] at hstep
  split at hstep
  next hin =>
    cases Option.some.inj hstep
    exact PollInv.pollLocked h.kept h.next hin.2 (fun r' n _ hr' => (h.asleep r' n hr').2)
      (fun r' n _ => h.waits_pos r' n) fun r' n _ => h.woken_pos r' n
  next => cases hstep

theorem PollInv.pollResumes (h : PollInv t s) {r : Nat} (hstep : step t s (.pollResumes r) = some s') :
    PollInv t s' := by
  rw [step] at hstep
  split at hstep
  next maxReads hwoken =>
    cases Option.some.inj hstep
    exact @PollInv.pollLocked t { s with waitingForData := false } h.kept h.next r maxReads
      (h.woken_pos r maxReads hwoken) (fun r' n _ hr' => (h.asleep r' n hr').2)
      (fun r' n _ => h.waits_pos r' n) fun r' n _ => h.woken_pos r' n
  next => cases hstep

theorem PollInv.pollWakes (h : PollInv t s) {r : Nat} (hstep : step t s (.pollWakes r) = some s') :
    PollInv t s' := by
  rw [step] at hstep
  split at hstep
  next maxReads hwaits =>
    cases Option.some.inj hstep
    have hother : ∀ r' n, (Function.update s.pollers r (.woken maxReads)) r' = .waits n → s.pollers r' = .waits n := by
      intro r' n hr'
      by_cases he : r' = r
      · grind
      · exact (Function.update_of_ne he ..).symm.trans hr'
    refine ⟨h.kept, h.next, fun r' n hr' => h.asleep r' n (hother r' n hr'),
      fun r' n hr' => h.waits_pos r' n (hother r' n hr'), fun r' n hr' => ?_⟩
    by_cases he : r' = r
    · rw [he] at hr'
      have hself := (Function.update_self ..).symm.trans hr'
      cases Poller.woken.inj hself
      exact h.waits_pos r maxReads hwaits
    · exact h.woken_pos r' n ((Function.update_of_ne he ..).symm.trans hr')
  next => cases hstep

theorem PollInv.step (h : PollInv t s) (op : PollOp) (hstep : step t s op = some s') : PollInv t s' := by
  cases op with
  | writerLocks i => exact h.writerLocks hstep
  | deviceWrites i j e => exact h.deviceWrites hstep
  | deviceReturns i eventsPolled => exact h.deviceReturns hstep
  | writerMarks i => exact h.writerMarks hstep
  | writerWakes i =>
    rw [PollContext.step] at hstep
    split at hstep
    next =>
      cases Option.some.inj hstep
      exact h.writer (h.kept i).atLock
    next => cases hstep
  | poll r maxReads => exact h.poll hstep
  | pollResumes r => exact h.pollResumes hstep
  | pollWakes r => exact h.pollWakes hstep

/-- Each queue within its array, what was written either read or unread in the order written, what was
read returned by one call each, regions apart from the unread events, and sleepers with nothing to do.
A call takes as many events as it asks for or leaves all queues empty. -/
structure QueuesRight (t : HandleTable) (s : PollContext) : Prop where
  size_le : ∀ i, (s.queues i).mSize ≤ (s.queues i).mCapacity
  written_eq : ∀ i, s.written i = s.read i ++ (s.queues i).contents
  returned_eq : ∀ i, eventsOf i s.returned.flatten = (s.read i).filterMap (deliver t i)
  region : ∀ i first bufferSize, s.writers i = .polling first bufferSize →
    0 < bufferSize ∧ first + bufferSize ≤ (s.queues i).mCapacity
  apart : ∀ i first bufferSize, (s.writers i = .polling first bufferSize ∨
    ∃ eventsPolled, s.writers i = .polled first bufferSize eventsPolled) →
    ∀ j < bufferSize, ∀ k < (s.queues i).mSize, (s.queues i).unreadIndex k ≠ first + j
  pollWaits : ∀ r maxReads, s.pollers r = .waits maxReads → AllEmpty s
  writerWaits : ∀ i, s.writers i = .waitsForSpace → (s.queues i).mSize = (s.queues i).mCapacity
  takes : ∀ r maxReads, 0 < maxReads → AllEmpty (s.pollLocked t r maxReads) ∨
    ∃ data, data.length = maxReads ∧ (s.pollLocked t r maxReads).returned = s.returned ++ [data]

theorem PollInv.queuesRight (h : PollInv t s) : QueuesRight t s := by
  refine ⟨fun i => (h.kept i).bounded.size_le, fun i => (h.kept i).written_eq, fun i => ?_, ?_, ?_,
    fun r n hr => (h.asleep r n hr).2, fun i => (h.kept i).waitsForSpace, ?_⟩
  · have hreturned := (h.kept i).returned_eq
    rw [List.append_nil] at hreturned
    exact hreturned
  · intro i first bufferSize hpolling
    have hreserved := (h.kept i).polling first bufferSize hpolling
    exact ⟨hreserved.pos, hreserved.inside⟩
  · rintro i first bufferSize (hpolling | ⟨eventsPolled, hpolled⟩) j hj k hk
    · exact ((h.kept i).polling first bufferSize hpolling).disjoint hj hk
    · exact ((h.kept i).polled first bufferSize eventsPolled hpolled).1.disjoint hj hk
  · intro r maxReads hpos
    have hscanned := @scanned_scanAll t s maxReads h.kept h.next
    have hle : (scanAll t s maxReads).2.length ≤ maxReads := scan_length_le _ (Nat.zero_le _)
    unfold PollContext.pollLocked
    dsimp only
    rcases @scanAll_exit t s maxReads h.next with hfull | hempty
    · right
      refine ⟨(scanAll t s maxReads).2, by omega, ?_⟩
      have hsome : (scanAll t s maxReads).2 ≠ [] := by
        intro hnone
        rw [hnone] at hfull
        change maxReads ≤ 0 at hfull
        omega
      rw [if_neg hsome, ← hscanned.returned]
    · left
      split
      next => exact hempty
      next => exact hempty

/-- An event of a sensor of the module. A meta-data event has no sensor of its own. -/
def Known (subHwModules : List SubModule) (moduleIndex : Nat) (e : SensorsEvent) : Prop :=
  e.names ∈ sensorsOf subHwModules moduleIndex ∧ ∀ what sensor, e.body = .metaData what sensor → e.sensor = 0

/-- Every known event that was read from the queue of a device has been passed on with another handle
and no other change. -/
def Delivered (subHwModules : List SubModule) (s : PollContext) : Prop :=
  ∀ place dev, (multihal subHwModules).subHwDevices[place]? = some dev → ∀ e ∈ s.read place,
    Known subHwModules dev.module e → ∃ handle, deliver (multihal subHwModules).table place e = some (e.rename handle)

/-- The sensors of the data events are also sensors of the module that is numbered by the place of the
device. -/
def PlacesKnow (subHwModules : List SubModule) (s : PollContext) : Prop :=
  ∀ place dev, (multihal subHwModules).subHwDevices[place]? = some dev → ∀ e ∈ s.read place,
    ∀ type payload, e.body = .data type payload → e.sensor ∈ sensorsOf subHwModules dev.module →
      e.sensor ∈ sensorsOf subHwModules place

variable {subHwModules : List SubModule}

theorem deliver_rename_iff {place moduleIndex : Nat} {e : SensorsEvent} (hknown : Known subHwModules moduleIndex e) :
    (∃ handle, deliver (multihal subHwModules).table place e = some (e.rename handle)) ↔
      ∀ type payload, e.body = .data type payload → e.sensor ∈ sensorsOf subHwModules place := by
  obtain ⟨own, timestamp, body⟩ := e
  cases body with
  | data type payload =>
    have hunknown := @Multihal.getGlobalHandle_eq_neg_one_iff subHwModules ⟨place, own⟩
    constructor
    · rintro ⟨handle, hdeliver⟩ _ _ _
      by_contra hno
      change (if (multihal subHwModules).table.getGlobalHandle ⟨place, own⟩ = -1 then none else _) = _ at hdeliver
      rw [if_pos (hunknown.mpr hno)] at hdeliver
      cases hdeliver
    · intro hin
      refine ⟨(multihal subHwModules).table.getGlobalHandle ⟨place, own⟩, ?_⟩
      change (if (multihal subHwModules).table.getGlobalHandle ⟨place, own⟩ = -1 then none else _) = _
      rw [if_neg fun hno => hunknown.mp hno (hin type payload rfl)]
      rfl
  | metaData what sensor =>
    refine ⟨fun _ _ _ hbody => (nomatch hbody), fun _ => ?_⟩
    refine ⟨(multihal subHwModules).table.getGlobalHandle ⟨place, sensor⟩, ?_⟩
    have hown : own = 0 := hknown.2 what sensor rfl
    change (if own = -1 then none else _) = _
    rw [if_neg (by omega)]
    rfl

theorem delivered_iff (s : PollContext) : Delivered subHwModules s ↔ PlacesKnow subHwModules s := by
  constructor
  · intro h place dev hdev e he type payload hbody hin
    have hknown : Known subHwModules dev.module e := by
      refine ⟨?_, fun what sensor hmeta => nomatch hbody.symm.trans hmeta⟩
      unfold SensorsEvent.names
      rw [hbody]
      exact hin
    exact (deliver_rename_iff hknown).mp (h place dev hdev e he hknown) type payload hbody
  · intro h place dev hdev e he hknown
    refine (deliver_rename_iff hknown).mpr fun type payload hbody => h place dev hdev e he type payload hbody ?_
    have hnames := hknown.1
    unfold SensorsEvent.names at hnames
    rw [hbody] at hnames
    exact hnames

/-- The queues and the sleepers are right in every state. The known events are delivered exactly where
the places of the devices know their sensors. -/
theorem queuesRight_delivered_iff (subHwModules : List SubModule) (garbage : Nat → Nat → SensorsEvent)
    (ops : List PollOp) :
    Always (step (multihal subHwModules).table)
      (fun s => QueuesRight (multihal subHwModules).table s ∧
        (Delivered subHwModules s ↔ PlacesKnow subHwModules s))
      (initial (multihal subHwModules).subHwDevices.length garbage) ops := by
  refine @always_invariant _ _ _ (fun _ _ => True) (PollInv (multihal subHwModules).table) _
    (fun s h => ⟨h.queuesRight, delivered_iff s⟩) (fun s op s' h _ hstep => h.step op hstep) _ _
    (pollInv_initial _ _ garbage) (opsMeet_true _ _)

/-- The first module does not open. An event of the second is written and read. -/
def closedBefore : List SubModule := [⟨[3], by decide, none⟩, ⟨[2], by decide, some apiVersion13⟩]

def oneEvent : List PollOp :=
  [.writerLocks 0, .deviceWrites 0 0 ⟨2, 0, .data 1 7⟩, .deviceReturns 0 1, .writerMarks 0, .poll 0 1]

/-- `poll` drops the event. -/
theorem closedBefore_dropped :
    ¬Always (step (multihal closedBefore).table) (Delivered closedBefore)
      (initial (multihal closedBefore).subHwDevices.length fun _ _ => ⟨0, 0, .data 0 0⟩) oneEvent := by
  intro h
  have hrun : ∃ s, runOps (step (multihal closedBefore).table)
      (initial (multihal closedBefore).subHwDevices.length fun _ _ => ⟨0, 0, .data 0 0⟩) oneEvent = some s ∧
        s.read 0 = [⟨2, 0, .data 1 7⟩] := ⟨_, rfl, by decide⟩
  obtain ⟨s, hs, hread⟩ := hrun
  have hlast := h.last hs
  obtain ⟨handle, hdeliver⟩ := hlast 0 ⟨1, apiVersion13⟩ rfl ⟨2, 0, .data 1 7⟩ (by rw [hread]; exact List.mem_cons_self)
    ⟨by decide, nofun⟩
  have hnone : deliver (multihal closedBefore).table 0 ⟨2, 0, .data 1 7⟩ = none := by decide
  rw [hnone] at hdeliver
  cases hdeliver

/-- While a caller of `poll` sleeps, no writer sleeps, and the first one to mark its events wakes all
callers. -/
def WakesSleepers (t : HandleTable) (s : PollContext) : Prop :=
  ∀ r maxReads, s.pollers r = .waits maxReads →
    (∀ i < s.queueCount, s.writers i ≠ .waitsForSpace) ∧
      ∀ i s', step t s (.writerMarks i) = some s' → ∀ r' n, s'.pollers r' ≠ .waits n

theorem PollInv.wakesSleepers (h : PollInv t s) : WakesSleepers t s := by
  intro r maxReads hwaits
  obtain ⟨hwaiting, hempty⟩ := h.asleep r maxReads hwaits
  refine ⟨fun i hi hfull => ?_, fun i s' hstep r' n => ?_⟩
  · have hroom := (h.kept i).bounded.start_lt
    have hsize := (h.kept i).waitsForSpace hfull
    have hnone := hempty i hi
    omega
  · rw [PollContext.step] at hstep
    split at hstep
    next =>
      cases Option.some.inj hstep
      rw [if_pos hwaiting]
      exact broadcast_pollers _ r' n
    next => cases hstep

/-- Readers and writers never all sleep. -/
theorem wakesSleepers_always (t : HandleTable) (queueCount : Nat)
    (garbage : Nat → Nat → SensorsEvent) (ops : List PollOp) :
    Always (step t) (WakesSleepers t) (initial queueCount garbage) ops :=
  @always_invariant _ _ _ (fun _ _ => True) (PollInv t) _ (fun _ h => h.wakesSleepers)
    (fun _ op _ h _ hstep => h.step op hstep) _ _ (pollInv_initial t queueCount garbage)
    (opsMeet_true _ _)

end PollContext

end DeviceHal.Sensors
