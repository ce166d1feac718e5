import Mathlib.Data.Nat.ModEq
import DeviceHal.Sensors.Multihal
import DeviceHal.Lib.Run

namespace DeviceHal.Sensors

universe u

/-- The fixed-size circular queue of one sub-HAL. `mData` is the array, by its indices. -/
structure SensorEventQueue (α : Type u) where
  mCapacity : Nat
  mStart : Nat
  mSize : Nat
  mData : Nat → α

namespace SensorEventQueue

variable {α : Type u}

def new (capacity : Nat) (garbage : Nat → α) : SensorEventQueue α := ⟨capacity, 0, 0, garbage⟩

/-- The first index and the length of the region to write to. -/
def getWritableRegion (q : SensorEventQueue α) (requestedLength : Nat) : Nat × Nat :=
  if q.mSize = q.mCapacity ∨ requestedLength = 0 then (0, 0)
  else
    let firstWritable := (q.mStart + q.mSize) % q.mCapacity
    let lastWritable := firstWritable + requestedLength - 1
    let lastWritable := if lastWritable > q.mCapacity - 1 then q.mCapacity - 1 else lastWritable
    let lastWritable := if firstWritable < q.mStart ∧ lastWritable ≥ q.mStart then q.mStart - 1 else lastWritable
    (firstWritable, lastWritable - firstWritable + 1)

def markAsWritten (q : SensorEventQueue α) (count : Nat) : SensorEventQueue α :=
  { q with mSize := q.mSize + count }

def peek (q : SensorEventQueue α) : Option α := if q.mSize = 0 then none else some (q.mData q.mStart)

def dequeue (q : SensorEventQueue α) : SensorEventQueue α :=
  if q.mSize = 0 then q
  else { q with mSize := q.mSize - 1, mStart := (q.mStart + 1) % q.mCapacity }

def write (q : SensorEventQueue α) (index : Nat) (e : α) : SensorEventQueue α :=
  { q with mData := Function.update q.mData index e }

/-- The index of the unread event with a number of others before it. -/
def unreadIndex (q : SensorEventQueue α) (k : Nat) : Nat := (q.mStart + k) % q.mCapacity

def contents (q : SensorEventQueue α) : List α := (List.range q.mSize).map fun k => q.mData (q.unreadIndex k)

structure Bounded (q : SensorEventQueue α) : Prop where
  start_lt : q.mStart < q.mCapacity
  size_le : q.mSize ≤ q.mCapacity

/-- A region behind the unread events that has been handed out and not yet been marked. -/
structure Reserved (q : SensorEventQueue α) (first length : Nat) : Prop where
  first_eq : first = (q.mStart + q.mSize) % q.mCapacity
  pos : 0 < length
  inside : first + length ≤ q.mCapacity
  room : q.mSize + length ≤ q.mCapacity

variable {q : SensorEventQueue α} {first length : Nat}

theorem new_bounded {capacity : Nat} (h : 0 < capacity) (garbage : Nat → α) : (new capacity garbage).Bounded :=
  ⟨h, Nat.zero_le _⟩

theorem peek_eq_none_iff : q.peek = none ↔ q.mSize = 0 := by
  simp [peek]

theorem Bounded.dequeue (h : q.Bounded) : q.dequeue.Bounded := by
  have hstart := h.start_lt
  have hsize := h.size_le
  unfold SensorEventQueue.dequeue
  split
  next => exact h
  next =>
    refine ⟨Nat.mod_lt _ (by omega), ?_⟩
    change q.mSize - 1 ≤ q.mCapacity
    omega

theorem Bounded.contents_dequeue (h : q.Bounded) {e : α} (hpeek : q.peek = some e) :
    q.contents = e :: q.dequeue.contents := by
  have hstart := h.start_lt
  unfold peek at hpeek
  split at hpeek
  next => cases hpeek
  next hne =>
    have hdata : q.mData q.mStart = e := Option.some.inj hpeek
    obtain ⟨n, hn⟩ := Nat.exists_eq_succ_of_ne_zero hne
    have hdequeue : q.dequeue = { q with mSize := n, mStart := (q.mStart + 1) % q.mCapacity } := by
      unfold SensorEventQueue.dequeue
      rw [if_neg hne]
      congr 1
      omega
    unfold contents
    rw [hn, hdequeue, List.range_succ_eq_map, List.map_cons, List.map_map]
    congr 1
    · unfold unreadIndex
      rw [Nat.add_zero, Nat.mod_eq_of_lt hstart, hdata]
    · refine List.map_congr_left fun k _ => ?_
      have hindex : (q.mStart + (k + 1)) % q.mCapacity = ((q.mStart + 1) % q.mCapacity + k) % q.mCapacity := by
        rw [Nat.mod_add_mod]
        congr 1
        omega
      exact congrArg q.mData hindex

theorem reserved_getWritableRegion (h : q.Bounded) (hroom : q.mSize ≠ q.mCapacity) {requestedLength : Nat}
    (hreq : requestedLength ≠ 0) :
    q.Reserved (q.getWritableRegion requestedLength).1 (q.getWritableRegion requestedLength).2 := by
  have hstart := h.start_lt
  have hsize := h.size_le
  have hlt : (q.mStart + q.mSize) % q.mCapacity < q.mCapacity := Nat.mod_lt _ (by omega)
  have hwrap : (q.mStart + q.mSize) % q.mCapacity =
      if q.mStart + q.mSize < q.mCapacity then q.mStart + q.mSize else q.mStart + q.mSize - q.mCapacity := by
    split
    next hin => exact Nat.mod_eq_of_lt hin
    next hout =>
      rw [Nat.mod_eq_sub_mod (by omega)]
      exact Nat.mod_eq_of_lt (by omega)
  unfold getWritableRegion
  rw [if_neg (by omega)]
  dsimp only
  generalize hfirst : (q.mStart + q.mSize) % q.mCapacity = firstWritable at hlt hwrap ⊢
  refine ⟨hfirst.symm, ?_, ?_, ?_⟩
  · omega
  · split <;> split <;> split at hwrap <;> omega
  · split <;> split <;> split at hwrap <;> omega

theorem Reserved.disjoint (h : q.Reserved first length) {j k : Nat} (hj : j < length) (hk : k < q.mSize) :
    q.unreadIndex k ≠ first + j := by
  have hroom := h.room
  have hinside := h.inside
  have hindex : (q.mStart + (q.mSize + j)) % q.mCapacity = first + j := by
    have hlt : first + j < q.mCapacity := by omega
    rw [← Nat.add_assoc, Nat.add_mod, ← h.first_eq, Nat.mod_eq_of_lt (by omega : j < q.mCapacity)]
    exact Nat.mod_eq_of_lt hlt
  intro he
  unfold unreadIndex at he
  rw [← hindex] at he
  have hmod : k % q.mCapacity = (q.mSize + j) % q.mCapacity := Nat.ModEq.add_left_cancel' q.mStart he
  rw [Nat.mod_eq_of_lt (by omega), Nat.mod_eq_of_lt (by omega)] at hmod
  omega

theorem Reserved.dequeue (h : q.Reserved first length) : q.dequeue.Reserved first length := by
  have hroom := h.room
  have hpos := h.pos
  unfold SensorEventQueue.dequeue
  split
  next => exact h
  next hne =>
    refine ⟨?_, hpos, h.inside, ?_⟩
    · change first = ((q.mStart + 1) % q.mCapacity + (q.mSize - 1)) % q.mCapacity
      rw [h.first_eq, Nat.mod_add_mod]
      congr 1
      omega
    · change q.mSize - 1 + length ≤ q.mCapacity
      omega

theorem Reserved.contents_write (h : q.Reserved first length) {j : Nat} (hj : j < length) (e : α) :
    (q.write (first + j) e).contents = q.contents := by
  refine List.map_congr_left fun k hk => ?_
  exact Function.update_of_ne (h.disjoint hj (List.mem_range.mp hk)) ..

theorem Reserved.write (h : q.Reserved first length) (index : Nat) (e : α) :
    (q.write index e).Reserved first length := ⟨h.first_eq, h.pos, h.inside, h.room⟩

theorem Reserved.contents_markAsWritten (h : q.Reserved first length) {count : Nat} (hcount : count ≤ length) :
    (q.markAsWritten count).contents = q.contents ++ (List.range count).map fun j => q.mData (first + j) := by
  have hinside := h.inside
  unfold contents markAsWritten
  dsimp only
  rw [List.range_add, List.map_append, List.map_map]
  congr 1
  refine List.map_congr_left fun j hj => ?_
  have hlt : j < count := List.mem_range.mp hj
  have hindex : (q.mStart + (q.mSize + j)) % q.mCapacity = first + j := by
    rw [← Nat.add_assoc, Nat.add_mod, ← h.first_eq, Nat.mod_eq_of_lt (by omega : j < q.mCapacity)]
    exact Nat.mod_eq_of_lt (by omega)
  exact congrArg q.mData hindex

theorem Reserved.bounded_markAsWritten (h : q.Reserved first length) (hq : q.Bounded) {count : Nat}
    (hcount : count ≤ length) : (q.markAsWritten count).Bounded := by
  have hroom := h.room
  refine ⟨hq.start_lt, ?_⟩
  change q.mSize + count ≤ q.mCapacity
  omega

end SensorEventQueue

open Lib

def sensorEventQueueCapacity : Nat := 36

/-- Where a `writerTask` is: before the lock, asleep on `mSpaceAvailableCondition`, in the `poll` of its
device with a region to write to, or behind it with a number of events polled. -/
inductive WriterTask where
  | atLock
  | waitsForSpace
  | polling (first bufferSize : Nat)
  | polled (first bufferSize eventsPolled : Nat)
deriving DecidableEq

/-- Where a caller of `poll` is; asleep on `data_available_cond`, or woken and behind the lock. -/
inductive Poller where
  | idle
  | waits (maxReads : Nat)
  | woken (maxReads : Nat)
deriving DecidableEq

structure PollContext where
  /-- `queues.size()`. -/
  queueCount : Nat
  queues : Nat → SensorEventQueue SensorsEvent
  nextReadIndex : Nat := 0
  waitingForData : Bool := false
  writers : Nat → WriterTask := fun _ => .atLock
  pollers : Nat → Poller := fun _ => .idle
  /-- What has been marked as written to a queue, and what has been read from it. -/
  written : Nat → List SensorsEvent := fun _ => []
  read : Nat → List SensorsEvent := fun _ => []
  /-- What the calls of `poll` have returned, each event with the index of its queue. -/
  returned : List (List (Nat × SensorsEvent)) := []

namespace PollContext

def initial (queueCount : Nat) (garbage : Nat → Nat → SensorsEvent) : PollContext where
  queueCount := queueCount
  queues := fun i => .new sensorEventQueueCapacity (garbage i)

/-- `dequeue` of a queue. It wakes a writer that waits for space if the queue was full. -/
def dequeue (s : PollContext) (i : Nat) (event : SensorsEvent) : PollContext :=
  { s with
    queues := Function.update s.queues i (s.queues i).dequeue
    read := Function.update s.read i (s.read i ++ [event])
    writers :=
      if (s.queues i).mSize = (s.queues i).mCapacity ∧ s.writers i = .waitsForSpace then
        Function.update s.writers i .atLock
      else s.writers }

/-- The inner loop of `poll` with the events read so far. -/
def scan (t : HandleTable) (maxReads : Nat) :
    Nat → PollContext → Nat → List (Nat × SensorsEvent) → PollContext × List (Nat × SensorsEvent)
  | 0, s, _, data => (s, data)
  | fuel + 1, s, empties, data =>
    if empties < s.queueCount ∧ data.length < maxReads then
      let i := s.nextReadIndex
      let moved := { s with nextReadIndex := (i + 1) % s.queueCount }
      match (s.queues i).peek with
      | none => scan t maxReads fuel moved (empties + 1) data
      | some event =>
        let data := match deliver t i event with
          | some e => data ++ [(i, e)]
          | none => data
        scan t maxReads fuel (moved.dequeue i event) 0 data
    else (s, data)

def unread (s : PollContext) : Nat := ((List.range s.queueCount).map fun i => (s.queues i).mSize).sum

def scanFuel (s : PollContext) : Nat := s.unread * (s.queueCount + 1) + s.queueCount + 1

def scanAll (t : HandleTable) (s : PollContext) (maxReads : Nat) : PollContext × List (Nat × SensorsEvent) :=
  scan t maxReads s.scanFuel s 0 []

/-- What `poll` does with the lock in its hands: it returns events, or goes to sleep if there are none. -/
def pollLocked (t : HandleTable) (s : PollContext) (r maxReads : Nat) : PollContext :=
  let scanned := scanAll t s maxReads
  if scanned.2 = [] then
    { scanned.1 with waitingForData := true, pollers := Function.update scanned.1.pollers r (.waits maxReads) }
  else
    { scanned.1 with
      pollers := Function.update scanned.1.pollers r .idle, returned := scanned.1.returned ++ [scanned.2] }

/-- `pthread_cond_broadcast` of `data_available_cond`. -/
def broadcast (s : PollContext) : PollContext :=
  { s with pollers := fun r =>
      match s.pollers r with
      | .waits maxReads => .woken maxReads
      | .woken maxReads => .woken maxReads
      | .idle => .idle }

end PollContext

/-- The steps of the threads. What holds the lock is one step; the device of a writer writes to its region
at any time until it returns. A thread may also wake up without a signal. -/
inductive PollOp where
  | writerLocks (i : Nat)
  | deviceWrites (i j : Nat) (e : SensorsEvent)
  | deviceReturns (i : Nat) (eventsPolled : Int)
  | writerMarks (i : Nat)
  | writerWakes (i : Nat)
  | poll (r maxReads : Nat)
  | pollResumes (r : Nat)
  | pollWakes (r : Nat)

namespace PollContext

/-- `none` is a step that the thread cannot make now. -/
def step (t : HandleTable) (s : PollContext) : PollOp → Option PollContext
  | .writerLocks i =>
    if i < s.queueCount ∧ s.writers i = .atLock then
      if (s.queues i).mSize = (s.queues i).mCapacity then
        some { s with writers := Function.update s.writers i .waitsForSpace }
      else
        let region := (s.queues i).getWritableRegion sensorEventQueueCapacity
        some { s with writers := Function.update s.writers i (.polling region.1 region.2) }
    else none
  | .deviceWrites i j e =>
    match s.writers i with
    | .polling first bufferSize =>
      if i < s.queueCount ∧ j < bufferSize then
        some { s with queues := Function.update s.queues i ((s.queues i).write (first + j) e) }
      else none
    | _ => none
  | .deviceReturns i eventsPolled =>
    match s.writers i with
    | .polling first bufferSize =>
      if eventsPolled ≤ 0 then some { s with writers := Function.update s.writers i .atLock }
      else if i < s.queueCount ∧ eventsPolled.toNat ≤ bufferSize then
        some { s with writers := Function.update s.writers i (.polled first bufferSize eventsPolled.toNat) }
      else none
    | _ => none
  | .writerMarks i =>
    match s.writers i with
    | .polled first _ eventsPolled =>
      let events := (List.range eventsPolled).map fun j => (s.queues i).mData (first + j)
      let marked := { s with
        queues := Function.update s.queues i ((s.queues i).markAsWritten eventsPolled)
        written := Function.update s.written i (s.written i ++ events)
        writers := Function.update s.writers i .atLock }
      some (if s.waitingForData then marked.broadcast else marked)
    | _ => none
  | .writerWakes i =>
    if s.writers i = .waitsForSpace then some { s with writers := Function.update s.writers i .atLock } else none
  | .poll r maxReads =>
    if s.pollers r = .idle ∧ 0 < maxReads then some (s.pollLocked t r maxReads) else none
  | .pollResumes r =>
    match s.pollers r with
    | .woken maxReads => some ({ s with waitingForData := false }.pollLocked t r maxReads)
    | _ => none
  | .pollWakes r =>
    match s.pollers r with
    | .waits maxReads => some { s with pollers := Function.update s.pollers r (.woken maxReads) }
    | _ => none

end PollContext

/-- The events of one queue among those that were read from all. -/
def eventsOf (i : Nat) (data : List (Nat × SensorsEvent)) : List SensorsEvent :=
  (data.filter fun p => p.1 = i).map Prod.snd

theorem eventsOf_append (i : Nat) (data later : List (Nat × SensorsEvent)) :
    eventsOf i (data ++ later) = eventsOf i data ++ eventsOf i later := by
  unfold eventsOf
  rw [List.filter_append, List.map_append]

theorem eventsOf_self (i : Nat) (e : SensorsEvent) : eventsOf i [(i, e)] = [e] := by simp [eventsOf]

theorem eventsOf_other {i j : Nat} (h : i ≠ j) (e : SensorsEvent) : eventsOf j [(i, e)] = [] := by
  simp [eventsOf, h]

/-- One queue and its writer: what was written has been read or is unread, what was read has been
returned, and the writer has a region behind the unread events, or waits at a full queue. -/
structure QueueKept (t : HandleTable) (i : Nat) (q : SensorEventQueue SensorsEvent) (writer : WriterTask)
    (written read returned : List SensorsEvent) : Prop where
  bounded : q.Bounded
  written_eq : written = read ++ q.contents
  returned_eq : returned = read.filterMap (deliver t i)
  polling : ∀ first bufferSize, writer = .polling first bufferSize → q.Reserved first bufferSize
  polled : ∀ first bufferSize eventsPolled, writer = .polled first bufferSize eventsPolled →
    q.Reserved first bufferSize ∧ eventsPolled ≤ bufferSize
  waitsForSpace : writer = .waitsForSpace → q.mSize = q.mCapacity

namespace QueueKept

variable {t : HandleTable} {i : Nat} {q : SensorEventQueue SensorsEvent} {writer : WriterTask}
  {written read returned : List SensorsEvent}

theorem atLock (h : QueueKept t i q writer written read returned) :
    QueueKept t i q .atLock written read returned :=
  ⟨h.bounded, h.written_eq, h.returned_eq, nofun, nofun, nofun⟩

theorem dequeue (h : QueueKept t i q writer written read returned) {e : SensorsEvent} (hpeek : q.peek = some e) :
    QueueKept t i q.dequeue (if q.mSize = q.mCapacity ∧ writer = .waitsForSpace then .atLock else writer) written
      (read ++ [e]) (returned ++ (deliver t i e).toList) := by
  have hwritten : written = read ++ [e] ++ q.dequeue.contents := by
    rw [List.append_assoc, List.singleton_append, ← h.bounded.contents_dequeue hpeek]
    exact h.written_eq
  have hreturned : returned ++ (deliver t i e).toList = (read ++ [e]).filterMap (deliver t i) := by
    rw [List.filterMap_append, ← h.returned_eq]
    cases hdeliver : deliver t i e with
    | none => simp [hdeliver]
    | some e' => simp [hdeliver]
  have hkept : ∀ w, w = writer → w ≠ .waitsForSpace →
      QueueKept t i q.dequeue w written (read ++ [e]) (returned ++ (deliver t i e).toList) := by
    intro w hw hgoes
    refine ⟨h.bounded.dequeue, hwritten, hreturned, ?_, ?_, fun hwaits => absurd hwaits hgoes⟩
    · intro first bufferSize hpolling
      exact (h.polling first bufferSize (hw ▸ hpolling)).dequeue
    · intro first bufferSize eventsPolled hpolled
      obtain ⟨hreserved, hle⟩ := h.polled first bufferSize eventsPolled (hw ▸ hpolled)
      exact ⟨hreserved.dequeue, hle⟩
  split
  next => exact ⟨h.bounded.dequeue, hwritten, hreturned, nofun, nofun, nofun⟩
  next hno => exact hkept writer rfl fun hwaits => hno ⟨h.waitsForSpace hwaits, hwaits⟩

end QueueKept

namespace PollContext

variable {t : HandleTable} {s : PollContext} {data : List (Nat × SensorsEvent)} {maxReads fuel : Nat}

/-- All queues, where `data` has been read and not yet been returned. -/
def Kept (t : HandleTable) (s : PollContext) (data : List (Nat × SensorsEvent)) : Prop :=
  ∀ i, QueueKept t i (s.queues i) (s.writers i) (s.written i) (s.read i) (eventsOf i (s.returned.flatten ++ data))

/-- What was made of an event read from a queue. -/
def remapped (t : HandleTable) (i : Nat) (event : SensorsEvent) : List (Nat × SensorsEvent) :=
  match deliver t i event with
  | some e => [(i, e)]
  | none => []

theorem eventsOf_remapped (i : Nat) (event : SensorsEvent) :
    eventsOf i (remapped t i event) = (deliver t i event).toList := by
  unfold remapped
  cases deliver t i event with
  | none => rfl
  | some e => exact eventsOf_self i e

theorem eventsOf_remapped_other {i j : Nat} (h : i ≠ j) (event : SensorsEvent) :
    eventsOf j (remapped t i event) = [] := by
  unfold remapped
  cases deliver t i event with
  | none => rfl
  | some e => exact eventsOf_other h e

variable {empties : Nat}

theorem scan_read (hturn : empties < s.queueCount ∧ data.length < maxReads) {event : SensorsEvent}
    (hpeek : (s.queues s.nextReadIndex).peek = some event) :
    scan t maxReads (fuel + 1) s empties data =
      scan t maxReads fuel ({ s with nextReadIndex := (s.nextReadIndex + 1) % s.queueCount }.dequeue
        s.nextReadIndex event) 0 (data ++ remapped t s.nextReadIndex event) := by
  rw [scan, if_pos hturn]
  unfold remapped
  grind

theorem scan_skip (hturn : empties < s.queueCount ∧ data.length < maxReads)
    (hpeek : (s.queues s.nextReadIndex).peek = none) :
    scan t maxReads (fuel + 1) s empties data =
      scan t maxReads fuel { s with nextReadIndex := (s.nextReadIndex + 1) % s.queueCount } (empties + 1) data := by
  rw [scan, if_pos hturn]
  dsimp only
  rw [hpeek]

theorem scan_stop (hturn : ¬(empties < s.queueCount ∧ data.length < maxReads)) :
    scan t maxReads (fuel + 1) s empties data = (s, data) := by
  rw [scan, if_neg hturn]

theorem Kept.dequeue (h : Kept t s data) {i : Nat} {event : SensorsEvent}
    (hpeek : (s.queues i).peek = some event) : Kept t (s.dequeue i event) (data ++ remapped t i event) := by
  intro j
  have hj := h j
  by_cases he : i = j
  · subst he
    have hkept := hj.dequeue hpeek
    rw [← eventsOf_remapped, ← eventsOf_append, List.append_assoc] at hkept
    have hwriters : (s.dequeue i event).writers i =
        if (s.queues i).mSize = (s.queues i).mCapacity ∧ s.writers i = .waitsForSpace then .atLock
        else s.writers i := by
      unfold PollContext.dequeue
      dsimp only
      split
      next => exact Function.update_self ..
      next => rfl
    rw [hwriters]
    unfold PollContext.dequeue
    dsimp only
    rw [Function.update_self, Function.update_self]
    exact hkept
  · have hwriters : (s.dequeue i event).writers j = s.writers j := by
      unfold PollContext.dequeue
      dsimp only
      split
      next => exact Function.update_of_ne (Ne.symm he) ..
      next => rfl
    rw [hwriters]
    simpa [PollContext.dequeue, Function.update_of_ne (Ne.symm he), ← List.append_assoc, eventsOf_append, eventsOf_remapped_other he, List.append_nil] using hj

theorem remapped_length_le (i : Nat) (event : SensorsEvent) : (remapped t i event).length ≤ 1 := by
  grind [remapped]

/-- What a scan leaves alone, and what it keeps. -/
structure Scanned (t : HandleTable) (s s' : PollContext) (data' : List (Nat × SensorsEvent)) : Prop where
  kept : Kept t s' data'
  queueCount : s'.queueCount = s.queueCount
  waitingForData : s'.waitingForData = s.waitingForData
  pollers : s'.pollers = s.pollers
  returned : s'.returned = s.returned
  written : s'.written = s.written
  next : 0 < s.queueCount → s'.nextReadIndex < s.queueCount

theorem scanned_scan (fuel : Nat) : ∀ {s : PollContext} {empties : Nat} {data : List (Nat × SensorsEvent)},
    Kept t s data → (0 < s.queueCount → s.nextReadIndex < s.queueCount) →
    Scanned t s (scan t maxReads fuel s empties data).1 (scan t maxReads fuel s empties data).2 := by
  induction fuel with
  | zero =>
    intro s empties data h hnext
    exact ⟨h, rfl, rfl, rfl, rfl, rfl, hnext⟩
  | succ fuel ih =>
    intro s empties data h hnext
    by_cases hturn : empties < s.queueCount ∧ data.length < maxReads
    · have hpos : 0 < s.queueCount := Nat.lt_of_le_of_lt (Nat.zero_le _) hturn.1
      have hlt : (s.nextReadIndex + 1) % s.queueCount < s.queueCount := Nat.mod_lt _ hpos
      have hmoved : Kept t { s with nextReadIndex := (s.nextReadIndex + 1) % s.queueCount } data := h
      cases hpeek : (s.queues s.nextReadIndex).peek with
      | none =>
        rw [scan_skip hturn hpeek]
        obtain ⟨hkept, hcount, hwaiting, hpollers, hreturned, hwritten, hnext'⟩ := ih hmoved fun _ => hlt
        exact ⟨hkept, hcount, hwaiting, hpollers, hreturned, hwritten, hnext'⟩
      | some event =>
        rw [scan_read hturn hpeek]
        obtain ⟨hkept, hcount, hwaiting, hpollers, hreturned, hwritten, hnext'⟩ :=
          ih (hmoved.dequeue hpeek) fun _ => hlt
        exact ⟨hkept, hcount, hwaiting, hpollers, hreturned, hwritten, hnext'⟩
    · rw [scan_stop hturn]
      exact ⟨h, rfl, rfl, rfl, rfl, rfl, hnext⟩

def AllEmpty (s : PollContext) : Prop := ∀ i < s.queueCount, (s.queues i).mSize = 0

theorem scan_allEmpty (fuel : Nat) : ∀ {s : PollContext} {empties : Nat} {data : List (Nat × SensorsEvent)},
    AllEmpty s → (0 < s.queueCount → s.nextReadIndex < s.queueCount) →
    (scan t maxReads fuel s empties data).2 = data := by
  induction fuel with
  | zero => exact fun _ _ => rfl
  | succ fuel ih =>
    intro s empties data hempty hnext
    by_cases hturn : empties < s.queueCount ∧ data.length < maxReads
    · have hpos : 0 < s.queueCount := Nat.lt_of_le_of_lt (Nat.zero_le _) hturn.1
      have hpeek := SensorEventQueue.peek_eq_none_iff.mpr (hempty _ (hnext hpos))
      rw [scan_skip hturn hpeek]
      exact @ih { s with nextReadIndex := (s.nextReadIndex + 1) % s.queueCount } (empties + 1) data hempty
        fun _ => Nat.mod_lt _ hpos
    · rw [scan_stop hturn]

theorem scan_length_le (fuel : Nat) : ∀ {s : PollContext} {empties : Nat} {data : List (Nat × SensorsEvent)},
    data.length ≤ maxReads → (scan t maxReads fuel s empties data).2.length ≤ maxReads := by
  induction fuel with
  | zero => exact fun h => h
  | succ fuel ih =>
    intro s empties data h
    by_cases hturn : empties < s.queueCount ∧ data.length < maxReads
    · cases hpeek : (s.queues s.nextReadIndex).peek with
      | none =>
        rw [scan_skip hturn hpeek]
        exact ih h
      | some event =>
        rw [scan_read hturn hpeek]
        have hone := @remapped_length_le t s.nextReadIndex event
        refine ih ?_
        rw [List.length_append]
        omega
    · rw [scan_stop hturn]
      exact h

theorem sum_range_update {f g : Nat → Nat} {i n : Nat} (hi : i < n) (hother : ∀ j, j ≠ i → g j = f j)
    (hself : g i + 1 = f i) : ((List.range n).map g).sum + 1 = ((List.range n).map f).sum := by
  induction n with
  | zero => omega
  | succ n ih =>
    rw [List.range_succ, List.map_append, List.map_append, List.sum_append, List.sum_append]
    have hlast : ∀ h : Nat → Nat, (([n]).map h).sum = h n := fun h => by simp
    rw [hlast, hlast]
    by_cases he : i = n
    · subst he
      have hsame : (List.range i).map g = (List.range i).map f := by
        refine List.map_congr_left fun j hj => hother j ?_
        have hlt := List.mem_range.mp hj
        omega
      rw [hsame]
      omega
    grind

theorem unread_dequeue {i : Nat} (hi : i < s.queueCount) {event : SensorsEvent}
    (hpeek : (s.queues i).peek = some event) : (s.dequeue i event).unread + 1 = s.unread := by
  have hne : (s.queues i).mSize ≠ 0 := by
    intro hzero
    rw [SensorEventQueue.peek_eq_none_iff.mpr hzero] at hpeek
    cases hpeek
  refine sum_range_update hi (fun j hj => ?_) ?_
  · exact congrArg SensorEventQueue.mSize (Function.update_of_ne hj ..)
  · have hqueue : (s.dequeue i event).queues i = (s.queues i).dequeue := Function.update_self ..
    grind [SensorEventQueue.dequeue]

/-- The queues with unread events are among those that the loop comes to before it gives up. -/
def Ahead (s : PollContext) (empties : Nat) : Prop :=
  ∀ j < s.queueCount, (s.queues j).mSize ≠ 0 → ∃ k < s.queueCount - empties, (s.nextReadIndex + k) % s.queueCount = j

theorem ahead_zero (hnext : s.nextReadIndex < s.queueCount) : s.Ahead 0 := by
  intro j hj _
  by_cases hle : s.nextReadIndex ≤ j
  · refine ⟨j - s.nextReadIndex, by omega, ?_⟩
    rw [Nat.add_sub_cancel' hle]
    exact Nat.mod_eq_of_lt hj
  · refine ⟨j + s.queueCount - s.nextReadIndex, by omega, ?_⟩
    rw [Nat.add_sub_cancel' (by omega), Nat.add_mod_right]
    exact Nat.mod_eq_of_lt hj

theorem Ahead.skip (h : s.Ahead empties) (hnext : s.nextReadIndex < s.queueCount)
    (hpeek : (s.queues s.nextReadIndex).peek = none) :
    Ahead { s with nextReadIndex := (s.nextReadIndex + 1) % s.queueCount } (empties + 1) := by
  intro j hj hunread
  obtain ⟨k, hk, hplace⟩ := h j hj hunread
  have hne : k ≠ 0 := by
    intro hzero
    rw [hzero, Nat.add_zero, Nat.mod_eq_of_lt hnext] at hplace
    exact hunread (hplace ▸ SensorEventQueue.peek_eq_none_iff.mp hpeek)
  refine ⟨k - 1, ?_, ?_⟩
  · change k - 1 < s.queueCount - (empties + 1)
    omega
  · simpa [Nat.mod_add_mod, Nat.add_assoc, Nat.add_sub_cancel' (by omega : 1 ≤ k)] using hplace

theorem scan_exit (fuel : Nat) : ∀ {s : PollContext} {empties : Nat} {data : List (Nat × SensorsEvent)},
    (0 < s.queueCount → s.nextReadIndex < s.queueCount) → s.Ahead empties →
    s.unread * (s.queueCount + 1) + (s.queueCount - empties) < fuel →
    maxReads ≤ (scan t maxReads fuel s empties data).2.length ∨ AllEmpty (scan t maxReads fuel s empties data).1 := by
  induction fuel with
  | zero =>
    intro s empties data _ _ hfuel
    omega
  | succ fuel ih =>
    intro s empties data hnext hahead hfuel
    by_cases hturn : empties < s.queueCount ∧ data.length < maxReads
    · have hpos : 0 < s.queueCount := Nat.lt_of_le_of_lt (Nat.zero_le _) hturn.1
      have hlt : (s.nextReadIndex + 1) % s.queueCount < s.queueCount := Nat.mod_lt _ hpos
      cases hpeek : (s.queues s.nextReadIndex).peek with
      | none =>
        rw [scan_skip hturn hpeek]
        refine ih (fun _ => hlt) (hahead.skip (hnext hpos) hpeek) ?_
        change s.unread * (s.queueCount + 1) + (s.queueCount - (empties + 1)) < fuel
        omega
      | some event =>
        rw [scan_read hturn hpeek]
        refine ih (fun _ => hlt) (ahead_zero hlt) ?_
        have hunread : ({ s with nextReadIndex := (s.nextReadIndex + 1) % s.queueCount }.dequeue s.nextReadIndex
            event).unread + 1 = s.unread :=
          @unread_dequeue { s with nextReadIndex := (s.nextReadIndex + 1) % s.queueCount } _ (hnext hpos) _ hpeek
        rw [← hunread, Nat.succ_mul] at hfuel
        change _ * (s.queueCount + 1) + (s.queueCount - 0) < fuel
        omega
    · rw [scan_stop hturn]
      by_cases hfull : maxReads ≤ data.length
      · exact Or.inl hfull
      · right
        intro j hj
        by_contra hunread
        obtain ⟨k, hk, -⟩ := hahead j hj hunread
        omega

theorem scanAll_exit (hnext : 0 < s.queueCount → s.nextReadIndex < s.queueCount) :
    maxReads ≤ (scanAll t s maxReads).2.length ∨ AllEmpty (scanAll t s maxReads).1 := by
  refine scan_exit _ hnext ?_ ?_
  · intro j hj
    exact ahead_zero (hnext (by omega)) j hj
  · unfold scanFuel
    omega

theorem scanned_scanAll (h : Kept t s []) (hnext : 0 < s.queueCount → s.nextReadIndex < s.queueCount) :
    Scanned t s (scanAll t s maxReads).1 (scanAll t s maxReads).2 := scanned_scan _ h hnext

end PollContext

end DeviceHal.Sensors
