import DeviceHal.Gps.LocHeap
import Mathlib.Algebra.Group.Int.Defs
import Mathlib.Algebra.Group.Nat.Defs
import DeviceHal.Lib.Run

namespace DeviceHal.Gps

open Lib

/-- A reading of the boot clock, or a sum of one and a time out, that fits a 32 bit `time_t`. -/
structure Timespec where
  tvSec : Nat
  tvNsec : Nat
  sec_lt : tvSec < 2 ^ 31
  nsec_lt : tvNsec < 1000000000
  pos : 0 < tvSec + tvNsec
deriving DecidableEq, Repr

namespace Timespec

def nsecs (t : Timespec) : Nat := t.tvSec * 1000000000 + t.tvNsec

instance : LE Timespec := ⟨fun s t => s.nsecs ≤ t.nsecs⟩

instance : DecidableLE Timespec := fun s t => inferInstanceAs (Decidable (s.nsecs ≤ t.nsecs))

/-- The time a time out ends, if there is such a time. -/
def futureTime (now : Timespec) (timeOutInMs : UInt32) : Option Timespec :=
  let sec := now.tvSec + timeOutInMs.toNat / 1000
  let nsec := now.tvNsec + timeOutInMs.toNat % 1000 * 1000000
  let sec := if nsec ≥ 1000000000 then sec + nsec / 1000000000 else sec
  let nsec := if nsec ≥ 1000000000 then nsec % 1000000000 else nsec
  if h : sec < 2 ^ 31 ∧ nsec < 1000000000 ∧ 0 < sec + nsec then some ⟨sec, nsec, h.1, h.2.1, h.2.2⟩
  else none

/-- The conversion of a difference to `int`. -/
def toInt (x : Int) : Int := x.bmod (2 ^ 32)

def ranks (s t : Timespec) : Int :=
  let rank := toInt ((t.tvSec : Int) - s.tvSec)
  if 0 = rank then toInt ((t.tvNsec : Int) - s.tvNsec) else rank

end Timespec

/-- A started timer, by the address of its object. -/
structure LocTimerDelegate where
  addr : Nat
  mFutureTime : Timespec
deriving DecidableEq, Repr

def LocTimerDelegate.ranks (s t : LocTimerDelegate) : Int := s.mFutureTime.ranks t.mFutureTime

/-- The messages of the `MsgTask`. -/
inductive TimerMsg where
  | push (timer : LocTimerDelegate)
  | remove (timer : LocTimerDelegate)
  | expire
deriving DecidableEq, Repr

/-- Where the polling thread is: in `epoll_wait`, or at the next step of
`LocTimerContainer::expire`. -/
inductive PollPc where
  | waiting
  | fired
  | disarmed
  | unpolled
deriving DecidableEq, Repr

/-- The container with its threads and the kernel. `expiring` is `timerOfNow` while
`MsgTimerExpire::proc` is in its loop, `live` are the timers whose client has not stopped them.
`log` is a history variable: the timers expired, with the time they were. -/
structure TimerSystem where
  now : Timespec
  heap : LocHeap LocTimerDelegate := {}
  queue : List TimerMsg := []
  expiring : Option Timespec := none
  itValue : Option Timespec := none
  polled : Bool := false
  poll : PollPc := .waiting
  live : List LocTimerDelegate := []
  log : List (LocTimerDelegate × Timespec) := []
deriving DecidableEq, Repr

namespace TimerSystem

def getSoonestTimer (s : TimerSystem) : Option LocTimerDelegate := s.heap.peek

/-- An object with this address is there, until `MsgTimerRemove` deletes it. -/
def allocated (addr : Nat) (s : TimerSystem) : Bool :=
  s.live.any (·.addr = addr) || s.queue.any fun
    | .remove timer => timer.addr = addr
    | _ => false

/-- `LocTimer::start` with a new object at `addr`. -/
def start (addr : Nat) (timeOutInMs : UInt32) (s : TimerSystem) : TimerSystem :=
  if s.allocated addr then s
  else match s.now.futureTime timeOutInMs with
    | none => s
    | some futureTime =>
      { s with
        queue := s.queue ++ [.push ⟨addr, futureTime⟩]
        live := ⟨addr, futureTime⟩ :: s.live }

/-- `LocTimer::stop`, once for each timer. -/
def stop (timer : LocTimerDelegate) (s : TimerSystem) : TimerSystem :=
  if timer ∈ s.live then
    { s with
      queue := s.queue ++ [.remove timer]
      live := s.live.erase timer }
  else s

def updateSoonestTime (priorTop : Option LocTimerDelegate) (s : TimerSystem) : TimerSystem :=
  let curTop := s.getSoonestTimer
  if curTop ≠ priorTop then
    match curTop, priorTop with
    | none, _ => { s with polled := false, itValue := none }
    | some top, none => { s with polled := true, itValue := some top.mFutureTime }
    | some top, some prior =>
      if OutRanks LocTimerDelegate.ranks top prior then
        { s with polled := true, itValue := some top.mFutureTime }
      else s
  else s

/-- `LocTimerDelegate::expire`: the client stops the timer and is called back. -/
def expireTimer (timer : LocTimerDelegate) (s : TimerSystem) : TimerSystem :=
  { s.stop timer with log := (timer, s.now) :: s.log }

def procPush (timer : LocTimerDelegate) (s : TimerSystem) : TimerSystem :=
  { s with heap := s.heap.push LocTimerDelegate.ranks timer }.updateSoonestTime s.getSoonestTimer

def procRemove (timer : LocTimerDelegate) (s : TimerSystem) : TimerSystem :=
  let (heap, removed) := s.heap.remove LocTimerDelegate.ranks timer
  if s.getSoonestTimer = removed then { s with heap }.updateSoonestTime none else { s with heap }

/-- `MsgTimerExpire::proc` up to the first pop. -/
def procExpire (s : TimerSystem) : TimerSystem :=
  let (heap, popped) := s.heap.pop LocTimerDelegate.ranks
  match popped with
  | none => { s with heap }.updateSoonestTime none
  | some timer => { s with heap, expiring := some s.now }.expireTimer timer

/-- The next turn of its loop, with `popIfOutRanks`. -/
def procExpireTurn (timerOfNow : Timespec) (s : TimerSystem) : TimerSystem :=
  match s.getSoonestTimer with
  | none => { s with expiring := none }.updateSoonestTime none
  | some top =>
    if ¬0 < timerOfNow.ranks top.mFutureTime then
      let (heap, popped) := s.heap.pop LocTimerDelegate.ranks
      match popped with
      | none => { s with heap, expiring := none }.updateSoonestTime none
      | some timer => { s with heap }.expireTimer timer
    else { s with expiring := none }.updateSoonestTime none

/-- A step of the `MsgTask`. -/
def msgTask (s : TimerSystem) : TimerSystem :=
  match s.expiring with
  | some timerOfNow => s.procExpireTurn timerOfNow
  | none => match s.queue with
    | [] => s
    | .push timer :: queue => { s with queue }.procPush timer
    | .remove timer :: queue => { s with queue }.procRemove timer
    | .expire :: queue => { s with queue }.procExpire

/-- The fd is readable as long as it is armed with a time not in the future. -/
def readable (s : TimerSystem) : Bool := s.itValue.any fun t => t ≤ s.now

def pollTask (s : TimerSystem) : TimerSystem :=
  match s.poll with
  | .waiting => if s.polled ∧ s.readable then { s with poll := .fired } else s
  | .fired => { s with itValue := none, poll := .disarmed }
  | .disarmed => { s with polled := false, poll := .unpolled }
  | .unpolled => { s with queue := s.queue ++ [.expire], poll := .waiting }

end TimerSystem

inductive TimerEvent where
  | tick (now : Timespec)
  | start (addr : Nat) (timeOutInMs : UInt32)
  | stop (timer : LocTimerDelegate)
  | pollTask
  | msgTask
deriving DecidableEq, Repr

def timerStep (s : TimerSystem) : TimerEvent → TimerSystem
  | .tick now => if s.now ≤ now then { s with now } else s
  | .start addr timeOutInMs => s.start addr timeOutInMs
  | .stop timer => s.stop timer
  | .pollTask => s.pollTask
  | .msgTask => s.msgTask

variable {s : TimerSystem} {timer : LocTimerDelegate}

theorem Timespec.toInt_sub {a b m : Nat} (ha : a < m) (hb : b < m) (hm : m ≤ 2 ^ 31) :
    Timespec.toInt ((a : Int) - b) = (a : Int) - b := by
  unfold Timespec.toInt
  exact Int.bmod_eq_of_le (by omega) (by omega)

theorem Timespec.ranks_pos_iff (s t : Timespec) : 0 < s.ranks t ↔ s.nsecs < t.nsecs := by
  have hs := s.nsec_lt
  have ht := t.nsec_lt
  have hsec := Timespec.toInt_sub t.sec_lt s.sec_lt (le_refl _)
  have hnsec := Timespec.toInt_sub ht hs (by decide)
  grind [Timespec.ranks, Timespec.nsecs]

theorem Timespec.not_ranks_pos_iff (s t : Timespec) : ¬0 < s.ranks t ↔ t ≤ s := by
  rw [Timespec.ranks_pos_iff]
  exact Nat.not_lt

instance : IsStrictWeakOrder LocTimerDelegate (OutRanks LocTimerDelegate.ranks) where
  irrefl := by
    intro a h
    have h' := (Timespec.ranks_pos_iff _ _).mp h
    omega
  trans := by
    intro a b c hab hbc
    have hab' := (Timespec.ranks_pos_iff _ _).mp hab
    have hbc' := (Timespec.ranks_pos_iff _ _).mp hbc
    exact (Timespec.ranks_pos_iff _ _).mpr (hab'.trans hbc')
  incomp_trans := by
    intro a b c hab hbc
    simp only [OutRanks, LocTimerDelegate.ranks, Timespec.ranks_pos_iff] at *
    omega

theorem LocHeap.pop_peek {α : Type} (ranks : α → α → Int) (heap : LocHeap α) :
    (heap.pop ranks).2 = heap.peek := by
  obtain ⟨t⟩ := heap
  cases t with
  | null => rfl
  | node mSize l r d =>
    unfold LocHeap.pop
    dsimp only
    rw [LocHeapNode.pop_node]
    rfl

namespace TimerSystem

theorem updateSoonestTime_kernel (s : TimerSystem) (prior : Option LocTimerDelegate) :
    ∃ polled itValue, s.updateSoonestTime prior = { s with polled, itValue } := by
  unfold updateSoonestTime
  dsimp only
  by_cases hsame : s.getSoonestTimer = prior
  · rw [if_neg (not_not.mpr hsame)]
    exact ⟨_, _, rfl⟩
  · rw [if_pos hsame]
    cases s.getSoonestTimer with
    | none => exact ⟨_, _, rfl⟩
    | some top =>
      cases prior with
      | none => exact ⟨_, _, rfl⟩
      | some prior =>
        dsimp only
        split
        next => exact ⟨_, _, rfl⟩
        next => exact ⟨_, _, rfl⟩

@[simp] theorem stop_now : (s.stop timer).now = s.now := by
  unfold stop
  split
  next => rfl
  next => rfl

@[simp] theorem stop_expiring : (s.stop timer).expiring = s.expiring := by
  unfold stop
  split
  next => rfl
  next => rfl

end TimerSystem

def NoneEarly (s : TimerSystem) : Prop := ∀ p ∈ s.log, p.1.mFutureTime ≤ p.2

/-- When the `MsgTask` comes to a `MsgTimerExpire`, the soonest timer is due, if there is one. -/
def SoonestDue (s : TimerSystem) : TimerEvent → Prop
  | .msgTask => s.expiring = none → s.queue.head? = some .expire →
    ∀ top, s.getSoonestTimer = some top → top.mFutureTime ≤ s.now
  | _ => True

/-- The time a loop of `MsgTimerExpire::proc` compares with is past. -/
structure DueInv (s : TimerSystem) : Prop where
  due : NoneEarly s
  past : ∀ timerOfNow, s.expiring = some timerOfNow → timerOfNow ≤ s.now

def timerRun (s : TimerSystem) (evt : TimerEvent) : Option TimerSystem := some (timerStep s evt)

theorem DueInv.expireTimer (h : DueInv s) (due : timer.mFutureTime ≤ s.now) :
    DueInv (s.expireTimer timer) := by
  refine ⟨fun p hp => ?_, fun timerOfNow hexp => ?_⟩
  · rcases List.mem_cons.mp hp with rfl | hp
    · exact due
    · exact h.due p hp
  · have hexp' : (s.stop timer).expiring = some timerOfNow := hexp
    rw [TimerSystem.stop_expiring] at hexp'
    have hpast := h.past timerOfNow hexp'
    have hnow : (s.expireTimer timer).now = s.now := TimerSystem.stop_now
    rw [hnow]
    exact hpast

theorem DueInv.updateSoonestTime (h : DueInv s) (prior : Option LocTimerDelegate) :
    DueInv (s.updateSoonestTime prior) := by
  obtain ⟨polled, itValue, hs⟩ := s.updateSoonestTime_kernel prior
  rw [hs]
  exact ⟨h.due, h.past⟩

theorem DueInv.idle (h : DueInv s) : DueInv { s with expiring := none } :=
  ⟨h.due, fun _ hexp => by cases hexp⟩

theorem DueInv.withHeap (h : DueInv s) (heap : LocHeap LocTimerDelegate) :
    DueInv { s with heap } := ⟨h.due, h.past⟩

theorem DueInv.procRemove (h : DueInv s) (timer : LocTimerDelegate) : DueInv (s.procRemove timer) := by
  unfold TimerSystem.procRemove
  dsimp only
  split
  next => exact (h.withHeap _).updateSoonestTime none
  next => exact h.withHeap _

theorem DueInv.procExpire (h : DueInv s)
    (due : ∀ top, s.getSoonestTimer = some top → top.mFutureTime ≤ s.now) :
    DueInv s.procExpire := by
  have hpop := LocHeap.pop_peek LocTimerDelegate.ranks s.heap
  unfold TimerSystem.procExpire
  generalize s.heap.pop LocTimerDelegate.ranks = p at hpop
  obtain ⟨heap, popped⟩ := p
  dsimp only at hpop ⊢
  cases popped with
  | none => exact (h.withHeap heap).updateSoonestTime none
  | some timer =>
    have h' : DueInv { s with heap, expiring := some s.now } :=
      ⟨h.due, fun timerOfNow hexp => Option.some.inj hexp ▸ Nat.le_refl _⟩
    exact h'.expireTimer (due timer hpop.symm)

theorem DueInv.procExpireTurn (h : DueInv s) {timerOfNow : Timespec}
    (hexp : s.expiring = some timerOfNow) : DueInv (s.procExpireTurn timerOfNow) := by
  have hpop := LocHeap.pop_peek LocTimerDelegate.ranks s.heap
  unfold TimerSystem.procExpireTurn
  cases htop : s.getSoonestTimer with
  | none => exact h.idle.updateSoonestTime none
  | some top =>
    dsimp only
    split
    next hrank =>
      generalize s.heap.pop LocTimerDelegate.ranks = p at hpop
      obtain ⟨heap, popped⟩ := p
      dsimp only at hpop ⊢
      cases popped with
      | none => exact (h.idle.withHeap heap).updateSoonestTime none
      | some timer =>
        have heq : timer = top := Option.some.inj (hpop.trans htop)
        have hle := (Timespec.not_ranks_pos_iff _ _).mp hrank
        rw [← heq] at hle
        exact (h.withHeap heap).expireTimer (Nat.le_trans hle (h.past timerOfNow hexp))
    next => exact h.idle.updateSoonestTime none

theorem DueInv.step (h : DueInv s) {evt : TimerEvent} (good : SoonestDue s evt) :
    DueInv (timerStep s evt) := by
  cases evt with
  | tick now =>
    change DueInv (if s.now ≤ now then { s with now } else s)
    split
    next hle => exact ⟨h.due, fun n hexp => Nat.le_trans (h.past n hexp) hle⟩
    next => exact h
  | start addr timeOutInMs =>
    change DueInv (s.start addr timeOutInMs)
    unfold TimerSystem.start
    split
    next => exact h
    next =>
      split
      next => exact h
      next => exact ⟨h.due, h.past⟩
  | stop timer =>
    change DueInv (s.stop timer)
    unfold TimerSystem.stop
    split
    next => exact ⟨h.due, h.past⟩
    next => exact h
  | pollTask =>
    change DueInv s.pollTask
    unfold TimerSystem.pollTask
    split
    next =>
      split
      next => exact ⟨h.due, h.past⟩
      next => exact h
    next => exact ⟨h.due, h.past⟩
    next => exact ⟨h.due, h.past⟩
    next => exact ⟨h.due, h.past⟩
  | msgTask =>
    change DueInv s.msgTask
    unfold TimerSystem.msgTask
    split
    next timerOfNow hexp => exact h.procExpireTurn hexp
    next hexp =>
      split
      next => exact h
      next timer queue hq =>
        have h' : DueInv { s with queue } := ⟨h.due, h.past⟩
        exact (h'.withHeap _).updateSoonestTime _
      next timer queue hq =>
        have h' : DueInv { s with queue } := ⟨h.due, h.past⟩
        exact h'.procRemove timer
      next queue hq =>
        have h' : DueInv { s with queue } := ⟨h.due, h.past⟩
        exact h'.procExpire (good hexp (by rw [hq]; rfl))

theorem early_of_not_due {evt : TimerEvent} (bad : ¬SoonestDue s evt) :
    ¬NoneEarly (timerStep s evt) := by
  cases evt with
  | msgTask =>
    unfold SoonestDue at bad
    push Not at bad
    obtain ⟨hexp, hq, top, htop, hnot⟩ := bad
    obtain ⟨queue, hqueue⟩ : ∃ queue, s.queue = .expire :: queue := by
      cases hs : s.queue with
      | nil => rw [hs] at hq; cases hq
      | cons msg queue =>
        rw [hs] at hq
        cases hq
        exact ⟨queue, rfl⟩
    have hpop := LocHeap.pop_peek LocTimerDelegate.ranks s.heap
    intro hdue
    change NoneEarly s.msgTask at hdue
    unfold TimerSystem.msgTask at hdue
    rw [hexp, hqueue] at hdue
    dsimp only at hdue
    unfold TimerSystem.procExpire at hdue
    generalize s.heap.pop LocTimerDelegate.ranks = p at hpop hdue
    obtain ⟨heap, popped⟩ := p
    dsimp only at hpop hdue
    rw [hpop.trans htop] at hdue
    exact hnot (hdue (top, s.now) List.mem_cons_self)
  | _ => exact absurd trivial bad

/-- All along a run no timer is expired early exactly if the soonest timer is due whenever the
`MsgTask` comes to a `MsgTimerExpire`. -/
theorem none_early_iff (now : Timespec) (evts : List TimerEvent) :
    Always timerRun NoneEarly { now } evts ↔ OpsMeet timerRun SoonestDue { now } evts := by
  have first : DueInv { now } :=
    ⟨fun p hp => absurd hp List.not_mem_nil, fun _ hexp => by cases hexp⟩
  have all : OpsMeet timerRun (fun _ _ => True) { now } evts := opsMeet_true _ evts
  exact always_iff (fun _ h => h.due) (fun s evt h _ good => ⟨_, rfl, h.step good⟩)
    (fun s evt _ _ bad => ⟨_, rfl, early_of_not_due bad⟩) first all

def secs (n : Nat) (h : n + 1 < 2 ^ 31) : Timespec := ⟨n + 1, 0, h, by decide, by omega⟩

/-- A timer of ten seconds runs out just after its client has stopped it and started one of
a thousand: the second one is expired. -/
theorem late_expire_early : ¬∀ (now : Timespec) (evts : List TimerEvent),
    Always timerRun NoneEarly { now } evts := by
  intro h
  have always := h (secs 0 (by decide)) [.start 1 10000, .msgTask, .tick (secs 10 (by decide)),
    .stop ⟨1, secs 10 (by decide)⟩, .start 2 1000000, .pollTask, .pollTask, .pollTask, .pollTask,
    .msgTask, .msgTask, .msgTask]
  have last := (((((((((((always.2 _ rfl).2 _ rfl).2 _ rfl).2 _ rfl).2 _ rfl).2 _ rfl).2 _ rfl).2 _
    rfl).2 _ rfl).2 _ rfl).2 _ rfl).2 _ rfl
  have early := last ⟨⟨2, secs 1010 (by decide)⟩, secs 10 (by decide)⟩ (by decide +kernel)
  exact absurd early (by decide)

end DeviceHal.Gps
