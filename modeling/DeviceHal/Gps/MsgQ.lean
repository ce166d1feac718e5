import DeviceHal.Gps.LinkedList
import DeviceHal.Lib.Run
import Mathlib.Algebra.GroupWithZero.Nat

namespace DeviceHal.Gps

open Lib

inductive MsgQErr where
  | success
  | failureGeneral
  | invalidParameter
  | invalidHandle
  | unavailableResource
  | insufficientBuffer
deriving DecidableEq, Repr

def convertLinkedListErrType : LinkedListErr → MsgQErr
  | .success => .success
  | .invalidParameter => .invalidParameter
  | .invalidHandle => .invalidHandle
  | .unavailableResource => .unavailableResource
  | .insufficientBuffer => .insufficientBuffer
  | .failureGeneral => .failureGeneral

/-- `waiting` receivers are in `pthread_cond_wait`. History: the messages sent, those that a receive
or a search with removal returned, those whose `dealloc_func` was called, those removed that have
none, and how many had been sent when the queue was unblocked. -/
structure MsgQ where
  msgList : ListState := {}
  unblocked : Bool := false
  waiting : Nat := 0
  destroyed : Bool := false
  sent : List ListData := []
  received : List ListData := []
  taken : List ListData := []
  freed : List ListData := []
  dropped : List ListData := []
  sentAtUnblock : Option Nat := none

/-- The atomic parts of the calls. `elem` is what `malloc` returns; `dataP` is whether the search
has somewhere to put the data found. -/
inductive MsgQOp where
  | snd (msgObj : Nat) (dealloc : Bool) (elem : Option Nat)
  | rcv
  | wake
  | flush
  | unblock
  | search (equal : Nat → Bool) (dataP rmIfFound : Bool)
  | destroy

namespace MsgQ

/-- Frees the data of removed elements if told to do so. -/
def dispose (values : List ListData) (q : MsgQ) : MsgQ :=
  { q with
    freed := q.freed ++ values.filter (·.deallocFunc)
    dropped := q.dropped ++ values.filter (!·.deallocFunc) }

def msgQSnd (msgObj : Nat) (dealloc : Bool) (elem : Option Nat) (q : MsgQ) :
    Option (MsgQ × MsgQErr) :=
  if msgObj = 0 then some (q, .invalidParameter)
  else if q.unblocked then some (q, .unavailableResource)
  else
    let data := { dataPtr := msgObj, deallocFunc := dealloc, number := q.sent.length }
    (q.msgList.linkedListAdd elem data).map fun (msgList, err) =>
      let rv := convertLinkedListErrType err
      ({ q with msgList, sent := if rv = .success then q.sent ++ [data] else q.sent }, rv)

/-- The end of `msg_q_rcv`: the receiver waits, or takes what there is. `none` for the result is a
receiver that waits. -/
def waitOrRemove (q : MsgQ) : Option (MsgQ × Option MsgQErr) :=
  if q.msgList.linkedListEmpty && !q.unblocked then some ({ q with waiting := q.waiting + 1 }, none)
  else
    q.msgList.linkedListRemove.map fun (msgList, err, data) =>
      ({ q with msgList, received := q.received ++ data.toList },
        some (convertLinkedListErrType err))

def msgQRcv (q : MsgQ) : Option (MsgQ × Option MsgQErr) :=
  if q.unblocked then some (q, some .unavailableResource) else q.waitOrRemove

/-- A receiver comes back from `pthread_cond_wait`. -/
def wakeReceiver (q : MsgQ) : Option (MsgQ × Option MsgQErr) :=
  { q with waiting := q.waiting - 1 }.waitOrRemove

def msgQFlush (q : MsgQ) : Option (MsgQ × MsgQErr) :=
  q.msgList.linkedListFlush.map fun (msgList, err, values) =>
    ({ q with msgList }.dispose values, convertLinkedListErrType err)

def msgQUnblock (q : MsgQ) : MsgQ × MsgQErr :=
  if q.unblocked then (q, .unavailableResource)
  else ({ q with unblocked := true, sentAtUnblock := some q.sent.length }, .success)

/-- Data that is not copied out is freed with its element. -/
def search (equal : Nat → Bool) (dataP rmIfFound : Bool) (q : MsgQ) :
    Option (MsgQ × LinkedListErr × Option ListData) :=
  (q.msgList.linkedListSearch equal rmIfFound).map fun (msgList, err, found) =>
    let q := { q with msgList }
    let q :=
      if rmIfFound then
        if dataP then { q with taken := q.taken ++ found.toList } else q.dispose found.toList
      else q
    (q, err, if dataP then found else none)

def msgQDestroy (q : MsgQ) : Option (MsgQ × MsgQErr) :=
  q.msgList.linkedListFlush.map fun (msgList, _, values) =>
    ({ q with msgList, unblocked := false, destroyed := true }.dispose values, .success)

def step (q : MsgQ) : MsgQOp → Option MsgQ
  | .snd msgObj dealloc elem => (q.msgQSnd msgObj dealloc elem).map Prod.fst
  | .rcv => q.msgQRcv.map Prod.fst
  | .wake => q.wakeReceiver.map Prod.fst
  | .flush => q.msgQFlush.map Prod.fst
  | .unblock => some q.msgQUnblock.1
  | .search equal dataP rmIfFound => (q.search equal dataP rmIfFound).map Prod.fst
  | .destroy => q.msgQDestroy.map Prod.fst

/-- What the callers and `malloc` see to: no call after the queue is destroyed, only waiting
receivers wake up, and a new element is none of those in use. -/
def Callable (q : MsgQ) (op : MsgQOp) : Prop :=
  q.destroyed = false ∧
    match op with
    | .snd _ _ (some elem) => elem ∉ q.msgList.cells
    | .wake => 0 < q.waiting
    | _ => True

instance decidableCallable (q : MsgQ) : ∀ op, Decidable (q.Callable op)
  | .snd _ _ (some elem) =>
    inferInstanceAs (Decidable (q.destroyed = false ∧ elem ∉ q.msgList.cells))
  | .snd _ _ none => inferInstanceAs (Decidable (q.destroyed = false ∧ True))
  | .rcv => inferInstanceAs (Decidable (q.destroyed = false ∧ True))
  | .wake => inferInstanceAs (Decidable (q.destroyed = false ∧ 0 < q.waiting))
  | .flush => inferInstanceAs (Decidable (q.destroyed = false ∧ True))
  | .unblock => inferInstanceAs (Decidable (q.destroyed = false ∧ True))
  | .search _ _ _ => inferInstanceAs (Decidable (q.destroyed = false ∧ True))
  | .destroy => inferInstanceAs (Decidable (q.destroyed = false ∧ True))

/-- The list is well formed, with these elements; the messages received are in the order sent, and
before those queued; each message sent is in one of the places, once; none is sent after the queue
is unblocked. -/
structure RightWith (q : MsgQ) (entries : List (Nat × ListData)) (places : List (List ListData)) :
    Prop where
  linked : Chained q.msgList.cells q.msgList.pHead q.msgList.pTail entries
  inOrder : ((q.received ++ (entries.map Prod.snd).reverse).map ListData.number).Pairwise (· < ·)
  once : ∀ m ∈ q.sent, (places.map (List.count m)).sum = 1
  noneElse : ∀ place ∈ places, ∀ m ∈ place, m ∈ q.sent
  stopped : ∀ n, q.sentAtUnblock = some n → q.sent.length = n

/-- Each message sent is queued, or was returned, or its dealloc function was called. -/
def ExactlyOnce (q : MsgQ) : Prop :=
  ∃ entries, q.RightWith entries [entries.map Prod.snd, q.received, q.taken, q.freed]

/-- Each message sent is queued, or was returned, or was removed, its dealloc function being called
if it has one. -/
def OnceOrDropped (q : MsgQ) : Prop :=
  ∃ entries, q.RightWith entries [entries.map Prod.snd, q.received, q.taken, q.freed, q.dropped] ∧
    (∀ m ∈ q.freed, m.deallocFunc = true) ∧ ∀ m ∈ q.dropped, m.deallocFunc = false

end MsgQ

end DeviceHal.Gps

namespace DeviceHal.Gps.MsgQ

open Lib

variable {q : MsgQ} {entries front rest : List (Nat × ListData)}

/-- The invariant of the calls: the messages carry their numbers, and the places hold each message
as often as it was sent. -/
structure Inv (q : MsgQ) (entries : List (Nat × ListData)) : Prop where
  holds : q.msgList.Holds entries
  inOrder : ((q.received ++ (entries.map Prod.snd).reverse).map ListData.number).Pairwise (· < ·)
  counts : ∀ m, (entries.map Prod.snd).count m + q.received.count m + q.taken.count m +
    q.freed.count m + q.dropped.count m = q.sent.count m
  numbered : q.sent.map ListData.number = List.range q.sent.length
  freed : ∀ m ∈ q.freed, m.deallocFunc = true
  dropped : ∀ m ∈ q.dropped, m.deallocFunc = false
  stopped : ∀ n, q.sentAtUnblock = some n → q.sent.length = n
  open_ : q.destroyed = false → q.unblocked = false → q.sentAtUnblock = none

theorem Inv.initial : Inv {} [] where
  holds := ListState.holds_nil
  inOrder := List.Pairwise.nil
  counts _ := rfl
  numbered := rfl
  freed m hm := by cases hm
  dropped m hm := by cases hm
  stopped n hn := by cases hn
  open_ _ _ := rfl

theorem Inv.mem_sent (h : Inv q entries) {m : ListData}
    (hm : 0 < (entries.map Prod.snd).count m + q.received.count m + q.taken.count m +
      q.freed.count m + q.dropped.count m) : m ∈ q.sent := by
  rw [h.counts m] at hm
  exact List.count_pos_iff.mp hm

theorem Inv.number_lt (h : Inv q entries) {m : ListData} (hm : m ∈ q.sent) :
    m.number < q.sent.length := by
  have := List.mem_map_of_mem (f := ListData.number) hm
  rw [h.numbered] at this
  exact List.mem_range.mp this

theorem Inv.sent_nodup (h : Inv q entries) : q.sent.Nodup := by
  apply List.Nodup.of_map ListData.number
  rw [h.numbered]
  exact List.nodup_range

theorem Inv.onceOrDropped (h : Inv q entries) : q.OnceOrDropped := by
  refine ⟨entries, ⟨h.holds, h.inOrder, fun m hm => ?_, fun place hplace m hm => ?_, h.stopped⟩,
    h.freed, h.dropped⟩
  · have hone := List.count_eq_one_of_mem h.sent_nodup hm
    have := h.counts m
    grind
  · apply h.mem_sent
    grind

variable {msgList : ListState}

theorem Inv.snd (h : Inv q entries) {elem : Nat} {data : ListData}
    (hd : data.number = q.sent.length) (hl : msgList.Holds ((elem, data) :: entries))
    (hopen : q.sentAtUnblock = none) :
    Inv { q with msgList, sent := q.sent ++ [data] } ((elem, data) :: entries) := by
  refine ⟨hl, ?_, fun m => ?_, ?_, h.freed, h.dropped, fun n hn => ?_, h.open_⟩
  · rw [List.map_cons, List.reverse_cons, ← List.append_assoc, List.map_append,
      List.pairwise_append]
    refine ⟨h.inOrder, by simp, fun a ha b hb => ?_⟩
    obtain ⟨m, hm, rfl⟩ := List.mem_map.mp ha
    have hb : b = q.sent.length := by simpa [hd] using hb
    have hsent : m ∈ q.sent := by
      apply h.mem_sent
      rcases List.mem_append.mp hm with hm | hm
      · grind
      · grind
    rw [hb]
    exact h.number_lt hsent
  · have := h.counts m
    grind
  · rw [List.map_append, h.numbered, List.length_append, List.map_cons, List.map_nil, hd,
      List.length_singleton, List.range_succ]
  grind

theorem Inv.receive {e : Nat × ListData} (h : Inv q (front ++ [e])) (hl : msgList.Holds front) :
    Inv { q with msgList, received := q.received ++ [e.2] } front := by
  refine ⟨hl, ?_, fun m => ?_, h.numbered, h.freed, h.dropped, h.stopped, h.open_⟩
  · simpa using h.inOrder
  · have := h.counts m
    grind

theorem Inv.sublist (h : Inv q entries) (hsub : rest.Sublist entries) :
    ((q.received ++ (rest.map Prod.snd).reverse).map ListData.number).Pairwise (· < ·) := by
  refine List.Pairwise.sublist ?_ h.inOrder
  exact ((List.Sublist.refl _).append (hsub.map _).reverse).map _

theorem Inv.take {e : Nat × ListData} (h : Inv q (front ++ e :: rest))
    (hl : msgList.Holds (front ++ rest)) :
    Inv { q with msgList, taken := q.taken ++ [e.2] } (front ++ rest) := by
  refine ⟨hl, h.sublist ((List.Sublist.refl front).append (List.sublist_cons_self e rest)),
    fun m => ?_, h.numbered, h.freed, h.dropped, h.stopped, h.open_⟩
  have := h.counts m
  grind

theorem Inv.dispose (h : Inv q entries) {values : List ListData}
    (hl : msgList.Holds rest) (hsub : rest.Sublist entries)
    (hvalues : ∀ m, (entries.map Prod.snd).count m = (rest.map Prod.snd).count m + values.count m) :
    Inv ({ q with msgList }.dispose values) rest := by
  refine ⟨hl, h.sublist hsub, fun m => ?_, h.numbered, fun m hm => ?_, fun m hm => ?_, h.stopped,
    h.open_⟩
  · have hcounts := h.counts m
    have hsplit : (values.filter (·.deallocFunc)).count m + (values.filter (!·.deallocFunc)).count m =
        values.count m := by
      rw [← List.count_append]
      exact (List.filter_append_perm _ values).count_eq m
    have := hvalues m
    simp only [MsgQ.dispose, List.count_append]
    omega
  · rcases List.mem_append.mp hm with hm | hm
    · exact h.freed m hm
    · exact (List.mem_filter.mp hm).2
  · rcases List.mem_append.mp hm with hm | hm
    · exact h.dropped m hm
    · simpa using (List.mem_filter.mp hm).2

theorem Inv.msgQSnd (h : Inv q entries) {msgObj : Nat} {dealloc : Bool} {elem : Option Nat}
    (hcall : q.Callable (.snd msgObj dealloc elem)) :
    ∃ result, q.msgQSnd msgObj dealloc elem = some result ∧ ∃ entries', Inv result.1 entries' := by
  unfold MsgQ.msgQSnd
  by_cases hnull : msgObj = 0
  · rw [if_pos hnull]
    exact ⟨_, rfl, entries, h⟩
  rw [if_neg hnull]
  by_cases hun : q.unblocked = true
  · rw [if_pos hun]
    exact ⟨_, rfl, entries, h⟩
  rw [if_neg hun]
  let data : ListData := { dataPtr := msgObj, deallocFunc := dealloc, number := q.sent.length }
  have hdata : data.dataPtr ≠ 0 := hnull
  cases elem with
  | none =>
    have hadd := ListState.linkedListAdd_noMemory (l := q.msgList) hdata
    simp only [data] at hadd
    simp only [hadd, Option.map_some]
    exact ⟨_, rfl, entries, h⟩
  | some elem =>
    obtain ⟨l, hl, hholds⟩ := ListState.linkedListAdd_holds h.holds hcall.2 hdata
    simp only [data] at hl
    have hopen := h.open_ hcall.1 (by simpa using hun)
    simp only [hl, Option.map_some]
    exact ⟨_, rfl, _, h.snd rfl hholds hopen⟩

theorem Inv.waitOrRemove (h : Inv q entries) :
    ∃ result, q.waitOrRemove = some result ∧ ∃ entries', Inv result.1 entries' := by
  unfold MsgQ.waitOrRemove
  split
  next => exact ⟨_, rfl, entries, { h with }⟩
  next =>
    rcases List.eq_nil_or_concat' entries with rfl | ⟨front, e, rfl⟩
    · rw [ListState.linkedListRemove_nil h.holds]
      refine ⟨_, rfl, [], ?_⟩
      simpa using { h with }
    · obtain ⟨l, hl, hholds⟩ := ListState.linkedListRemove_holds h.holds
      rw [hl]
      exact ⟨_, rfl, front, h.receive hholds⟩

theorem Inv.flushed (h : Inv q entries) (hl : msgList.Holds []) :
    Inv ({ q with msgList }.dispose (entries.map Prod.snd)) [] :=
  h.dispose hl (List.nil_sublist entries) fun m => by simp

theorem Inv.msgQFlush (h : Inv q entries) :
    ∃ result, q.msgQFlush = some result ∧ ∃ entries', Inv result.1 entries' := by
  obtain ⟨l, hl, hholds⟩ := ListState.linkedListFlush_holds h.holds
  unfold MsgQ.msgQFlush
  rw [hl]
  exact ⟨_, rfl, [], h.flushed hholds⟩

theorem Inv.msgQDestroy (h : Inv q entries) :
    ∃ result, q.msgQDestroy = some result ∧ ∃ entries', Inv result.1 entries' := by
  obtain ⟨l, hl, hholds⟩ := ListState.linkedListFlush_holds h.holds
  unfold MsgQ.msgQDestroy
  rw [hl]
  exact ⟨_, rfl, [], { h.flushed hholds with open_ := fun hd => by cases hd }⟩

theorem Inv.msgQUnblock (h : Inv q entries) : Inv q.msgQUnblock.1 entries := by
  unfold MsgQ.msgQUnblock
  split
  next => exact h
  next =>
    exact { h with
      stopped := fun n hn => Option.some.inj hn
      open_ := fun _ hun => by cases hun }

theorem Inv.search (h : Inv q entries) (equal : Nat → Bool) (dataP rmIfFound : Bool) :
    ∃ result, q.search equal dataP rmIfFound = some result ∧ ∃ entries', Inv result.1 entries' := by
  unfold MsgQ.search
  rcases ListState.linkedListSearch_holds h.holds equal rmIfFound with
    ⟨err, hnone⟩ | ⟨front, e, rest, l, he, hfound, hholds⟩
  · rw [hnone]
    refine ⟨_, rfl, entries, ?_⟩
    cases rmIfFound with
    | false => exact { h with }
    | true =>
      cases dataP with
      | false => exact h.dispose h.holds (List.Sublist.refl entries) fun m => by simp
      | true => simpa using { h with }
  · rw [hfound]
    refine ⟨_, rfl, ?_⟩
    cases rmIfFound with
    | false => exact ⟨entries, { h with holds := hholds }⟩
    | true =>
      refine ⟨front ++ rest, ?_⟩
      subst he
      cases dataP with
      | false =>
        refine h.dispose hholds ((List.Sublist.refl front).append (List.sublist_cons_self e rest))
          fun m => ?_
        grind
      | true => exact h.take hholds

theorem Inv.step (h : Inv q entries) {op : MsgQOp} (hcall : q.Callable op) :
    ∃ q', q.step op = some q' ∧ ∃ entries', Inv q' entries' := by
  have hmap : ∀ {α : Type} {x : Option (MsgQ × α)},
      (∃ result, x = some result ∧ ∃ entries', Inv result.1 entries') →
      ∃ q', x.map Prod.fst = some q' ∧ ∃ entries', Inv q' entries' := by
    rintro α x ⟨result, rfl, hinv⟩
    exact ⟨result.1, rfl, hinv⟩
  cases op with
  | snd msgObj dealloc elem => exact hmap (h.msgQSnd hcall)
  | rcv =>
    apply hmap
    unfold msgQRcv
    split
    next => exact ⟨_, rfl, entries, h⟩
    next => exact h.waitOrRemove
  | wake => exact hmap (Inv.waitOrRemove (q := { q with waiting := q.waiting - 1 }) { h with })
  | flush => exact hmap h.msgQFlush
  | unblock => exact ⟨_, rfl, entries, h.msgQUnblock⟩
  | search equal dataP rmIfFound => exact hmap (h.search equal dataP rmIfFound)
  | destroy => exact hmap h.msgQDestroy

def Sound (q : MsgQ) : Prop := ∃ entries, Inv q entries

theorem Sound.step {op : MsgQOp} (h : q.Sound) (hcall : q.Callable op) :
    ∃ q', q.step op = some q' ∧ q'.Sound := by
  obtain ⟨entries, h⟩ := h
  exact h.step hcall

/-- Whatever the order of the calls, each of them returns, and the queue is a FIFO that accounts for
every message sent. -/
theorem onceOrDropped_always {ops : List MsgQOp} (meet : OpsMeet step Callable {} ops) :
    (∃ q, runOps step {} ops = some q) ∧ Always step OnceOrDropped {} ops := by
  have first : Sound {} := ⟨[], Inv.initial⟩
  have returns : ∀ q op, Sound q → Callable q op → ∃ q', step q op = some q' ∧ Sound q' :=
    fun q op h hcall => h.step hcall
  constructor
  · obtain ⟨q, hrun, -⟩ := run_returns returns first meet
    exact ⟨q, hrun⟩
  · refine always_invariant (fun q ⟨entries, h⟩ => h.onceOrDropped) ?_ first meet
    grind

/-- Two messages are sent, one is received, the queue is unblocked and then flushed. -/
theorem unblocked_run_onceOrDropped :
    OpsMeet step Callable {}
        [.snd 7 true (some 1), .snd 8 false (some 2), .rcv, .unblock, .snd 9 true (some 3), .flush] ∧
      Always step OnceOrDropped {}
        [.snd 7 true (some 1), .snd 8 false (some 2), .rcv, .unblock, .snd 9 true (some 3),
          .flush] :=
  ⟨by decide, (onceOrDropped_always (by decide)).2⟩

/-- A message that has no dealloc function is in none of the places once it is flushed. -/
theorem flush_drops_message :
    ¬ ∀ ops, OpsMeet step Callable {} ops → Always step ExactlyOnce {} ops := by
  intro h
  have hlast := (h [.snd 7 false (some 1), .flush] (by decide)).last rfl
  obtain ⟨entries, hright⟩ := hlast
  have hnil : entries = [] := (ListState.holds_pHead hright.linked).mp rfl
  subst hnil
  exact absurd (hright.once { dataPtr := 7, deallocFunc := false, number := 0 } (by decide))
    (by decide)

end DeviceHal.Gps.MsgQ
