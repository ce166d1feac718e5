import DeviceHal.Lib.Run
import Mathlib

namespace DeviceHal.Ipacm

open Lib

inductive RmResource where
  | wlanProd
  | usbProd
  | q6Prod
  | oduAdaptProd
  | hsicProd
  | wlanCons
  | usbCons
  | q6Cons
  | oduAdaptCons
  | other (index : Nat)
deriving DecidableEq

structure RmDependency where
  resourceName : RmResource
  dependsOnName : RmResource
deriving DecidableEq

/-- IPA_IOC_RM_ADD_DEPENDENCY and IPA_IOC_RM_DEL_DEPENDENCY, which succeed. -/
inductive RmIoctl where
  | add (dep : RmDependency)
  | del (dep : RmDependency)
deriving DecidableEq

structure RmClient where
  producerRm1 : RmResource
  consumerRm1 : RmResource
  producerRm2 : RmResource
  consumerRm2 : RmResource
  producer1Up : Bool := false
  consumer1Up : Bool := false
  rmSet : Bool := false
  rxBypassIpa : Bool := false
deriving DecidableEq

namespace RmClient

def dep1 (e : RmClient) : RmDependency := ⟨e.producerRm1, e.consumerRm1⟩

def dep2 (e : RmClient) : RmDependency := ⟨e.producerRm2, e.consumerRm2⟩

/-- The two ioctls for an entry; the first one is skipped for a bypassed producer. -/
def biDirection (e : RmClient) (ioctl : RmDependency → RmIoctl) : List RmIoctl :=
  if e.rxBypassIpa then [ioctl e.dep2] else [ioctl e.dep1, ioctl e.dep2]

def addProducer (e : RmClient) (rxBypassIpa : Bool) : RmClient × List RmIoctl :=
  let e := { e with producer1Up := true, rxBypassIpa := rxBypassIpa }
  if e.consumer1Up = true ∧ e.rmSet = false then ({ e with rmSet := true }, e.biDirection .add)
  else (e, [])

def addConsumer (e : RmClient) : RmClient × List RmIoctl :=
  let e := { e with consumer1Up := true }
  if e.producer1Up = true ∧ e.rmSet = false then ({ e with rmSet := true }, e.biDirection .add)
  else (e, [])

/-- What `AddRmDepend` does to one entry. -/
def add (e : RmClient) (rm1 : RmResource) (rxBypassIpa : Bool) : RmClient × List RmIoctl :=
  let producer := if rm1 = e.producerRm1 then e.addProducer rxBypassIpa else (e, [])
  let consumer := if rm1 = e.consumerRm1 then producer.1.addConsumer else (producer.1, [])
  (consumer.1, producer.2 ++ consumer.2)

def takeDown (e : RmClient) : RmClient × List RmIoctl :=
  if e.rmSet = true then ({ e with rmSet := false }, e.biDirection .del) else (e, [])

def delProducer (e : RmClient) : RmClient × List RmIoctl :=
  let down := e.takeDown
  ({ down.1 with producer1Up := false, rxBypassIpa := false }, down.2)

def delConsumer (e : RmClient) : RmClient × List RmIoctl :=
  let down := e.takeDown
  ({ down.1 with consumer1Up := false }, down.2)

/-- What `DelRmDepend` does to one entry. The modem consumer is kept while the count is 1. -/
def del (e : RmClient) (rm1 : RmResource) (ipaRmA2Check : Int) : RmClient × List RmIoctl :=
  let producer := if rm1 = e.producerRm1 then e.delProducer else (e, [])
  let consumer :=
    if rm1 = e.consumerRm1 then
      if e.consumerRm1 = .q6Cons ∧ ipaRmA2Check = 1 then (producer.1, [])
      else producer.1.delConsumer
    else (producer.1, [])
  (consumer.1, producer.2 ++ consumer.2)

end RmClient

/-- The part of IPACM_Config with the resource manager dependencies. -/
structure RmTable where
  ipaRmTbl : List RmClient
  ipaRmA2Check : Int

namespace RmTable

/-- The entries that `Init` creates. -/
def entries : List RmClient :=
  [ { producerRm1 := .wlanProd, consumerRm1 := .q6Cons
      producerRm2 := .q6Prod, consumerRm2 := .wlanCons },
    { producerRm1 := .usbProd, consumerRm1 := .q6Cons
      producerRm2 := .q6Prod, consumerRm2 := .usbCons },
    { producerRm1 := .wlanProd, consumerRm1 := .usbCons
      producerRm2 := .usbProd, consumerRm2 := .wlanCons },
    { producerRm1 := .oduAdaptProd, consumerRm1 := .q6Cons
      producerRm2 := .q6Prod, consumerRm2 := .oduAdaptCons },
    { producerRm1 := .wlanProd, consumerRm1 := .oduAdaptCons
      producerRm2 := .oduAdaptProd, consumerRm2 := .wlanCons },
    { producerRm1 := .oduAdaptProd, consumerRm1 := .usbCons
      producerRm2 := .usbProd, consumerRm2 := .oduAdaptCons } ]

def init : RmTable := ⟨entries, 0⟩

def addRmDepend (s : RmTable) (rm1 : RmResource) (rxBypassIpa : Bool) : RmTable × List RmIoctl :=
  ({ ipaRmTbl := s.ipaRmTbl.map fun e => (e.add rm1 rxBypassIpa).1
     ipaRmA2Check := if rm1 = .q6Cons then s.ipaRmA2Check + 1 else s.ipaRmA2Check },
    s.ipaRmTbl.flatMap fun e => (e.add rm1 rxBypassIpa).2)

def delRmDepend (s : RmTable) (rm1 : RmResource) : RmTable × List RmIoctl :=
  let ipaRmA2Check := if rm1 = .q6Cons then s.ipaRmA2Check - 1 else s.ipaRmA2Check
  ({ ipaRmTbl := s.ipaRmTbl.map fun e => (e.del rm1 ipaRmA2Check).1
     ipaRmA2Check := ipaRmA2Check },
    s.ipaRmTbl.flatMap fun e => (e.del rm1 ipaRmA2Check).2)

end RmTable

inductive RmCall where
  | add (rm1 : RmResource) (rxBypassIpa : Bool)
  | del (rm1 : RmResource)
deriving DecidableEq

/-- The table, whether each entry was bypassed when it was last set, and what happened so far. -/
structure RmRun where
  table : RmTable
  bypassedWhenSet : List Bool
  ioctls : List RmIoctl
  calls : List RmCall

namespace RmRun

def start : RmRun := ⟨.init, RmTable.entries.map fun _ => false, [], []⟩

def call (table : RmTable) : RmCall → RmTable × List RmIoctl
  | .add rm1 rxBypassIpa => table.addRmDepend rm1 rxBypassIpa
  | .del rm1 => table.delRmDepend rm1

/-- Where the call sets an entry, its bypass is noted. -/
def note (was now : RmClient) (bypassed : Bool) : Bool :=
  if was.rmSet = false ∧ now.rmSet = true then now.rxBypassIpa else bypassed

def step (s : RmRun) (c : RmCall) : Option RmRun :=
  let done := call s.table c
  some { table := done.1
         bypassedWhenSet :=
          ((s.table.ipaRmTbl.zip done.1.ipaRmTbl).zip s.bypassedWhenSet).map fun x =>
            note x.1.1 x.1.2 x.2
         ioctls := s.ioctls ++ done.2
         calls := s.calls ++ [c] }

/-- The entries, each one with its bypass when it was set. -/
def tracked (s : RmRun) : List (RmClient × Bool) := s.table.ipaRmTbl.zip s.bypassedWhenSet

/-- How many times the kernel was told to add a dependency and not yet to delete it. -/
def held (ioctls : List RmIoctl) (dep : RmDependency) : Int :=
  ioctls.count (.add dep) - ioctls.count (.del dep)

/-- How many more calls added a resource than deleted it. -/
def users (calls : List RmCall) (rm : RmResource) : Int :=
  calls.countP (fun c => c = .add rm true ∨ c = .add rm false) - calls.count (.del rm)

structure RmRight (s : RmRun) : Prop where
  set : ∀ e ∈ s.table.ipaRmTbl,
    e.rmSet = true ↔ e.producer1Up = true ∧ e.consumer1Up = true
  first : ∀ x ∈ s.tracked,
    held s.ioctls x.1.dep1 = if x.1.rmSet = true ∧ x.2 = false then 1 else 0
  second : ∀ x ∈ s.tracked, held s.ioctls x.1.dep2 = if x.1.rmSet = true then 1 else 0
  modem : 0 < users s.calls .q6Cons →
    ∀ e ∈ s.table.ipaRmTbl, e.consumerRm1 = .q6Cons → e.consumer1Up = true

def TakesDown (s : RmRun) (rm1 : RmResource) (e : RmClient) : Prop :=
  rm1 = e.producerRm1 ∨
    rm1 = e.consumerRm1 ∧ ¬(rm1 = .q6Cons ∧ s.table.ipaRmA2Check = 2)

/-- At most one more use of the modem is left, and the entries that are taken down have the bypass
they were set with. -/
def Undoes (s : RmRun) : RmCall → Prop
  | .add _ _ => True
  | .del rm1 => (rm1 = .q6Cons → s.table.ipaRmA2Check ≤ 2) ∧
    ∀ x ∈ s.tracked, s.TakesDown rm1 x.1 → x.1.rmSet = true → x.1.rxBypassIpa = x.2

section held

variable {e : RmClient} {dep : RmDependency}

@[simp] theorem held_nil : held [] dep = 0 := rfl

theorem held_append (a b : List RmIoctl) : held (a ++ b) dep = held a dep + held b dep := by
  simp only [held, List.count_append]
  omega

theorem held_biDirection_other (h1 : dep ≠ e.dep1) (h2 : dep ≠ e.dep2) :
    held (e.biDirection .add) dep = 0 ∧ held (e.biDirection .del) dep = 0 := by
  unfold RmClient.biDirection
  split <;> simp [held, h1.symm, h2.symm]

theorem held_flatMap_other {l : List RmClient} {f : RmClient → List RmIoctl}
    (hown : ∀ x ∈ l, ∀ d, d ≠ x.dep1 → d ≠ x.dep2 → held (f x) d = 0)
    (hnone : dep ∉ l.flatMap fun e => [e.dep1, e.dep2]) : held (l.flatMap f) dep = 0 := by
  induction l with
  | nil => rfl
  | cons x l ih =>
    simp only [List.flatMap_cons, List.mem_append, List.mem_cons, List.not_mem_nil, or_false,
      not_or] at hnone
    have hrest := ih (fun y hy => hown y (List.mem_cons_of_mem _ hy)) hnone.2
    rw [List.flatMap_cons, held_append, hown x List.mem_cons_self dep hnone.1.1 hnone.1.2, hrest]
    rfl

theorem held_flatMap {l : List RmClient} {f : RmClient → List RmIoctl}
    (hnodup : (l.flatMap fun e => [e.dep1, e.dep2]).Nodup)
    (hown : ∀ x ∈ l, ∀ d, d ≠ x.dep1 → d ≠ x.dep2 → held (f x) d = 0)
    (he : e ∈ l) (hd : dep ∈ [e.dep1, e.dep2]) : held (l.flatMap f) dep = held (f e) dep := by
  induction l with
  | nil => simp at he
  | cons x l ih =>
    rw [List.flatMap_cons, List.nodup_append] at hnodup
    obtain ⟨-, hrest, hapart⟩ := hnodup
    have hownl : ∀ y ∈ l, ∀ d, d ≠ y.dep1 → d ≠ y.dep2 → held (f y) d = 0 := fun y hy =>
      hown y (List.mem_cons_of_mem _ hy)
    rw [List.flatMap_cons, held_append]
    rcases List.mem_cons.mp he with rfl | he
    · have hnone : dep ∉ l.flatMap fun e => [e.dep1, e.dep2] := fun hin => hapart dep hd dep hin rfl
      rw [held_flatMap_other hownl hnone]
      omega
    · have hin : dep ∈ l.flatMap fun e => [e.dep1, e.dep2] := List.mem_flatMap.mpr ⟨e, he, hd⟩
      have hx : held (f x) dep = 0 := by
        refine hown x List.mem_cons_self dep (fun heq => ?_) fun heq => ?_
        · exact hapart x.dep1 (by simp) dep hin heq.symm
        · exact hapart x.dep2 (by simp) dep hin heq.symm
      rw [hx, ih hrest hownl he]
      omega

end held

/-- What a call does to an entry that is right, and to its dependencies in the kernel. -/
structure Moves (e : RmClient) (bypassed : Bool) (r : RmClient × List RmIoctl) : Prop where
  dep1 : r.1.dep1 = e.dep1
  dep2 : r.1.dep2 = e.dep2
  set : r.1.rmSet = true ↔ r.1.producer1Up = true ∧ r.1.consumer1Up = true
  first : (if e.rmSet = true ∧ bypassed = false then 1 else 0) + held r.2 e.dep1 =
    if r.1.rmSet = true ∧ note e r.1 bypassed = false then 1 else 0
  second : (if e.rmSet = true then 1 else 0) + held r.2 e.dep2 = if r.1.rmSet = true then 1 else 0

section moves

variable {e : RmClient} {bypassed : Bool}

theorem Moves.none (set : e.rmSet = true ↔ e.producer1Up = true ∧ e.consumer1Up = true) :
    Moves e bypassed (e, []) := by
  refine ⟨rfl, rfl, set, ?_, ?_⟩
  · cases h : e.rmSet <;> simp [note, h]
  · simp

theorem addProducer_moves (set : e.rmSet = true ↔ e.producer1Up = true ∧ e.consumer1Up = true)
    (hdep : e.dep1 ≠ e.dep2) (rxBypassIpa : Bool) :
    Moves e bypassed (e.addProducer rxBypassIpa) := by
  unfold RmClient.addProducer
  dsimp only
  split
  next hup =>
    have hioctls : { e with producer1Up := true, rxBypassIpa := rxBypassIpa }.biDirection .add =
        if rxBypassIpa = true then [.add e.dep2] else [.add e.dep1, .add e.dep2] := rfl
    rw [hioctls]
    refine ⟨rfl, rfl, ?_, ?_, ?_⟩
    · simp [hup.1]
    · cases rxBypassIpa <;> simp [held, hup.2, note, hdep.symm]
    · cases rxBypassIpa <;> simp [held, hup.2, hdep]
  next hup =>
    refine ⟨rfl, rfl, ?_, ?_, ?_⟩
    · cases h : e.consumer1Up <;> simp_all
    · cases h : e.rmSet <;> simp [note, h]
    · simp

theorem addConsumer_moves (set : e.rmSet = true ↔ e.producer1Up = true ∧ e.consumer1Up = true)
    (hdep : e.dep1 ≠ e.dep2) : Moves e bypassed e.addConsumer := by
  unfold RmClient.addConsumer
  dsimp only
  split
  next hup =>
    have hioctls : { e with consumer1Up := true }.biDirection .add =
        if e.rxBypassIpa = true then [.add e.dep2] else [.add e.dep1, .add e.dep2] := rfl
    rw [hioctls]
    refine ⟨rfl, rfl, ?_, ?_, ?_⟩
    · simp [hup.1]
    · cases h : e.rxBypassIpa <;> simp [held, hup.2, note, hdep.symm]
    · cases h : e.rxBypassIpa <;> simp [held, hup.2, hdep]
  next hup =>
    refine ⟨rfl, rfl, ?_, ?_, ?_⟩
    · cases h : e.producer1Up <;> simp_all
    · cases h : e.rmSet <;> simp [note, h]
    · simp

theorem takeDown_held (hdep : e.dep1 ≠ e.dep2) :
    ((if e.rmSet = true ∧ bypassed = false then 1 else 0) + held e.takeDown.2 e.dep1 = 0 ↔
      (e.rmSet = true → e.rxBypassIpa = bypassed)) ∧
    (if e.rmSet = true then 1 else 0) + held e.takeDown.2 e.dep2 = 0 := by
  unfold RmClient.takeDown RmClient.biDirection
  cases e.rmSet
  · simp
  · cases e.rxBypassIpa <;> cases bypassed <;> simp [held, hdep, hdep.symm]

theorem takeDown_now (e : RmClient) : e.takeDown.1 = { e with rmSet := false } := by
  unfold RmClient.takeDown
  split
  next => rfl
  next h =>
    have hset : e.rmSet = false := by simpa using h
    rw [← hset]

theorem takeDown_moves (hdep : e.dep1 ≠ e.dep2) {now : RmClient} (dep1 : now.dep1 = e.dep1)
    (dep2 : now.dep2 = e.dep2) (hset : now.rmSet = false)
    (hup : ¬(now.producer1Up = true ∧ now.consumer1Up = true))
    (same : e.rmSet = true → e.rxBypassIpa = bypassed) :
    Moves e bypassed (now, e.takeDown.2) := by
  obtain ⟨hfirst, hsecond⟩ := @takeDown_held e bypassed hdep
  refine ⟨dep1, dep2, ?_, ?_, ?_⟩
  · simp [hset, hup]
  · simpa [hset] using hfirst.mpr same
  · simpa [hset] using hsecond

theorem delProducer_facts : e.delProducer.1.rmSet = false ∧ e.delProducer.1.dep1 = e.dep1 ∧
    e.delProducer.2 = e.takeDown.2 := by
  unfold RmClient.delProducer
  dsimp only
  rw [takeDown_now]
  exact ⟨rfl, rfl, rfl⟩

theorem delConsumer_facts : e.delConsumer.1.rmSet = false ∧ e.delConsumer.1.dep1 = e.dep1 ∧
    e.delConsumer.2 = e.takeDown.2 := by
  unfold RmClient.delConsumer
  dsimp only
  rw [takeDown_now]
  exact ⟨rfl, rfl, rfl⟩

theorem delProducer_moves (hdep : e.dep1 ≠ e.dep2)
    (same : e.rmSet = true → e.rxBypassIpa = bypassed) : Moves e bypassed e.delProducer := by
  unfold RmClient.delProducer
  dsimp only
  rw [takeDown_now]
  exact takeDown_moves hdep rfl rfl rfl (by simp) same

theorem delConsumer_moves (hdep : e.dep1 ≠ e.dep2)
    (same : e.rmSet = true → e.rxBypassIpa = bypassed) : Moves e bypassed e.delConsumer := by
  unfold RmClient.delConsumer
  dsimp only
  rw [takeDown_now]
  exact takeDown_moves hdep rfl rfl rfl (by simp) same

/-- The producer and the consumer of an entry are two resources, and so are its dependencies. -/
def Proper (e : RmClient) : Prop := e.producerRm1 ≠ e.consumerRm1 ∧ e.dep1 ≠ e.dep2

theorem add_producer (proper : Proper e) (rxBypassIpa : Bool) :
    e.add e.producerRm1 rxBypassIpa = e.addProducer rxBypassIpa := by
  simp [RmClient.add, proper.1]

theorem add_consumer (proper : Proper e) (rxBypassIpa : Bool) :
    e.add e.consumerRm1 rxBypassIpa = e.addConsumer := by
  simp [RmClient.add, proper.1.symm]

variable {rm1 : RmResource}

theorem add_neither (hp : rm1 ≠ e.producerRm1) (hc : rm1 ≠ e.consumerRm1)
    (rxBypassIpa : Bool) : e.add rm1 rxBypassIpa = (e, []) := by
  simp [RmClient.add, hp, hc]

theorem del_producer (proper : Proper e) (ipaRmA2Check : Int) :
    e.del e.producerRm1 ipaRmA2Check = e.delProducer := by
  simp [RmClient.del, proper.1]

variable {ipaRmA2Check : Int}

theorem del_consumer (proper : Proper e) (hdown : ¬(e.consumerRm1 = .q6Cons ∧ ipaRmA2Check = 1)) :
    e.del e.consumerRm1 ipaRmA2Check = e.delConsumer := by
  simp [RmClient.del, proper.1.symm, hdown]

theorem del_kept (proper : Proper e) (hkept : e.consumerRm1 = .q6Cons ∧ ipaRmA2Check = 1) :
    e.del e.consumerRm1 ipaRmA2Check = (e, []) := by
  simp only [RmClient.del, if_neg proper.1.symm, if_true, if_pos hkept, List.append_nil]

theorem del_neither (hp : rm1 ≠ e.producerRm1) (hc : rm1 ≠ e.consumerRm1)
    (ipaRmA2Check : Int) : e.del rm1 ipaRmA2Check = (e, []) := by
  simp [RmClient.del, hp, hc]

theorem add_moves (set : e.rmSet = true ↔ e.producer1Up = true ∧ e.consumer1Up = true)
    (proper : Proper e) (rm1 : RmResource) (rxBypassIpa : Bool) :
    Moves e bypassed (e.add rm1 rxBypassIpa) := by
  by_cases hp : rm1 = e.producerRm1
  · rw [hp, add_producer proper]
    exact addProducer_moves set proper.2 rxBypassIpa
  by_cases hc : rm1 = e.consumerRm1
  · rw [hc, add_consumer proper]
    exact addConsumer_moves set proper.2
  · rw [add_neither hp hc]
    exact Moves.none set

def Down (e : RmClient) (rm1 : RmResource) (ipaRmA2Check : Int) : Prop :=
  rm1 = e.producerRm1 ∨ rm1 = e.consumerRm1 ∧ ¬(rm1 = .q6Cons ∧ ipaRmA2Check = 1)

theorem del_down (proper : Proper e) (down : Down e rm1 ipaRmA2Check) :
    e.del rm1 ipaRmA2Check = e.delProducer ∨ e.del rm1 ipaRmA2Check = e.delConsumer := by
  rcases down with rfl | ⟨rfl, hdown⟩
  · exact Or.inl (del_producer proper ipaRmA2Check)
  · exact Or.inr (del_consumer proper hdown)

theorem del_not_down (proper : Proper e)
    (down : ¬Down e rm1 ipaRmA2Check) : e.del rm1 ipaRmA2Check = (e, []) := by
  obtain ⟨hp, hkept⟩ := not_or.mp down
  by_cases hc : rm1 = e.consumerRm1
  · subst hc
    exact del_kept proper (not_not.mp fun hnot => hkept ⟨rfl, hnot⟩)
  · exact del_neither hp hc ipaRmA2Check

theorem del_moves (set : e.rmSet = true ↔ e.producer1Up = true ∧ e.consumer1Up = true)
    (proper : Proper e)
    (same : Down e rm1 ipaRmA2Check → e.rmSet = true → e.rxBypassIpa = bypassed) :
    Moves e bypassed (e.del rm1 ipaRmA2Check) := by
  by_cases hdown : Down e rm1 ipaRmA2Check
  · rcases del_down proper hdown with heq | heq
    · rw [heq]
      exact delProducer_moves proper.2 (same hdown)
    · rw [heq]
      exact delConsumer_moves proper.2 (same hdown)
  · rw [del_not_down proper hdown]
    exact Moves.none set

variable {dep : RmDependency}

theorem addProducer_own (rxBypassIpa : Bool) (h1 : dep ≠ e.dep1)
    (h2 : dep ≠ e.dep2) : held (e.addProducer rxBypassIpa).2 dep = 0 := by
  unfold RmClient.addProducer
  dsimp only
  split
  · exact (held_biDirection_other
      (e := { e with producer1Up := true, rxBypassIpa := rxBypassIpa }) h1 h2).1
  · rfl

theorem addConsumer_own (h1 : dep ≠ e.dep1) (h2 : dep ≠ e.dep2) : held e.addConsumer.2 dep = 0 := by
  unfold RmClient.addConsumer
  dsimp only
  split
  · exact (held_biDirection_other (e := { e with consumer1Up := true }) h1 h2).1
  · rfl

theorem takeDown_own (h1 : dep ≠ e.dep1) (h2 : dep ≠ e.dep2) : held e.takeDown.2 dep = 0 := by
  unfold RmClient.takeDown
  split
  · exact (held_biDirection_other h1 h2).2
  · rfl

def onEntry (table : RmTable) : RmCall → RmClient → RmClient × List RmIoctl
  | .add rm1 rxBypassIpa, e => e.add rm1 rxBypassIpa
  | .del rm1, e =>
    e.del rm1 (if rm1 = .q6Cons then table.ipaRmA2Check - 1 else table.ipaRmA2Check)

theorem call_tbl (table : RmTable) (c : RmCall) :
    (call table c).1.ipaRmTbl = table.ipaRmTbl.map fun e => (onEntry table c e).1 := by
  cases c <;> rfl

theorem call_ioctls (table : RmTable) (c : RmCall) :
    (call table c).2 = table.ipaRmTbl.flatMap fun e => (onEntry table c e).2 := by
  cases c <;> rfl

theorem onEntry_own (proper : Proper e) (table : RmTable) (c : RmCall)
    (h1 : dep ≠ e.dep1) (h2 : dep ≠ e.dep2) : held (onEntry table c e).2 dep = 0 := by
  cases c with
  | add rm1 rxBypassIpa =>
    simp only [onEntry]
    by_cases hp : rm1 = e.producerRm1
    · rw [hp, add_producer proper]
      exact addProducer_own rxBypassIpa h1 h2
    by_cases hc : rm1 = e.consumerRm1
    · rw [hc, add_consumer proper]
      exact addConsumer_own h1 h2
    · rw [add_neither hp hc]
      rfl
  | del rm1 =>
    simp only [onEntry]
    generalize (if rm1 = .q6Cons then table.ipaRmA2Check - 1 else table.ipaRmA2Check) = count
    by_cases hdown : Down e rm1 count
    · rcases del_down proper hdown with heq | heq
      · rw [heq]
        exact takeDown_own h1 h2
      · rw [heq]
        exact takeDown_own h1 h2
    · rw [del_not_down proper hdown]
      rfl

end moves

/-- The resources and dependencies of the entries are those of `Init`. -/
structure Inv (s : RmRun) : Prop where
  right : RmRight s
  names : s.table.ipaRmTbl.map (fun e => (e.dep1, e.dep2)) =
    RmTable.entries.map fun e => (e.dep1, e.dep2)
  length : s.bypassedWhenSet.length = s.table.ipaRmTbl.length
  count : s.table.ipaRmA2Check = users s.calls .q6Cons

section run

variable {s : RmRun}

theorem zip_note {l : List RmClient} {bypassed : List Bool} (h : bypassed.length = l.length)
    (f : RmClient → RmClient) :
    (l.map f).zip (((l.zip (l.map f)).zip bypassed).map fun x => note x.1.1 x.1.2 x.2) =
      (l.zip bypassed).map fun x => (f x.1, note x.1 (f x.1) x.2) := by
  induction l generalizing bypassed with
  | nil => rfl
  | cons e l ih =>
    cases bypassed with
    | nil => simp at h
    | cons b bypassed => simpa using ih (by simpa using h)

theorem Inv.nodup (h : Inv s) : (s.table.ipaRmTbl.flatMap fun e => [e.dep1, e.dep2]).Nodup := by
  have hflat : ∀ l : List RmClient, (l.flatMap fun e => [e.dep1, e.dep2]) =
      (l.map fun e => (e.dep1, e.dep2)).flatMap fun x => [x.1, x.2] := by
    intro l
    rw [List.flatMap_map]
  rw [hflat, h.names]
  decide

variable {e : RmClient}

theorem Inv.proper (h : Inv s) (he : e ∈ s.table.ipaRmTbl) : Proper e := by
  have hall : ∀ x ∈ RmTable.entries.map fun e => (e.dep1, e.dep2),
      x.1.resourceName ≠ x.1.dependsOnName ∧ x.1 ≠ x.2 := by decide
  rw [← h.names] at hall
  exact hall _ (List.mem_map_of_mem he)

theorem Inv.modem_entry (h : Inv s) : ∃ e ∈ s.table.ipaRmTbl, e.consumerRm1 = .q6Cons := by
  have hsome : ∃ x ∈ RmTable.entries.map fun e => (e.dep1, e.dep2),
      x.1.dependsOnName = .q6Cons := by decide
  rw [← h.names] at hsome
  obtain ⟨x, hx, heq⟩ := hsome
  obtain ⟨e, he, rfl⟩ := List.mem_map.mp hx
  exact ⟨e, he, heq⟩

theorem mem_tracked {x : RmClient × Bool} (hx : x ∈ s.tracked) : x.1 ∈ s.table.ipaRmTbl :=
  (List.of_mem_zip hx).1

theorem Inv.held_call (h : Inv s) (c : RmCall) (he : e ∈ s.table.ipaRmTbl)
    {dep : RmDependency} (hdep : dep ∈ [e.dep1, e.dep2]) :
    held (s.ioctls ++ (call s.table c).2) dep =
      held s.ioctls dep + held (onEntry s.table c e).2 dep := by
  rw [held_append, call_ioctls]
  rw [held_flatMap h.nodup (fun x hx d h1 h2 => onEntry_own (h.proper hx) s.table c h1 h2) he hdep]

theorem start_inv : Inv start where
  right := ⟨by decide, by decide, by decide, by decide⟩
  names := rfl
  length := rfl
  count := rfl

theorem Inv.exists_tracked (h : Inv s) (he : e ∈ s.table.ipaRmTbl) :
    ∃ bypassed, (e, bypassed) ∈ s.tracked := by
  have hfst : s.tracked.map (·.1) = s.table.ipaRmTbl := List.map_fst_zip (Nat.le_of_eq h.length.symm)
  grind

theorem takesDown_iff {rm1 : RmResource} : s.TakesDown rm1 e ↔
      Down e rm1 (if rm1 = .q6Cons then s.table.ipaRmA2Check - 1 else s.table.ipaRmA2Check) := by
  grind [TakesDown, Down]

variable {c : RmCall}

theorem Inv.moves (h : Inv s) (good : Undoes s c) {x : RmClient × Bool}
    (hx : x ∈ s.tracked) : Moves x.1 x.2 (onEntry s.table c x.1) := by
  have hset := h.right.set x.1 (mem_tracked hx)
  have hproper := h.proper (mem_tracked hx)
  cases c with
  | add rm1 rxBypassIpa => exact add_moves hset hproper rm1 rxBypassIpa
  | del rm1 =>
    exact del_moves hset hproper fun hdown => good.2 x hx (takesDown_iff.mpr hdown)

theorem users_append (calls : List RmCall) (c : RmCall) :
    users (calls ++ [c]) .q6Cons = users calls .q6Cons + users [c] .q6Cons := by
  simp only [users, List.countP_append, List.count_append]
  omega

theorem Inv.count_call (h : Inv s) (c : RmCall) :
    (call s.table c).1.ipaRmA2Check = users (s.calls ++ [c]) .q6Cons := by
  rw [users_append, ← h.count]
  cases c with
  | add rm1 rxBypassIpa =>
    by_cases hq : rm1 = .q6Cons
    · cases rxBypassIpa <;> simp [call, RmTable.addRmDepend, users, hq]
    · simp [call, RmTable.addRmDepend, users, hq]
  | del rm1 =>
    by_cases hq : rm1 = .q6Cons
    · simp [call, RmTable.delRmDepend, users, hq]
      rfl
    · simp [call, RmTable.delRmDepend, users, hq]

theorem Inv.modem_call (h : Inv s) (good : Undoes s c)
    (husers : 0 < (call s.table c).1.ipaRmA2Check) (he : e ∈ s.table.ipaRmTbl)
    (hq : e.consumerRm1 = .q6Cons) : (onEntry s.table c e).1.consumer1Up = true := by
  have hproper := h.proper he
  have hup : 0 < s.table.ipaRmA2Check → e.consumer1Up = true := fun hpos =>
    h.right.modem (h.count ▸ hpos) e he hq
  cases c with
  | add rm1 rxBypassIpa =>
    simp only [onEntry]
    by_cases hc : rm1 = e.consumerRm1
    · rw [hc, add_consumer hproper]
      unfold RmClient.addConsumer
      dsimp only
      split <;> rfl
    · have hpos : 0 < s.table.ipaRmA2Check := by
        simpa [call, RmTable.addRmDepend, ← hq, hc] using husers
      by_cases hp : rm1 = e.producerRm1
      · rw [hp, add_producer hproper]
        unfold RmClient.addProducer
        dsimp only
        split <;> exact hup hpos
      · rw [add_neither hp hc]
        exact hup hpos
  | del rm1 =>
    simp only [onEntry]
    by_cases hc : rm1 = e.consumerRm1
    · subst hc
      have hleft : 0 < s.table.ipaRmA2Check - 1 := by
        simpa [call, RmTable.delRmDepend, hq] using husers
      have hle := good.1 hq
      rw [if_pos hq, del_kept hproper ⟨hq, by omega⟩]
      exact hup (by omega)
    · have hpos : 0 < s.table.ipaRmA2Check := by
        simpa [call, RmTable.delRmDepend, ← hq, hc] using husers
      by_cases hp : rm1 = e.producerRm1
      · rw [hp, del_producer hproper]
        unfold RmClient.delProducer
        dsimp only
        rw [takeDown_now]
        exact hup hpos
      · rw [del_neither hp hc]
        exact hup hpos

theorem Inv.tracked_call (h : Inv s) (c : RmCall) {t : RmRun} (ht : step s c = some t) :
    t.tracked = s.tracked.map fun x =>
      ((onEntry s.table c x.1).1, note x.1 (onEntry s.table c x.1).1 x.2) := by
  cases Option.some.inj ht
  simp only [tracked, call_tbl]
  exact zip_note h.length _

theorem Inv.keeps (h : Inv s) (good : Undoes s c) {t : RmRun} (ht : step s c = some t) : Inv t := by
  have htracked := h.tracked_call c ht
  cases Option.some.inj ht
  refine ⟨⟨?_, ?_, ?_, ?_⟩, ?_, ?_, h.count_call c⟩
  · dsimp only
    intro e he
    rw [call_tbl] at he
    obtain ⟨old, hold, rfl⟩ := List.mem_map.mp he
    obtain ⟨bypassed, hx⟩ := h.exists_tracked hold
    exact (h.moves good hx).set
  · intro y hy
    rw [htracked] at hy
    obtain ⟨x, hx, rfl⟩ := List.mem_map.mp hy
    have hmoves := h.moves good hx
    have hheld := h.held_call c (mem_tracked hx) (List.mem_cons_self (a := x.1.dep1))
    dsimp only
    rw [hmoves.dep1, hheld, h.right.first x hx, hmoves.first]
  · intro y hy
    rw [htracked] at hy
    obtain ⟨x, hx, rfl⟩ := List.mem_map.mp hy
    have hmoves := h.moves good hx
    have hheld := h.held_call c (mem_tracked hx) (by simp : x.1.dep2 ∈ [x.1.dep1, x.1.dep2])
    dsimp only
    rw [hmoves.dep2, hheld, h.right.second x hx, hmoves.second]
  · dsimp only
    intro husers e he hq
    rw [← h.count_call c] at husers
    rw [call_tbl] at he
    obtain ⟨old, hold, rfl⟩ := List.mem_map.mp he
    obtain ⟨bypassed, hx⟩ := h.exists_tracked hold
    have hname : (onEntry s.table c old).1.consumerRm1 = old.consumerRm1 :=
      congrArg RmDependency.dependsOnName (h.moves good hx).dep1
    exact h.modem_call good husers hold (hname ▸ hq)
  · dsimp only
    rw [call_tbl, List.map_map, ← h.names]
    refine List.map_congr_left fun e he => ?_
    obtain ⟨bypassed, hx⟩ := h.exists_tracked he
    have hmoves := h.moves good hx
    simp only [Function.comp, hmoves.dep1, hmoves.dep2]
  · simp [call_tbl, h.length]

theorem Inv.breaks (h : Inv s) (bad : ¬Undoes s c) : ∃ t, step s c = some t ∧ ¬RmRight t := by
  cases c with
  | add rm1 rxBypassIpa => exact absurd trivial bad
  | del rm1 =>
    refine ⟨_, rfl, fun hright => bad ⟨?_, fun x hx hdown hset => ?_⟩⟩
    · rintro rfl
      by_contra hmany
      obtain ⟨e, he, hq⟩ := h.modem_entry
      have hpos : 0 < users (s.calls ++ [.del .q6Cons]) .q6Cons := by
        rw [← h.count_call]
        simp only [call, RmTable.delRmDepend, if_true]
        omega
      have hdel : onEntry s.table (.del .q6Cons) e = e.delConsumer := by
        have hother : ¬(e.consumerRm1 = .q6Cons ∧ s.table.ipaRmA2Check - 1 = 1) := by omega
        have hcons := del_consumer (h.proper he) hother
        rwa [hq] at hcons
      have hname : e.delConsumer.1.consumerRm1 = .q6Cons := by
        unfold RmClient.delConsumer
        dsimp only
        rw [takeDown_now]
        exact hq
      have hin : e.delConsumer.1 ∈ (call s.table (.del .q6Cons)).1.ipaRmTbl := by
        rw [call_tbl, ← hdel]
        exact List.mem_map_of_mem (f := fun e => (onEntry s.table (.del .q6Cons) e).1) he
      exact Bool.noConfusion (hright.modem hpos _ hin hname)
    · have hproper := h.proper (mem_tracked hx)
      have hy : ((onEntry s.table (.del rm1) x.1).1,
          note x.1 (onEntry s.table (.del rm1) x.1).1 x.2) ∈
            s.tracked.map fun x => ((onEntry s.table (.del rm1) x.1).1,
              note x.1 (onEntry s.table (.del rm1) x.1).1 x.2) := List.mem_map_of_mem hx
      rw [← h.tracked_call (.del rm1) rfl] at hy
      have hfirst := hright.first _ hy
      have hheld := h.held_call (.del rm1) (mem_tracked hx) (List.mem_cons_self (a := x.1.dep1))
      have hdel : (onEntry s.table (.del rm1) x.1).1.rmSet = false ∧
          (onEntry s.table (.del rm1) x.1).1.dep1 = x.1.dep1 ∧
          (onEntry s.table (.del rm1) x.1).2 = x.1.takeDown.2 := by
        rcases del_down hproper (takesDown_iff.mp hdown) with heq | heq
        · have hentry : onEntry s.table (.del rm1) x.1 = x.1.delProducer := heq
          rw [hentry]
          exact delProducer_facts
        · have hentry : onEntry s.table (.del rm1) x.1 = x.1.delConsumer := heq
          rw [hentry]
          exact delConsumer_facts
      dsimp only at hfirst
      rw [hdel.2.1, hheld, h.right.first x hx, hdel.2.2, hdel.1] at hfirst
      exact (takeDown_held hproper.2).1.mp (by simpa using hfirst) hset

end run

/-- The dependencies are right after every call exactly if no call for the modem leaves more than one
use, and each entry that is taken down has the bypass it was set with. -/
theorem rmRight_iff (calls : List RmCall) :
    Always step RmRight start calls ↔ OpsMeet step Undoes start calls :=
  always_iff_of_keeps (fun _ hs => hs.right) (fun _ _ _ hs _ good ht => hs.keeps good ht)
    (fun _ _ hs _ bad => hs.breaks bad) start_inv (opsMeet_true start calls)

/-- The first of three users of the modem leaves. -/
def threeUsers : List RmCall :=
  [.add .q6Cons false, .add .q6Cons false, .add .q6Cons false, .del .q6Cons]

/-- The modem goes down with the first of three users. -/
theorem threeUsers_down : ¬Always step RmRight start threeUsers := by
  intro always
  obtain ⟨s, hs, husers, e, he, hq, hdown⟩ : ∃ s, runOps step start threeUsers = some s ∧
      0 < users s.calls .q6Cons ∧
      ∃ e ∈ s.table.ipaRmTbl, e.consumerRm1 = .q6Cons ∧ e.consumer1Up = false :=
    ⟨_, rfl, by decide, by decide⟩
  have hup := (always.last hs).modem husers e he hq
  exact Bool.noConfusion (hdown.symm.trans hup)

/-- A bypass that changes while the dependency is set deletes what was never added. -/
example : ((runOps step start [.add .usbProd true, .add .q6Cons false, .add .usbProd false,
    .del .usbProd]).map fun s => held s.ioctls ⟨.usbProd, .q6Cons⟩) = some (-1) := by decide

end RmRun

end DeviceHal.Ipacm
