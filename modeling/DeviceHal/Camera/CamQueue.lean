import Mathlib.Data.List.Perm.Subperm
import DeviceHal.Camera.CmdThread
import DeviceHal.Camera.JpegCompletion
import DeviceHal.Lib.CText
import DeviceHal.Lib.Chain
import DeviceHal.Lib.Outputs

namespace DeviceHal.Camera

open DeviceHal.Lib

namespace QCameraQueue

variable {α : Type}

def dequeueMatch (fits : α → Bool) (q : QCameraQueue α) : Option α × QCameraQueue α :=
  if q.active then (q.nodes.find? fits, { q with nodes := q.nodes.eraseP fits }) else (none, q)

end QCameraQueue

/-- `camera_q_node`, its links being those of its `cam_list`. -/
structure CameraQNode where
  next : Nat
  prev : Nat
  data : Option Nat

/-- The nodes by their addresses. A read or a write through any other address is `none`. -/
abbrev CamMem := Nat → Option CameraQNode

namespace CamMem

def readNext (p : Nat) (mem : CamMem) : Option Nat := (mem p).map CameraQNode.next

def readPrev (p : Nat) (mem : CamMem) : Option Nat := (mem p).map CameraQNode.prev

def readData (p : Nat) (mem : CamMem) : Option (Option Nat) := (mem p).map CameraQNode.data

def setNext (p next : Nat) (mem : CamMem) : Option CamMem :=
  (mem p).map fun node => Function.update mem p (some { node with next })

def setPrev (p prev : Nat) (mem : CamMem) : Option CamMem :=
  (mem p).map fun node => Function.update mem p (some { node with prev })

/-- A node from `malloc`, with `memset` and its data set. -/
def newNode (p : Nat) (data : Option Nat) (mem : CamMem) : CamMem :=
  Function.update mem p (some { next := 0, prev := 0, data })

def free (p : Nat) (mem : CamMem) : CamMem := Function.update mem p none

end CamMem

def camListAddTailNode (item head : Nat) (mem : CamMem) : Option CamMem := do
  let prev ← mem.readPrev head
  let mem ← mem.setPrev head item
  let mem ← mem.setNext item head
  let mem ← mem.setPrev item prev
  mem.setNext prev item

def camListDelNode (ptr : Nat) (mem : CamMem) : Option CamMem := do
  let prev ← mem.readPrev ptr
  let next ← mem.readNext ptr
  let mem ← mem.setPrev next (← mem.readPrev ptr)
  let mem ← mem.setNext prev (← mem.readNext ptr)
  let mem ← mem.setNext ptr ptr
  mem.setPrev ptr ptr

/-- What a call returns. -/
inductive QueueRet where
  | done
  | accepted (rc : Bool)
  | data (data : Option Nat)
  | flag (flag : Bool)
  | size (size : Int)
deriving DecidableEq

/-- The queue over the nodes of the heap. `head` is the address of `m_head`, `dataFn` whether
`m_dataFn` is set. History: what the calls returned, the data that were accepted and dequeued, those
`m_dataFn` was called for and those that were freed. -/
structure CamQueue where
  head : Nat
  mem : CamMem
  mSize : Int := 0
  mActive : Bool := true
  dataFn : Bool
  rets : List QueueRet := []
  accepted : List Nat := []
  dequeued : List Nat := []
  released : List Nat := []
  freed : List Nat := []

/-- A call. `place` is the address `malloc` returns, `fits` the callback with what it is given, none
where it is `NULL`. -/
inductive QueueOp where
  | enqueue (data place : Option Nat)
  | enqueueWithPriority (data place : Option Nat)
  | dequeue (bFromHead : Bool)
  | dequeueMatch (fits : Option (Option Nat → Bool))
  | flushNodes (fits : Option (Option Nat → Bool))
  | flush
  | init
  | isEmpty
  | getCurrentSize

def QueueOp.place : QueueOp → Option Nat
  | enqueue _ place => place
  | enqueueWithPriority _ place => place
  | dequeue _ => none
  | dequeueMatch _ => none
  | flushNodes _ => none
  | flush => none
  | init => none
  | isEmpty => none
  | getCurrentSize => none

namespace CamQueue

/-- The queue after its constructor, which links the head to itself. -/
def new (head : Nat) (dataFn : Bool) : CamQueue :=
  { head
    mem := Function.update (fun _ => none) head (some { next := head, prev := head, data := none })
    dataFn }

def returns (ret : QueueRet) (q : CamQueue) : CamQueue := { q with rets := q.rets ++ [ret] }

/-- `link` links the new node in. -/
def enqueueBy (link : Nat → Nat → CamMem → Option CamMem) (data place : Option Nat)
    (q : CamQueue) : Option CamQueue :=
  match place with
  | none => some (q.returns (.accepted false))
  | some node =>
    let mem := q.mem.newNode node data
    if q.mActive then do
      let mem ← link node q.head mem
      let q := { q with
        mem
        mSize := toInt32 (q.mSize + 1)
        accepted := q.accepted ++ data.toList }
      some (q.returns (.accepted true))
    else some ({ q with mem := mem.free node }.returns (.accepted false))

def enqueue (data place : Option Nat) (q : CamQueue) : Option CamQueue :=
  q.enqueueBy camListAddTailNode data place

def linkFirst (node head : Nat) (mem : CamMem) : Option CamMem := do
  let pNext ← mem.readNext head
  let mem ← mem.setNext head node
  let mem ← mem.setPrev pNext node
  let mem ← mem.setNext node pNext
  mem.setPrev node head

def enqueueWithPriority (data place : Option Nat) (q : CamQueue) : Option CamQueue :=
  q.enqueueBy linkFirst data place

def takeNode (node : Nat) (q : CamQueue) : Option (Option Nat × CamQueue) := do
  let mem ← camListDelNode node q.mem
  let data ← mem.readData node
  some (data, { q with mem := mem.free node, mSize := toInt32 (q.mSize - 1) })

def returnsData (data : Option Nat) (q : CamQueue) : CamQueue :=
  { q with dequeued := q.dequeued ++ data.toList }.returns (.data data)

def dequeue (bFromHead : Bool) (q : CamQueue) : Option CamQueue :=
  if q.mActive then do
    let pos ← if bFromHead then q.mem.readNext q.head else q.mem.readPrev q.head
    if pos = q.head then some (q.returnsData none)
    else do
      let (data, q) ← q.takeNode pos
      some (q.returnsData data)
  else some (q.returnsData none)

/-- The loop of `dequeue(match)`. A loop that has not come round to the head after `fuel` nodes is
`none`. -/
def dequeueMatchLoop (fits : Option Nat → Bool) : Nat → Nat → CamQueue → Option CamQueue
  | 0, pos, q => if pos = q.head then some (q.returnsData none) else none
  | fuel + 1, pos, q =>
    if pos = q.head then some (q.returnsData none)
    else do
      let node := pos
      let pos ← q.mem.readNext pos
      if node ≠ 0 then
        if fits (← q.mem.readData node) then do
          let (data, q) ← q.takeNode node
          some (q.returnsData data)
        else dequeueMatchLoop fits fuel pos q
      else dequeueMatchLoop fits fuel pos q

def dequeueMatch (fits : Option (Option Nat → Bool)) (q : CamQueue) : Option CamQueue :=
  match fits with
  | none => some (q.returnsData none)
  | some fits =>
    if q.mActive then do
      let pos ← q.mem.readNext q.head
      q.dequeueMatchLoop fits q.mSize.toNat pos
    else some (q.returnsData none)

/-- Data other than `NULL` are passed to `m_dataFn`, if it is set, and freed. -/
def releaseData (data : Option Nat) (q : CamQueue) : CamQueue :=
  { q with
    released := if q.dataFn then q.released ++ data.toList else q.released
    freed := q.freed ++ data.toList }

/-- The loop of `flushNodes`, and with a callback that takes every node that of `flush`. -/
def flushLoop (fits : Option Nat → Bool) : Nat → Nat → CamQueue → Option CamQueue
  | 0, pos, q => if pos = q.head then some q else none
  | fuel + 1, pos, q =>
    if pos = q.head then some q
    else do
      let node := pos
      let pos ← q.mem.readNext pos
      if fits (← q.mem.readData node) then do
        let (data, q) ← q.takeNode node
        flushLoop fits fuel pos (q.releaseData data)
      else flushLoop fits fuel pos q

def flush (q : CamQueue) : Option CamQueue :=
  if q.mActive then do
    let pos ← q.mem.readNext q.head
    let q ← q.flushLoop (fun _ => true) q.mSize.toNat pos
    some ({ q with mSize := 0, mActive := false }.returns .done)
  else some (q.returns .done)

def flushNodes (fits : Option (Option Nat → Bool)) (q : CamQueue) : Option CamQueue :=
  match fits with
  | none => some (q.returns .done)
  | some fits =>
    if q.mActive then do
      let pos ← q.mem.readNext q.head
      let q ← q.flushLoop fits q.mSize.toNat pos
      some (q.returns .done)
    else some (q.returns .done)

def init (q : CamQueue) : CamQueue := { q with mActive := true }.returns .done

def isEmpty (q : CamQueue) : Bool := if q.mSize > 0 then false else true

def getCurrentSize (q : CamQueue) : Int := q.mSize

def step (q : CamQueue) : QueueOp → Option CamQueue
  | .enqueue data place => q.enqueue data place
  | .enqueueWithPriority data place => q.enqueueWithPriority data place
  | .dequeue bFromHead => q.dequeue bFromHead
  | .dequeueMatch fits => q.dequeueMatch fits
  | .flushNodes fits => q.flushNodes fits
  | .flush => q.flush
  | .init => some q.init
  | .isEmpty => some (q.returns (.flag q.isEmpty))
  | .getCurrentSize => some (q.returns (.size q.getCurrentSize))

/-- Where the 32 bit `malloc` can place a node. -/
def Place (p : Nat) : Prop := p ≠ 0 ∧ p % 8 = 0 ∧ p < 2 ^ 32

instance (p : Nat) : Decidable (Place p) := inferInstanceAs (Decidable (_ ∧ _ ∧ _))

/-- `malloc` returns `NULL` or memory that is not in use. -/
def Mallocs (q : CamQueue) (op : QueueOp) : Prop :=
  ∀ p ∈ op.place, Place p ∧ (q.mem p).isNone = true

instance (q : CamQueue) (op : QueueOp) : Decidable (q.Mallocs op) :=
  inferInstanceAs (Decidable (∀ p ∈ op.place, _))

end CamQueue

/-- What a call does to the sequence of the data. -/
def queueSpec (q : QCameraQueue (Option Nat)) : QueueOp → QCameraQueue (Option Nat) × QueueRet
  | .enqueue data place => ((q.enqueue data place.isSome).2, .accepted (q.enqueue data place.isSome).1)
  | .enqueueWithPriority data place =>
    ((q.enqueueWithPriority data place.isSome).2,
      .accepted (q.enqueueWithPriority data place.isSome).1)
  | .dequeue bFromHead =>
    if bFromHead then (q.dequeue.2, .data q.dequeue.1.join)
    else (q.dequeueLast.2, .data q.dequeueLast.1.join)
  | .dequeueMatch none => (q, .data none)
  | .dequeueMatch (some fits) => ((q.dequeueMatch fits).2, .data (q.dequeueMatch fits).1.join)
  | .flushNodes none => (q, .done)
  | .flushNodes (some fits) => ((q.flushNodes fits).2, .done)
  | .flush => (q.flush.2, .done)
  | .init => (q.init, .done)
  | .isEmpty => (q, .flag q.isEmpty)
  | .getCurrentSize => (q, .size q.nodes.length)

namespace CamMem

def nextAt (mem : CamMem) (p : Nat) : Nat := (mem.readNext p).getD 0

def prevAt (mem : CamMem) (p : Nat) : Nat := (mem.readPrev p).getD 0

def dataAt (mem : CamMem) (p : Nat) : Option Nat := (mem.readData p).getD none

def used (mem : CamMem) (p : Nat) : Bool := (mem p).isSome

/-- `mem'` has the nodes of `mem` with these links. -/
structure Relinked (mem mem' : CamMem) (next prev : Nat → Nat) : Prop where
  next : mem'.nextAt = next
  prev : mem'.prevAt = prev
  data : mem'.dataAt = mem.dataAt
  used : mem'.used = mem.used

variable {mem mem' : CamMem} {p v : Nat}

theorem readNext_eq (h : mem.used p = true) : mem.readNext p = some (mem.nextAt p) := by
  obtain ⟨node, hnode⟩ := Option.isSome_iff_exists.mp h
  simp [nextAt, readNext, hnode]

theorem readPrev_eq (h : mem.used p = true) : mem.readPrev p = some (mem.prevAt p) := by
  obtain ⟨node, hnode⟩ := Option.isSome_iff_exists.mp h
  simp [prevAt, readPrev, hnode]

theorem readData_eq (h : mem.used p = true) : mem.readData p = some (mem.dataAt p) := by
  obtain ⟨node, hnode⟩ := Option.isSome_iff_exists.mp h
  simp [dataAt, readData, hnode]

theorem setNext_spec (v : Nat) (h : mem.used p = true) : ∃ mem', mem.setNext p v = some mem' ∧
    Relinked mem mem' (Function.update mem.nextAt p v) mem.prevAt := by
  obtain ⟨node, hnode⟩ := Option.isSome_iff_exists.mp h
  refine ⟨_, congrArg (Option.map _) hnode, ?_, ?_, ?_, ?_⟩ <;> funext x <;>
    by_cases hx : x = p <;>
    simp [nextAt, prevAt, dataAt, CamMem.used, readNext, readPrev, readData, hx, hnode]

theorem setPrev_spec (v : Nat) (h : mem.used p = true) : ∃ mem', mem.setPrev p v = some mem' ∧
    Relinked mem mem' mem.nextAt (Function.update mem.prevAt p v) := by
  obtain ⟨node, hnode⟩ := Option.isSome_iff_exists.mp h
  refine ⟨_, congrArg (Option.map _) hnode, ?_, ?_, ?_, ?_⟩ <;> funext x <;>
    by_cases hx : x = p <;>
    simp [nextAt, prevAt, dataAt, CamMem.used, readNext, readPrev, readData, hx, hnode]

end CamMem

variable {mem : CamMem} {head item ptr : Nat}

theorem camListAddTailNode_spec (hhead : mem.used head = true) (hitem : mem.used item = true)
    (hprev : mem.used (mem.prevAt head) = true) :
    ∃ mem', camListAddTailNode item head mem = some mem' ∧
      mem.Relinked mem' (Function.update (Function.update mem.nextAt item head) (mem.prevAt head) item)
        (Function.update (Function.update mem.prevAt head item) item (mem.prevAt head)) := by
  obtain ⟨mem₁, h₁, w₁⟩ := CamMem.setPrev_spec item hhead
  obtain ⟨mem₂, h₂, w₂⟩ := CamMem.setNext_spec head ((congrFun w₁.used _).trans hitem)
  obtain ⟨mem₃, h₃, w₃⟩ := CamMem.setPrev_spec (mem.prevAt head)
    ((congrFun (w₂.used.trans w₁.used) _).trans hitem)
  obtain ⟨mem₄, h₄, w₄⟩ := CamMem.setNext_spec item
    ((congrFun (w₃.used.trans (w₂.used.trans w₁.used)) _).trans hprev)
  refine ⟨mem₄, ?_, ?_, ?_, ?_, ?_⟩
  · unfold camListAddTailNode
    simp only [CamMem.readPrev_eq hhead, h₁, h₂, h₃, h₄, Option.bind_eq_bind, Option.bind_some]
  · rw [w₄.next, w₃.next, w₂.next, w₁.next]
  · rw [w₄.prev, w₃.prev, w₂.prev, w₁.prev]
  · rw [w₄.data, w₃.data, w₂.data, w₁.data]
  · rw [w₄.used, w₃.used, w₂.used, w₁.used]

theorem linkFirst_spec (hhead : mem.used head = true) (hitem : mem.used item = true)
    (hnext : mem.used (mem.nextAt head) = true) :
    ∃ mem', CamQueue.linkFirst item head mem = some mem' ∧
      mem.Relinked mem' (Function.update (Function.update mem.nextAt head item) item (mem.nextAt head))
        (Function.update (Function.update mem.prevAt (mem.nextAt head) item) item head) := by
  obtain ⟨mem₁, h₁, w₁⟩ := CamMem.setNext_spec item hhead
  obtain ⟨mem₂, h₂, w₂⟩ := CamMem.setPrev_spec item ((congrFun w₁.used _).trans hnext)
  obtain ⟨mem₃, h₃, w₃⟩ := CamMem.setNext_spec (mem.nextAt head)
    ((congrFun (w₂.used.trans w₁.used) _).trans hitem)
  obtain ⟨mem₄, h₄, w₄⟩ := CamMem.setPrev_spec head
    ((congrFun (w₃.used.trans (w₂.used.trans w₁.used)) _).trans hitem)
  refine ⟨mem₄, ?_, ?_, ?_, ?_, ?_⟩
  · unfold CamQueue.linkFirst
    simp only [CamMem.readNext_eq hhead, h₁, h₂, h₃, h₄, Option.bind_eq_bind, Option.bind_some]
  · rw [w₄.next, w₃.next, w₂.next, w₁.next]
  · rw [w₄.prev, w₃.prev, w₂.prev, w₁.prev]
  · rw [w₄.data, w₃.data, w₂.data, w₁.data]
  · rw [w₄.used, w₃.used, w₂.used, w₁.used]

theorem camListDelNode_spec (hptr : mem.used ptr = true) (hprev : mem.used (mem.prevAt ptr) = true)
    (hnext : mem.used (mem.nextAt ptr) = true) :
    ∃ mem', camListDelNode ptr mem = some mem' ∧
      mem.Relinked mem'
        (Function.update (Function.update mem.nextAt (mem.prevAt ptr) (mem.nextAt ptr)) ptr ptr)
        (Function.update (Function.update mem.prevAt (mem.nextAt ptr) (mem.prevAt ptr)) ptr ptr) := by
  obtain ⟨mem₁, h₁, w₁⟩ := CamMem.setPrev_spec (mem.prevAt ptr) hnext
  obtain ⟨mem₂, h₂, w₂⟩ := CamMem.setNext_spec (mem.nextAt ptr)
    ((congrFun w₁.used _).trans hprev)
  obtain ⟨mem₃, h₃, w₃⟩ := CamMem.setNext_spec ptr
    ((congrFun (w₂.used.trans w₁.used) _).trans hptr)
  obtain ⟨mem₄, h₄, w₄⟩ := CamMem.setPrev_spec ptr
    ((congrFun (w₃.used.trans (w₂.used.trans w₁.used)) _).trans hptr)
  have hread : mem₁.readNext ptr = some (mem.nextAt ptr) := by
    rw [CamMem.readNext_eq (by rw [w₁.used, hptr]), w₁.next]
  refine ⟨mem₄, ?_, ?_, ?_, ?_, ?_⟩
  · unfold camListDelNode
    simp only [CamMem.readPrev_eq hptr, CamMem.readNext_eq hptr, h₁, hread, h₂, h₃, h₄,
      Option.bind_eq_bind, Option.bind_some]
  · rw [w₄.next, w₃.next, w₂.next, w₁.next]
  · rw [w₄.prev, w₃.prev, w₂.prev, w₁.prev]
  · rw [w₄.data, w₃.data, w₂.data, w₁.data]
  · rw [w₄.used, w₃.used, w₂.used, w₁.used]

namespace CamMem

variable {p x : Nat} {data : Option Nat}

@[simp] theorem newNode_used : (mem.newNode p data).used p = true := by simp [newNode, used]

@[simp] theorem newNode_dataAt : (mem.newNode p data).dataAt p = data := by
  simp [newNode, dataAt, readData]

@[simp] theorem free_used : (mem.free p).used p = false := by simp [free, used]

theorem newNode_other (h : x ≠ p) : mem.newNode p data x = mem x := Function.update_of_ne h _ _

theorem free_other (h : x ≠ p) : mem.free p x = mem x := Function.update_of_ne h _ _

theorem free_newNode (h : (mem p).isNone = true) : (mem.newNode p data).free p = mem := by
  unfold free newNode
  rw [Function.update_idem, ← Option.isNone_iff_eq_none.mp h, Function.update_eq_self]

variable {mem' : CamMem}

theorem nextAt_congr (h : mem' x = mem x) : mem'.nextAt x = mem.nextAt x := by
  simp only [nextAt, readNext, h]

theorem prevAt_congr (h : mem' x = mem x) : mem'.prevAt x = mem.prevAt x := by
  simp only [prevAt, readPrev, h]

theorem dataAt_congr (h : mem' x = mem x) : mem'.dataAt x = mem.dataAt x := by
  simp only [dataAt, readData, h]

theorem used_congr (h : mem' x = mem x) : mem'.used x = mem.used x := by simp only [used, h]

end CamMem

/-- The heap holds the ring of the entries, addresses with their data, and nothing else. -/
structure Holds (head : Nat) (mem : CamMem) (size : Int) (entries : List (Nat × Option Nat)) :
    Prop where
  ring : Ring mem.nextAt mem.prevAt head (entries.map Prod.fst)
  data : ∀ e ∈ entries, mem.dataAt e.1 = e.2
  used : ∀ p, mem.used p = true ↔ p ∈ head :: entries.map Prod.fst
  size : size = entries.length
  place : ∀ e ∈ entries, CamQueue.Place e.1

namespace Holds

variable {size : Int} {entries l r : List (Nat × Option Nat)} {p : Nat} {data : Option Nat}

theorem length_le (h : Holds head mem size entries) : entries.length ≤ 2 ^ 29 := by
  have hinj : (entries.map fun e => e.1 / 8).Nodup := by
    rw [show (fun e : Nat × Option Nat => e.1 / 8) = (· / 8) ∘ Prod.fst from rfl, ← List.map_map]
    refine List.Nodup.map_on (fun x hx y hy he => ?_) (List.nodup_cons.mp h.ring.nodup).2
    obtain ⟨e, hemem, rfl⟩ := List.mem_map.mp hx
    obtain ⟨e', hemem', rfl⟩ := List.mem_map.mp hy
    have halign := (h.place e hemem).2.1
    have halign' := (h.place e' hemem').2.1
    omega
  have hsub : (entries.map fun e => e.1 / 8) ⊆ List.range (2 ^ 29) := by
    intro x hx
    obtain ⟨e, hemem, rfl⟩ := List.mem_map.mp hx
    have hlt := (h.place e hemem).2.2
    exact List.mem_range.mpr (by omega)
  have hle := (List.subperm_of_subset hinj hsub).length_le
  rwa [List.length_map, List.length_range] at hle

theorem head_used (h : Holds head mem size entries) : mem.used head = true :=
  (h.used head).mpr List.mem_cons_self

theorem unused (h : Holds head mem size entries) (hp : (mem p).isNone = true) :
    p ∉ head :: entries.map Prod.fst := by
  intro hmem
  have hused := (h.used p).mpr hmem
  rw [CamMem.used, Option.isNone_iff_eq_none.mp hp] at hused
  cases hused

theorem nextAt_mem (h : Holds head mem size entries) :
    mem.nextAt head ∈ head :: entries.map Prod.fst := by
  rw [h.ring.first]
  cases entries with
  | nil => exact List.mem_cons_self
  | cons e rest => exact List.mem_cons_of_mem _ List.mem_cons_self

theorem prevAt_mem (h : Holds head mem size entries) :
    mem.prevAt head ∈ head :: entries.map Prod.fst := by
  rw [h.ring.back]
  exact lastCell_mem head _

theorem insert (h : Holds head mem size (l ++ r)) (hplace : CamQueue.Place p)
    (hp : (mem p).isNone = true) {mem' : CamMem} {next prev : Nat → Nat}
    (w : (mem.newNode p data).Relinked mem' next prev)
    (hring : Ring next prev head ((l ++ (p, data) :: r).map Prod.fst)) :
    Holds head mem' (toInt32 (size + 1)) (l ++ (p, data) :: r) := by
  have hout := h.unused hp
  have hmem : ∀ e, e ∈ l ++ (p, data) :: r ↔ e = (p, data) ∨ e ∈ l ++ r := by
    intro e
    simp only [List.mem_append, List.mem_cons]
    tauto
  refine ⟨?_, fun e he => ?_, fun x => ?_, ?_, fun e he => ?_⟩
  · rw [w.next, w.prev]
    exact hring
  · rw [w.data]
    rcases (hmem e).mp he with rfl | he
    · exact CamMem.newNode_dataAt
    · have hne : e.1 ≠ p := fun heq =>
        hout (heq ▸ List.mem_cons_of_mem head (List.mem_map_of_mem he))
      rw [CamMem.dataAt_congr (CamMem.newNode_other hne), h.data e he]
  · have hx : x ∈ head :: (l ++ (p, data) :: r).map Prod.fst ↔
        x = p ∨ x ∈ head :: (l ++ r).map Prod.fst := by
      simp only [List.map_append, List.map_cons, List.mem_cons, List.mem_append]
      tauto
    rw [w.used, hx, ← h.used x]
    by_cases heq : x = p
    · simp [heq]
    · simp [heq, CamMem.used_congr (CamMem.newNode_other heq)]
  · have hle := h.length_le
    rw [List.length_append] at hle
    have hsize : size + 1 = ((l ++ (p, data) :: r).length : Nat) := by
      rw [h.size, List.length_append, List.length_append, List.length_cons]
      omega
    rw [hsize, toInt32_of_lt]
    rw [List.length_append, List.length_cons]
    omega
  · rcases (hmem e).mp he with rfl | he
    · exact hplace
    · exact h.place e he

theorem addTail (h : Holds head mem size entries) (data : Option Nat) (hplace : CamQueue.Place p)
    (hp : (mem p).isNone = true) :
    ∃ mem', camListAddTailNode p head (mem.newNode p data) = some mem' ∧
      Holds head mem' (toInt32 (size + 1)) (entries ++ [(p, data)]) := by
  have hout := h.unused hp
  have hother : ∀ x ∈ head :: entries.map Prod.fst, mem.newNode p data x = mem x :=
    fun x hx => CamMem.newNode_other fun he => hout (he ▸ hx)
  have hhead := hother head List.mem_cons_self
  have hprev : (mem.newNode p data).prevAt head = mem.prevAt head := CamMem.prevAt_congr hhead
  have hneHead : head ≠ p := fun he => hout (he ▸ List.mem_cons_self)
  have hneLast : p ≠ mem.prevAt head := fun he => hout (he ▸ h.prevAt_mem)
  obtain ⟨mem', hmem', w⟩ := camListAddTailNode_spec
    ((CamMem.used_congr hhead).trans h.head_used) CamMem.newNode_used
    (by rw [hprev, CamMem.used_congr (hother _ h.prevAt_mem), (h.used _).mpr h.prevAt_mem])
  rw [hprev] at w
  refine ⟨mem', hmem', insert (by rwa [List.append_nil]) hplace hp w ?_⟩
  rw [List.map_append]
  refine h.ring.snoc hout ?_ ?_ ?_ ?_ (fun y hy hne => ?_) fun y hy => ?_
  · rw [Function.update_self]
  · rw [Function.update_of_ne hneLast, Function.update_self]
  · rw [Function.update_of_ne hneHead, Function.update_self]
  · rw [Function.update_self]
  · have hyp : y ≠ p := fun he => hout (he ▸ hy)
    rw [Function.update_of_ne hne, Function.update_of_ne hyp]
    exact CamMem.nextAt_congr (hother y hy)
  · have hymem := List.mem_cons_of_mem head hy
    have hyp : y ≠ p := fun he => hout (he ▸ hymem)
    have hyh : y ≠ head := fun he => (List.nodup_cons.mp h.ring.nodup).1 (he ▸ hy)
    rw [Function.update_of_ne hyp, Function.update_of_ne hyh]
    exact CamMem.prevAt_congr (hother y hymem)

theorem addHead (h : Holds head mem size entries) (data : Option Nat) (hplace : CamQueue.Place p)
    (hp : (mem p).isNone = true) :
    ∃ mem', CamQueue.linkFirst p head (mem.newNode p data) = some mem' ∧
      Holds head mem' (toInt32 (size + 1)) ((p, data) :: entries) := by
  have hout := h.unused hp
  have hother : ∀ x ∈ head :: entries.map Prod.fst, mem.newNode p data x = mem x :=
    fun x hx => CamMem.newNode_other fun he => hout (he ▸ hx)
  have hhead := hother head List.mem_cons_self
  have hnext : (mem.newNode p data).nextAt head = mem.nextAt head := CamMem.nextAt_congr hhead
  have hneHead : head ≠ p := fun he => hout (he ▸ List.mem_cons_self)
  have hneFirst : mem.nextAt head ≠ p := fun he => hout (he ▸ h.nextAt_mem)
  obtain ⟨mem', hmem', w⟩ := linkFirst_spec
    ((CamMem.used_congr hhead).trans h.head_used) CamMem.newNode_used
    (by rw [hnext, CamMem.used_congr (hother _ h.nextAt_mem), (h.used _).mpr h.nextAt_mem])
  rw [hnext] at w
  refine ⟨mem', hmem', insert (l := []) h hplace hp w ?_⟩
  refine h.ring.cons hout ?_ ?_ ?_ ?_ (fun y hy => ?_) fun y hy hne => ?_
  · rw [Function.update_of_ne hneHead, Function.update_self]
  · rw [Function.update_self]
  · rw [Function.update_of_ne hneFirst, Function.update_self]
  · rw [Function.update_self]
  · have hymem := List.mem_cons_of_mem head hy
    have hyp : y ≠ p := fun he => hout (he ▸ hymem)
    have hyh : y ≠ head := fun he => (List.nodup_cons.mp h.ring.nodup).1 (he ▸ hy)
    rw [Function.update_of_ne hyp, Function.update_of_ne hyh]
    exact CamMem.nextAt_congr (hother y hymem)
  · have hyp : y ≠ p := fun he => hout (he ▸ hy)
    rw [Function.update_of_ne hyp, Function.update_of_ne hne]
    exact CamMem.prevAt_congr (hother y hy)

theorem delete (h : Holds head mem size (l ++ (p, data) :: r)) :
    ∃ mem', camListDelNode p mem = some mem' ∧ mem'.readData p = some data ∧
      Holds head (mem'.free p) (toInt32 (size - 1)) (l ++ r) := by
  have hring := h.ring
  rw [List.map_append, List.map_cons] at hring
  obtain ⟨hout, hnext, hprev⟩ := hring.neighbours
  have hmem : ∀ x, x ∈ head :: (l ++ (p, data) :: r).map Prod.fst ↔
      x = p ∨ x ∈ head :: (l.map Prod.fst ++ r.map Prod.fst) := by
    intro x
    simp only [List.map_append, List.map_cons, List.mem_cons, List.mem_append]
    tauto
  have hused := fun x hx => (h.used x).mpr ((hmem x).mpr (Or.inr hx))
  have hp : mem.used p = true := (h.used p).mpr ((hmem p).mpr (Or.inl rfl))
  obtain ⟨mem', hmem', w⟩ := camListDelNode_spec hp (hused _ hprev) (hused _ hnext)
  have hother : ∀ x ∈ head :: (l.map Prod.fst ++ r.map Prod.fst), x ≠ p :=
    fun x hx he => hout (he ▸ hx)
  have hnextAt : ∀ x ∈ head :: (l.map Prod.fst ++ r.map Prod.fst), (mem'.free p).nextAt x =
      Function.update mem.nextAt (mem.prevAt p) (mem.nextAt p) x := by
    intro x hx
    rw [CamMem.nextAt_congr (CamMem.free_other (hother x hx)), w.next,
      Function.update_of_ne (hother x hx)]
  have hprevAt : ∀ x ∈ head :: (l.map Prod.fst ++ r.map Prod.fst), (mem'.free p).prevAt x =
      Function.update mem.prevAt (mem.nextAt p) (mem.prevAt p) x := by
    intro x hx
    rw [CamMem.prevAt_congr (CamMem.free_other (hother x hx)), w.prev,
      Function.update_of_ne (hother x hx)]
  have hdata : ∀ e ∈ l ++ r, e ∈ l ++ (p, data) :: r := by
    intro e he
    simp only [List.mem_append, List.mem_cons] at he ⊢
    tauto
  refine ⟨mem', hmem', ?_, ?_, fun e he => ?_, fun x => ?_, ?_, fun e he => h.place e (hdata e he)⟩
  · rw [CamMem.readData_eq (by rw [w.used, hp]), w.data, h.data (p, data) (by simp)]
  · rw [List.map_append]
    refine hring.unlink ?_ ?_ (fun y hy hne => ?_) fun y hy hne => ?_
    · rw [hnextAt _ hprev, Function.update_self]
    · rw [hprevAt _ hnext, Function.update_self]
    · rw [hnextAt y hy, Function.update_of_ne hne]
    · rw [hprevAt y hy, Function.update_of_ne hne]
  · have hx : e.1 ∈ head :: (l.map Prod.fst ++ r.map Prod.fst) := by
      rw [← List.map_append]
      exact List.mem_cons_of_mem head (List.mem_map_of_mem he)
    rw [CamMem.dataAt_congr (CamMem.free_other (hother _ hx)), w.data, h.data e (hdata e he)]
  · rw [List.map_append]
    by_cases heq : x = p
    · grind [CamMem.free_used]
    · rw [CamMem.used_congr (CamMem.free_other heq), w.used, h.used x, hmem x]
      exact ⟨fun hx => hx.resolve_left heq, Or.inr⟩
  · have hle := h.length_le
    rw [List.length_append, List.length_cons] at hle
    have hsize : size - 1 = ((l ++ r).length : Nat) := by
      rw [h.size, List.length_append, List.length_append, List.length_cons]
      omega
    rw [hsize, toInt32_of_lt]
    rw [List.length_append]
    omega

end Holds

/-- The data other than `NULL`. -/
def items (nodes : List (Option Nat)) : List Nat := nodes.filterMap id

@[simp] theorem items_cons (data : Option Nat) (nodes : List (Option Nat)) :
    items (data :: nodes) = data.toList ++ items nodes := by
  cases data <;> rfl

@[simp] theorem items_append (nodes nodes' : List (Option Nat)) :
    items (nodes ++ nodes') = items nodes ++ items nodes' :=
  List.filterMap_append

theorem find?_append_eraseP_perm {α : Type} (fits : α → Bool) (nodes : List α) :
    ((nodes.find? fits).toList ++ nodes.eraseP fits).Perm nodes := by
  induction nodes with
  | nil => exact List.Perm.refl _
  | cons x nodes ih =>
    by_cases hx : fits x = true
    · rw [List.find?_cons_of_pos hx, List.eraseP_cons_of_pos hx]
      exact List.Perm.refl _
    · rw [List.find?_cons_of_neg hx, List.eraseP_cons_of_neg hx]
      exact List.perm_middle.trans (ih.cons x)

theorem items_join (data : Option (Option Nat)) : items data.toList = data.join.toList := by
  rcases data with _ | _ | d <;> rfl

namespace CamQueue

variable {q : CamQueue} {entries l r : List (Nat × Option Nat)} {p : Nat} {data : Option Nat}

/-- The first address of the nodes that are left, the head's if there are none. -/
def posOf (head : Nat) (entries : List (Nat × Option Nat)) : Nat :=
  (entries.map Prod.fst).headD head

theorem takeNode_spec (h : Holds q.head q.mem q.mSize (l ++ (p, data) :: r)) :
    ∃ mem size, q.takeNode p = some (data, { q with mem, mSize := size }) ∧
      Holds q.head mem size (l ++ r) := by
  obtain ⟨mem', hmem', hdata, hholds⟩ := h.delete
  refine ⟨_, _, ?_, hholds⟩
  unfold takeNode
  rw [hmem', Option.bind_eq_bind, Option.bind_some, hdata]
  rfl

theorem loop_at (h : Holds q.head q.mem q.mSize (l ++ (p, data) :: r)) :
    p ≠ q.head ∧ p ≠ 0 ∧ q.mem.readNext p = some (posOf q.head r) ∧
      q.mem.readData p = some data := by
  have hring := h.ring
  rw [List.map_append, List.map_cons] at hring
  have hused : q.mem.used p = true := (h.used p).mpr (by simp)
  refine ⟨fun he => ?_, (h.place (p, data) (by simp)).1, ?_, ?_⟩
  · exact hring.neighbours.1 (he ▸ List.mem_cons_self)
  · rw [CamMem.readNext_eq hused, hring.linked.split.2.first]
    rfl
  · rw [CamMem.readData_eq hused, h.data (p, data) (by simp)]

theorem dequeueMatchLoop_spec (fits : Option Nat → Bool) {fuel : Nat} (hfuel : r.length ≤ fuel)
    (h : Holds q.head q.mem q.mSize (l ++ r)) :
    ∃ mem size, q.dequeueMatchLoop fits fuel (posOf q.head r) =
        some ({ q with mem, mSize := size }.returnsData ((r.map Prod.snd).find? fits).join) ∧
      Holds q.head mem size (l ++ r.eraseP (fits ∘ Prod.snd)) := by
  induction r generalizing l fuel with
  | nil =>
    refine ⟨q.mem, q.mSize, ?_, h⟩
    cases fuel <;> exact if_pos rfl
  | cons e r ih =>
    obtain ⟨p, data⟩ := e
    obtain ⟨fuel, rfl⟩ : ∃ n, fuel = n + 1 := ⟨fuel - 1, by rw [List.length_cons] at hfuel; omega⟩
    obtain ⟨hhead, hzero, hnext, hdata⟩ := loop_at h
    change ∃ mem size, q.dequeueMatchLoop fits (fuel + 1) p = _ ∧ _
    simp only [dequeueMatchLoop, if_neg hhead, hnext, hdata, if_pos hzero, Option.bind_eq_bind,
      Option.bind_some]
    by_cases hfits : fits data = true
    · obtain ⟨mem, size, htake, hholds⟩ := takeNode_spec h
      grind
    · rw [if_neg hfits, List.map_cons, List.find?_cons_of_neg hfits,
        List.eraseP_cons_of_neg (a := (p, data)) (p := fits ∘ Prod.snd) hfits,
        List.append_cons l]
      exact ih (by simpa using hfuel) (by rwa [← List.append_cons])

/-- The queue once the data of some nodes have been released. -/
def dropped (mem : CamMem) (size : Int) (data : List Nat) (q : CamQueue) : CamQueue :=
  { q with
    mem
    mSize := size
    released := if q.dataFn then q.released ++ data else q.released
    freed := q.freed ++ data }

theorem flushLoop_spec (fits : Option Nat → Bool) {fuel : Nat} (hfuel : r.length ≤ fuel)
    (h : Holds q.head q.mem q.mSize (l ++ r)) :
    ∃ mem size, q.flushLoop fits fuel (posOf q.head r) =
        some (q.dropped mem size (items ((r.map Prod.snd).filter fits))) ∧
      Holds q.head mem size (l ++ r.filter fun e => !fits e.2) := by
  induction r generalizing l fuel q with
  | nil =>
    refine ⟨q.mem, q.mSize, ?_, h⟩
    have hself : q.dropped q.mem q.mSize [] = q := by
      unfold dropped
      rw [List.append_nil, List.append_nil, ite_self]
    change q.flushLoop fits fuel q.head = some (q.dropped q.mem q.mSize [])
    rw [hself]
    cases fuel <;> exact if_pos rfl
  | cons e r ih =>
    obtain ⟨p, data⟩ := e
    obtain ⟨fuel, rfl⟩ : ∃ n, fuel = n + 1 := ⟨fuel - 1, by rw [List.length_cons] at hfuel; omega⟩
    obtain ⟨hhead, -, hnext, hdata⟩ := loop_at h
    change ∃ mem size, q.flushLoop fits (fuel + 1) p = _ ∧ _
    simp only [flushLoop, if_neg hhead, hnext, hdata, Option.bind_eq_bind, Option.bind_some]
    have hlen : r.length ≤ fuel := by simpa using hfuel
    by_cases hfits : fits data = true
    · obtain ⟨mem, size, htake, hholds⟩ := takeNode_spec h
      obtain ⟨mem', size', hloop, hholds'⟩ :=
        ih (q := ({ q with mem, mSize := size }).releaseData data) hlen hholds
      refine ⟨mem', size', ?_, ?_⟩
      · rw [if_pos hfits, htake, Option.bind_some, List.map_cons, List.filter_cons_of_pos hfits,
          items_cons]
        refine hloop.trans ?_
        cases hfn : q.dataFn <;> simp [releaseData, dropped, hfn]
      · rwa [List.filter_cons_of_neg (by simp [hfits])]
    · rw [if_neg hfits, List.map_cons, List.filter_cons_of_neg hfits,
        List.filter_cons_of_pos (by simp [hfits]), List.append_cons l]
      exact ih hlen (by rwa [← List.append_cons])

/-- The queue holds the nodes of the sequence, and every item that was accepted is in it, was
dequeued or was freed. -/
structure Refines (q : CamQueue) (a : QCameraQueue (Option Nat)) : Prop where
  holds : ∃ entries, Holds q.head q.mem q.mSize entries ∧ entries.map Prod.snd = a.nodes
  active : q.mActive = a.active
  inactive : a.active = false → a.nodes = []
  account : (items a.nodes ++ (q.dequeued ++ q.freed)).Perm q.accepted
  released : q.released = if q.dataFn then q.freed else []

/-- A call returns what the sequence has it return. One that is rejected changes nothing. -/
structure Answers (q t : CamQueue) (a : QCameraQueue (Option Nat)) (ret : QueueRet) : Prop where
  refines : Refines t a
  rets : t.rets = q.rets ++ [ret]
  head : t.head = q.head
  dataFn : t.dataFn = q.dataFn
  rejected : ret = .accepted false → t.mem = q.mem ∧ t.mSize = q.mSize ∧ t.mActive = q.mActive

variable {a : QCameraQueue (Option Nat)}

theorem Refines.returns (h : Refines q a) (ret : QueueRet) : Answers q (q.returns ret) a ret :=
  ⟨⟨h.holds, h.active, h.inactive, h.account, h.released⟩, rfl, rfl, rfl, fun _ => ⟨rfl, rfl, rfl⟩⟩

theorem Refines.returnsNone (h : Refines q a) : Answers q (q.returnsData none) a (.data none) := by
  refine ⟨⟨h.holds, h.active, h.inactive, ?_, h.released⟩, rfl, rfl, rfl, fun he => nomatch he⟩
  change (items a.nodes ++ (q.dequeued ++ [] ++ q.freed)).Perm q.accepted
  rw [List.append_nil]
  exact h.account

theorem Refines.returnsData (h : Refines q a) {mem : CamMem} {size : Int} {nodes : List (Option Nat)}
    (data : Option (Option Nat))
    (holds : ∃ entries, Holds q.head mem size entries ∧ entries.map Prod.snd = nodes)
    (hactive : a.active = true) (hperm : (data.toList ++ nodes).Perm a.nodes) :
    Answers q ({ q with mem, mSize := size }.returnsData data.join) { a with nodes }
      (.data data.join) := by
  refine ⟨⟨holds, h.active, fun hoff => ?_, ?_, h.released⟩, rfl, rfl, rfl, fun he => nomatch he⟩
  · grind
  · have hitems : (data.join.toList ++ items nodes).Perm (items a.nodes) := by
      rw [← items_join, ← items_append]
      exact hperm.filterMap id
    change (items nodes ++ (q.dequeued ++ data.join.toList ++ q.freed)).Perm q.accepted
    refine List.Perm.trans ?_ ((hitems.append_right (q.dequeued ++ q.freed)).trans h.account)
    rw [List.append_assoc, ← List.append_assoc, ← List.append_assoc]
    refine List.Perm.trans ?_ ((@List.perm_append_comm _ (items nodes) _).append_right _)
    grind

variable {place : Option Nat}

theorem Refines.enqueueBy_answers (h : Refines q a) (link : Nat → Nat → CamMem → Option CamMem)
    (hmalloc : ∀ p ∈ place, Place p ∧ (q.mem p).isNone = true)
    {nodes : List (Option Nat)} (hnodes : (data :: a.nodes).Perm nodes)
    (hlink : ∀ entries p, Holds q.head q.mem q.mSize entries → entries.map Prod.snd = a.nodes →
      Place p → (q.mem p).isNone = true → ∃ mem', link p q.head (q.mem.newNode p data) = some mem' ∧
        ∃ entries', Holds q.head mem' (toInt32 (q.mSize + 1)) entries' ∧
          entries'.map Prod.snd = nodes) :
    ∃ t, q.enqueueBy link data place = some t ∧
      Answers q t (if place.isSome && a.active then { a with nodes } else a)
        (.accepted (place.isSome && a.active)) := by
  cases place with
  | none => exact ⟨_, rfl, h.returns _⟩
  | some p =>
    obtain ⟨hplace, hfree⟩ := hmalloc p rfl
    obtain ⟨entries, hentries, hdata⟩ := h.holds
    by_cases hactive : q.mActive = true
    · obtain ⟨mem', hmem', holds⟩ := hlink entries p hentries hdata hplace hfree
      have ha : a.active = true := h.active ▸ hactive
      let t : CamQueue := { q with
        mem := mem'
        mSize := toInt32 (q.mSize + 1)
        accepted := q.accepted ++ data.toList }
      refine ⟨t.returns (.accepted true), ?_, ?_⟩
      · simp only [enqueueBy, if_pos hactive, hmem', Option.bind_eq_bind, Option.bind_some]
        rfl
      · rw [show ((some p).isSome && a.active) = true by rw [ha]; rfl, if_pos rfl]
        refine ⟨⟨holds, h.active, fun hoff => ?_, ?_, h.released⟩, rfl, rfl, rfl, fun he => ?_⟩
        · grind
        · have hitems : (items nodes).Perm (data.toList ++ items a.nodes) := by
            rw [← items_cons]
            exact (hnodes.filterMap id).symm
          change (items nodes ++ (q.dequeued ++ q.freed)).Perm (q.accepted ++ data.toList)
          refine (hitems.append_right _).trans ?_
          rw [List.append_assoc]
          exact (h.account.append_left _).trans List.perm_append_comm
        · simp at he
    · have ha : a.active = false := by rw [← h.active, Bool.eq_false_iff]; exact hactive
      refine ⟨({ q with mem := (q.mem.newNode p data).free p }).returns (.accepted false), ?_, ?_⟩
      · simp only [enqueueBy, if_neg hactive]
      · rw [CamMem.free_newNode hfree, show ((some p).isSome && a.active) = false by rw [ha]; rfl,
          if_neg (by decide)]
        exact h.returns _

theorem Refines.enqueue (h : Refines q a)
    (hmalloc : ∀ p ∈ place, Place p ∧ (q.mem p).isNone = true) :
    ∃ t, q.enqueue data place = some t ∧ Answers q t (a.enqueue data place.isSome).2
      (.accepted (a.enqueue data place.isSome).1) := by
  obtain ⟨t, ht, hanswers⟩ := h.enqueueBy_answers camListAddTailNode hmalloc
    (List.perm_append_singleton data _).symm fun entries p hentries hdata hplace hfree => by
      obtain ⟨mem', hmem', hholds⟩ := hentries.addTail data hplace hfree
      grind
  refine ⟨t, ht, ?_⟩
  grind [QCameraQueue.enqueue]

theorem Refines.enqueueWithPriority (h : Refines q a)
    (hmalloc : ∀ p ∈ place, Place p ∧ (q.mem p).isNone = true) :
    ∃ t, q.enqueueWithPriority data place = some t ∧
      Answers q t (a.enqueueWithPriority data place.isSome).2
        (.accepted (a.enqueueWithPriority data place.isSome).1) := by
  obtain ⟨t, ht, hanswers⟩ := h.enqueueBy_answers linkFirst hmalloc
    (List.Perm.refl (data :: a.nodes)) fun entries p hentries hdata hplace hfree => by
      obtain ⟨mem', hmem', hholds⟩ := hentries.addHead data hplace hfree
      grind
  refine ⟨t, ht, ?_⟩
  grind [QCameraQueue.enqueueWithPriority]

variable {entries : List (Nat × Option Nat)}

theorem readNext_head (h : Holds q.head q.mem q.mSize entries) :
    q.mem.readNext q.head = some (posOf q.head entries) := by
  rw [CamMem.readNext_eq h.head_used, h.ring.first]
  rfl

theorem Refines.dequeueHead (h : Refines q a) :
    ∃ t, q.dequeue true = some t ∧ Answers q t a.dequeue.2 (.data a.dequeue.1.join) := by
  unfold QCameraQueue.dequeue
  by_cases hactive : q.mActive = true
  · have ha : a.active = true := h.active ▸ hactive
    obtain ⟨entries, hentries, hdata⟩ := h.holds
    rw [if_pos ha, ← hdata]
    simp only [CamQueue.dequeue, if_pos hactive, if_true, readNext_head hentries,
      Option.bind_eq_bind, Option.bind_some]
    cases entries with
    | nil =>
      refine ⟨_, if_pos rfl, ?_⟩
      have hself : { a with nodes := [] } = a := by rw [show [] = a.nodes from hdata]
      exact hself.symm ▸ h.returnsNone
    | cons e r =>
      obtain ⟨p, data⟩ := e
      obtain ⟨mem, size, htake, hholds⟩ := takeNode_spec (l := []) hentries
      have hne : posOf q.head ((p, data) :: r) ≠ q.head := (loop_at (l := []) hentries).1
      refine ⟨_, ?_, h.returnsData (some data) ⟨r, hholds, rfl⟩ ha ?_⟩
      · rw [if_neg hne, show posOf q.head ((p, data) :: r) = p from rfl, htake]
        rfl
      · rw [← hdata]
        exact List.Perm.refl _
  · rw [if_neg (h.active ▸ hactive)]
    exact ⟨_, if_neg hactive, h.returnsNone⟩

theorem Refines.dequeueTail (h : Refines q a) :
    ∃ t, q.dequeue false = some t ∧ Answers q t a.dequeueLast.2 (.data a.dequeueLast.1.join) := by
  unfold QCameraQueue.dequeueLast
  by_cases hactive : q.mActive = true
  · have ha : a.active = true := h.active ▸ hactive
    obtain ⟨entries, hentries, hdata⟩ := h.holds
    rw [if_pos ha, ← hdata]
    simp only [CamQueue.dequeue, if_pos hactive, Bool.false_eq_true, if_false,
      CamMem.readPrev_eq hentries.head_used, hentries.ring.back, Option.bind_eq_bind,
      Option.bind_some]
    rcases List.eq_nil_or_concat' entries with rfl | ⟨l, e, rfl⟩
    · refine ⟨_, if_pos rfl, ?_⟩
      have hself : { a with nodes := [] } = a := by rw [show [] = a.nodes from hdata]
      exact hself.symm ▸ h.returnsNone
    · obtain ⟨p, data⟩ := e
      obtain ⟨mem, size, htake, hholds⟩ := takeNode_spec hentries
      have hlast : lastCell q.head ((l ++ [(p, data)]).map Prod.fst) = p := by
        rw [List.map_append, lastCell_append]
        rfl
      rw [List.append_nil] at hholds
      rw [hlast, if_neg (loop_at hentries).1, htake, List.map_append, List.map_singleton,
        List.getLast?_concat, List.dropLast_concat]
      refine ⟨_, rfl, h.returnsData (some data) ⟨l, hholds, rfl⟩ ha ?_⟩
      grind
  · rw [if_neg (h.active ▸ hactive)]
    exact ⟨_, if_neg hactive, h.returnsNone⟩

theorem Refines.dequeueMatch (h : Refines q a) (fits : Option Nat → Bool) :
    ∃ t, q.dequeueMatch (some fits) = some t ∧
      Answers q t (a.dequeueMatch fits).2 (.data (a.dequeueMatch fits).1.join) := by
  unfold QCameraQueue.dequeueMatch
  by_cases hactive : q.mActive = true
  · have ha : a.active = true := h.active ▸ hactive
    obtain ⟨entries, hentries, hdata⟩ := h.holds
    obtain ⟨mem, size, hloop, hholds⟩ := dequeueMatchLoop_spec (l := []) fits
      (by rw [hentries.size]; exact Nat.le_refl _ : entries.length ≤ q.mSize.toNat) hentries
    rw [if_pos ha, ← hdata]
    refine ⟨_, ?_, h.returnsData _ ⟨_, hholds, ?_⟩ ha ?_⟩
    · simp only [CamQueue.dequeueMatch, if_pos hactive, readNext_head hentries,
        Option.bind_eq_bind, Option.bind_some]
      exact hloop
    · rw [List.eraseP_map]
      rfl
    · rw [← hdata]
      exact find?_append_eraseP_perm fits _
  · rw [if_neg (h.active ▸ hactive)]
    exact ⟨_, if_neg hactive, h.returnsNone⟩

theorem Refines.drop (h : Refines q a) (fits : Option Nat → Bool) {mem : CamMem} {size : Int}
    (hdata : entries.map Prod.snd = a.nodes)
    (hholds : Holds q.head mem size (entries.filter fun e => !fits e.2)) (hactive : a.active = true) :
    Refines (q.dropped mem size (items ((entries.map Prod.snd).filter fits)))
      { a with nodes := a.nodes.filter fun data => !fits data } := by
  refine ⟨⟨_, hholds, ?_⟩, h.active, fun hoff => ?_, ?_, ?_⟩
  · rw [← hdata, List.filter_map]
    rfl
  · grind
  · have hsplit := (List.filter_append_perm fits a.nodes).filterMap id
    rw [List.filterMap_append] at hsplit
    rw [hdata]
    refine List.Perm.trans ?_ ((hsplit.append_right (q.dequeued ++ q.freed)).trans h.account)
    change (items _ ++ (q.dequeued ++ (q.freed ++ items _))).Perm (items _ ++ items _ ++ _)
    grind
  · change (if q.dataFn then q.released ++ _ else q.released) = if q.dataFn then q.freed ++ _ else []
    rw [h.released]
    cases q.dataFn <;> rfl

theorem Refines.flushNodes (h : Refines q a) (fits : Option Nat → Bool) :
    ∃ t, q.flushNodes (some fits) = some t ∧ Answers q t (a.flushNodes fits).2 .done := by
  unfold QCameraQueue.flushNodes
  by_cases hactive : q.mActive = true
  · have ha : a.active = true := h.active ▸ hactive
    obtain ⟨entries, hentries, hdata⟩ := h.holds
    obtain ⟨mem, size, hloop, hholds⟩ := flushLoop_spec (l := []) fits
      (by rw [hentries.size]; exact Nat.le_refl _ : entries.length ≤ q.mSize.toNat) hentries
    have hdrop := (h.drop fits hdata hholds ha).returns .done
    rw [if_pos ha]
    refine ⟨_, ?_, hdrop.refines, rfl, rfl, rfl, fun he => nomatch he⟩
    simp only [CamQueue.flushNodes, if_pos hactive, readNext_head hentries, hloop,
      Option.bind_eq_bind, Option.bind_some]
  · rw [if_neg (h.active ▸ hactive)]
    exact ⟨_, if_neg hactive, h.returns .done⟩

theorem Refines.flush (h : Refines q a) :
    ∃ t, q.flush = some t ∧ Answers q t a.flush.2 .done := by
  unfold QCameraQueue.flush
  by_cases hactive : q.mActive = true
  · have ha : a.active = true := h.active ▸ hactive
    obtain ⟨entries, hentries, hdata⟩ := h.holds
    obtain ⟨mem, size, hloop, hholds⟩ := flushLoop_spec (l := [])
      (fun _ => true) (by rw [hentries.size]; exact Nat.le_refl _ : entries.length ≤ q.mSize.toNat)
      hentries
    have hdrop := h.drop (fun _ => true) hdata hholds ha
    have hnone : (entries.filter fun _ => !true) = [] := List.filter_false entries
    have hnodes : (a.nodes.filter fun _ => !true) = [] := List.filter_false a.nodes
    have haccount := hdrop.account
    rw [hnodes] at haccount
    rw [List.nil_append, hnone] at hholds
    have hsize : size = 0 := hholds.size
    rw [hsize] at hholds
    rw [if_pos ha]
    let t := q.dropped mem size (items ((entries.map Prod.snd).filter fun _ => true))
    refine ⟨{ t with mSize := 0, mActive := false }.returns .done, ?_, ?_⟩
    · simp only [CamQueue.flush, if_pos hactive, readNext_head hentries, hloop,
        Option.bind_eq_bind, Option.bind_some]
      rfl
    · exact ⟨⟨⟨[], hholds, rfl⟩, rfl, fun _ => rfl, haccount, hdrop.released⟩, rfl, rfl, rfl,
        fun he => nomatch he⟩
  · rw [if_neg (h.active ▸ hactive)]
    exact ⟨_, if_neg hactive, h.returns .done⟩

theorem Refines.isEmpty_eq (h : Refines q a) : q.isEmpty = a.isEmpty := by
  obtain ⟨entries, hentries, hdata⟩ := h.holds
  unfold isEmpty QCameraQueue.isEmpty
  rw [hentries.size, ← hdata]
  cases entries with
  | nil => rfl
  | cons e r => exact if_pos (by simp)

theorem Refines.step (h : Refines q a) {op : QueueOp} (hmalloc : q.Mallocs op) :
    ∃ t, q.step op = some t ∧ Answers q t (queueSpec a op).1 (queueSpec a op).2 := by
  cases op with
  | enqueue data place => exact h.enqueue hmalloc
  | enqueueWithPriority data place => exact h.enqueueWithPriority hmalloc
  | dequeue bFromHead =>
    cases bFromHead with
    | true => exact h.dequeueHead
    | false => exact h.dequeueTail
  | dequeueMatch fits =>
    cases fits with
    | none => exact ⟨_, rfl, h.returnsNone⟩
    | some fits => exact h.dequeueMatch fits
  | flushNodes fits =>
    cases fits with
    | none => exact ⟨_, rfl, h.returns .done⟩
    | some fits => exact h.flushNodes fits
  | flush => exact h.flush
  | init =>
    exact ⟨_, rfl, ⟨h.holds, rfl, fun he => (nomatch he), h.account, h.released⟩, rfl, rfl, rfl,
      fun he => nomatch he⟩
  | isEmpty =>
    refine ⟨_, rfl, ?_⟩
    change Answers q _ a (.flag a.isEmpty)
    rw [← h.isEmpty_eq]
    exact h.returns _
  | getCurrentSize =>
    obtain ⟨entries, hentries, hdata⟩ := h.holds
    refine ⟨_, rfl, ?_⟩
    change Answers q _ a (.size a.nodes.length)
    rw [← hdata, List.length_map, ← hentries.size]
    exact h.returns _

def queueAfter (a : QCameraQueue (Option Nat)) (ops : List QueueOp) : QCameraQueue (Option Nat) :=
  ops.foldl (fun a op => (queueSpec a op).1) a

theorem Refines.run {ops : List QueueOp} (h : Refines q a) (meet : OpsMeet CamQueue.step Mallocs q ops) :
    ∃ t, runOps CamQueue.step q ops = some t ∧ Refines t (queueAfter a ops) ∧
      t.rets = q.rets ++ outputs queueSpec a ops ∧ t.head = q.head ∧ t.dataFn = q.dataFn := by
  induction ops generalizing q a with
  | nil => exact ⟨q, rfl, h, (List.append_nil _).symm, rfl, rfl⟩
  | cons op ops ih =>
    obtain ⟨next, hnext, answers⟩ := h.step meet.1
    obtain ⟨t, hrun, hrefines, hrets, hhead, hfn⟩ := ih answers.refines (meet.2 next hnext)
    refine ⟨t, ?_, hrefines, ?_, hhead.trans answers.head, hfn.trans answers.dataFn⟩
    · exact Option.bind_eq_some_iff.mpr ⟨next, hnext, hrun⟩
    · rw [hrets, answers.rets, List.append_assoc]
      rfl

theorem refines_new (head : Nat) (dataFn : Bool) : Refines (new head dataFn) {} where
  holds := by
    refine ⟨[], ⟨Ring.nil ?_ ?_, fun e he => (nomatch he), fun p => ?_, rfl, fun e he => (nomatch he)⟩,
      rfl⟩
    · simp [new, CamMem.nextAt, CamMem.readNext]
    · simp [new, CamMem.prevAt, CamMem.readPrev]
    · by_cases hp : p = head <;> simp [new, CamMem.used, hp]
  active := rfl
  inactive := fun hoff => (nomatch hoff)
  account := List.Perm.refl _
  released := by
    change [] = if dataFn then [] else []
    rw [ite_self]

/-- The circular list is well formed, with the nodes of the sequence and no others in use. Every item
that was accepted is in it, was dequeued or was freed, after `m_dataFn` has been called for it if that
is set. -/
structure Right (q : CamQueue) (a : QCameraQueue (Option Nat)) : Prop where
  ring : ∃ nodes, Ring q.mem.nextAt q.mem.prevAt q.head nodes ∧
    (∀ p ∈ q.head :: nodes,
      q.mem.prevAt (q.mem.nextAt p) = p ∧ q.mem.nextAt (q.mem.prevAt p) = p) ∧
    (∀ p, q.mem.used p = true ↔ p ∈ q.head :: nodes) ∧
    nodes.map q.mem.dataAt = a.nodes ∧ q.mSize = nodes.length
  active : q.mActive = a.active
  inactive : q.mActive = false → a.nodes = []
  account : (items a.nodes ++ (q.dequeued ++ q.freed)).Perm q.accepted
  released : q.released = if q.dataFn then q.freed else []
  rejected : ∀ op, q.Mallocs op → ∃ t, q.step op = some t ∧
    (t.rets = q.rets ++ [.accepted false] →
      t.mem = q.mem ∧ t.mSize = q.mSize ∧ t.mActive = q.mActive)

theorem Refines.right (h : Refines q a) : Right q a := by
  refine ⟨?_, h.active, h.active ▸ h.inactive, h.account, h.released, fun op hmalloc => ?_⟩
  · obtain ⟨entries, hentries, hdata⟩ := h.holds
    refine ⟨_, hentries.ring, fun p hp => hentries.ring.inverse hp, hentries.used, ?_, ?_⟩
    · rw [← hdata, List.map_map]
      exact List.map_congr_left hentries.data
    · rw [hentries.size, List.length_map]
  · obtain ⟨t, ht, answers⟩ := h.step hmalloc
    refine ⟨t, ht, fun hrets => answers.rejected ?_⟩
    exact List.singleton_injective (List.append_cancel_left (answers.rets.symm.trans hrets))

/-- Along every run the calls return what they return on the sequence, and the queue is in order. -/
theorem queue_exactlyOnce (head : Nat) (dataFn : Bool) {ops : List QueueOp}
    (meet : OpsMeet step Mallocs (new head dataFn) ops) :
    ∃ q, runOps step (new head dataFn) ops = some q ∧ q.head = head ∧ q.dataFn = dataFn ∧
      q.rets = outputs queueSpec {} ops ∧ Right q (queueAfter {} ops) := by
  obtain ⟨q, hrun, hrefines, hrets, hhead, hfn⟩ := (refines_new head dataFn).run meet
  exact ⟨q, hrun, hhead, hfn, hrets, hrefines.right⟩

/-- Two items and `NULL` are queued, the item 7 ahead of the others. The one that matches is taken
from the middle, the flush releases the others, and the queue rejects what comes before `init`. -/
theorem queued_matched_flushed :
    ∃ q, runOps step (new 4096 true) [.enqueue (some 5) (some 8), .enqueue none (some 24),
        .enqueueWithPriority (some 7) (some 16), .dequeueMatch (some (· == some 5)), .flush,
        .enqueue (some 9) (some 8), .init, .isEmpty] = some q ∧
      q.dequeued = [5] ∧ q.released = [7] ∧
      Right q { nodes := [], active := true } := by
  obtain ⟨q, hrun, -, -, -, hright⟩ := queue_exactlyOnce 4096 true
    (by decide : OpsMeet step Mallocs (new 4096 true) [.enqueue (some 5) (some 8),
      .enqueue none (some 24), .enqueueWithPriority (some 7) (some 16),
      .dequeueMatch (some (· == some 5)), .flush, .enqueue (some 9) (some 8), .init, .isEmpty])
  refine ⟨q, hrun, ?_, ?_, hright⟩
  · cases hrun
    rfl
  · cases hrun
    rfl

end CamQueue

end DeviceHal.Camera
