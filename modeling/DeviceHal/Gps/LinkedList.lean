import DeviceHal.Lib.DoublyLinked

namespace DeviceHal.Gps

open Lib

inductive LinkedListErr where
  | success
  | failureGeneral
  | invalidParameter
  | invalidHandle
  | unavailableResource
  | insufficientBuffer
deriving DecidableEq, Repr

/-- What an element holds: `data_ptr` (0 is null) and whether there is a `dealloc_func`. History:
`number`, which counts the messages sent. -/
structure ListData where
  dataPtr : Nat
  deallocFunc : Bool
  number : Nat
deriving DecidableEq, Repr

/-- The elements of a `list_state` are the cells at their addresses. -/
structure ListState where
  cells : Cells ListData := {}
  pHead : Option Nat := none
  pTail : Option Nat := none

namespace ListState

/-- `elem` is what `malloc` returns. `none` stands for a pointer that leads to no element. -/
def linkedListAdd (elem : Option Nat) (dataObj : ListData) (l : ListState) :
    Option (ListState × LinkedListErr) :=
  if dataObj.dataPtr = 0 then some (l, .invalidParameter)
  else
    match elem with
    | none => some (l, .failureGeneral)
    | some elem =>
      let tmp := l.pHead
      let cells := l.cells.put elem { next := none, prev := none, value := dataObj }
      let l := { l with cells := cells.setNext tmp elem, pHead := some elem }
      match tmp with
      | some tmp =>
        if tmp ∈ l.cells then
          some ({ l with cells := l.cells.setPrev (some elem) tmp }, .success)
        else none
      | none => some ({ l with pTail := l.pHead }, .success)

def linkedListRemove (l : ListState) : Option (ListState × LinkedListErr × Option ListData) :=
  match l.pTail with
  | none => some (l, .unavailableResource, none)
  | some tmp =>
    (l.cells[tmp]?).bind fun cell =>
      let l := { l with pTail := cell.prev }
      match l.pTail with
      | some tail =>
        if tail ∈ l.cells then
          some ({ l with cells := (l.cells.setNext none tail).free tmp }, .success, some cell.value)
        else none
      | none =>
        some ({ l with pHead := l.pTail, cells := l.cells.free tmp }, .success, some cell.value)

def linkedListEmpty (l : ListState) : Bool := l.pHead.isNone

/-- The loop of `linked_list_flush`, with the data of the elements it frees. Each round frees an
element, so there are no more rounds than elements. -/
def flushLoop : Nat → ListState → Option (ListState × List ListData)
  | rounds, l =>
    match l.pHead with
    | none => some ({ l with pTail := none }, [])
    | some head =>
      match rounds with
      | 0 => none
      | rounds + 1 =>
        (l.cells[head]?).bind fun cell =>
          (flushLoop rounds { l with cells := l.cells.free head, pHead := cell.next }).map
            fun (l, values) => (l, cell.value :: values)

def linkedListFlush (l : ListState) : Option (ListState × LinkedListErr × List ListData) :=
  (flushLoop l.cells.size l).map fun (l, values) => (l, .success, values)

/-- The loop of `linked_list_search` finds the first element that is equal. A walk over more
elements than there are does not end. -/
def searchLoop (equal : Nat → Bool) (cells : Cells ListData) :
    Nat → Option Nat → Option (Option (Nat × Cell ListData))
  | _, none => some none
  | 0, some _ => none
  | rounds + 1, some tmp =>
    (cells[tmp]?).bind fun cell =>
      if equal cell.value.dataPtr then some (some (tmp, cell))
      else searchLoop equal cells rounds cell.next

/-- The part of `linked_list_search` that takes the element `tmp` out. -/
def unlinkElement (tmp : Nat) (cell : Cell ListData) (l : ListState) : Option ListState :=
  let front :=
    match cell.prev with
    | none => some { l with pHead := cell.next }
    | some prev =>
      if prev ∈ l.cells then some { l with cells := l.cells.setNext cell.next prev } else none
  front.bind fun l =>
    let back :=
      match cell.next with
      | none => some { l with pTail := cell.prev }
      | some next =>
        if next ∈ l.cells then some { l with cells := l.cells.setPrev cell.prev next } else none
    back.map fun l => { l with cells := l.cells.free tmp }

def linkedListSearch (equal : Nat → Bool) (rmIfFound : Bool) (l : ListState) :
    Option (ListState × LinkedListErr × Option ListData) :=
  match l.pTail with
  | none => some (l, .unavailableResource, none)
  | some _ =>
    (searchLoop equal l.cells l.cells.size l.pHead).bind fun found =>
      match found with
      | none => some (l, .success, none)
      | some (tmp, cell) =>
        if rmIfFound then
          (l.unlinkElement tmp cell).map fun l => (l, .success, some cell.value)
        else some (l, .success, some cell.value)

/-- The list is well formed, with these elements from its head on. -/
def Holds (l : ListState) (entries : List (Nat × ListData)) : Prop :=
  Chained l.cells l.pHead l.pTail entries

theorem holds_nil : ({} : ListState).Holds [] := chained_nil

variable {l : ListState} {entries : List (Nat × ListData)}

theorem mem_cells_of_firstAddr {a : Nat} {rest : List (Nat × ListData)} (h : l.Holds entries)
    (hsub : ∀ e ∈ rest, e ∈ entries) (ha : firstAddr none rest = some a) : a ∈ l.cells := by
  obtain ⟨e, he, rfl⟩ := List.mem_map.mp (firstAddr_mem ha)
  exact (h.only e.1).mpr (List.mem_map_of_mem (hsub e he))

theorem mem_cells_of_lastAddr {a : Nat} {rest : List (Nat × ListData)} (h : l.Holds entries)
    (hsub : ∀ e ∈ rest, e ∈ entries) (ha : lastAddr none rest = some a) : a ∈ l.cells := by
  obtain ⟨e, he, rfl⟩ := List.mem_map.mp (lastAddr_mem ha)
  exact (h.only e.1).mpr (List.mem_map_of_mem (hsub e he))

theorem linkedListAdd_noMemory {dataObj : ListData} (hnull : dataObj.dataPtr ≠ 0) :
    l.linkedListAdd none dataObj = some (l, .failureGeneral) := by
  unfold linkedListAdd
  rw [if_neg hnull]

theorem linkedListAdd_holds (h : l.Holds entries) {elem : Nat} (hfree : elem ∉ l.cells)
    {dataObj : ListData} (hnull : dataObj.dataPtr ≠ 0) :
    ∃ l', l.linkedListAdd (some elem) dataObj = some (l', .success) ∧
      l'.Holds ((elem, dataObj) :: entries) := by
  have hpush := Chained.push (v := dataObj) h hfree
  unfold linkedListAdd
  rw [if_neg hnull]
  cases hhead : l.pHead with
  | none =>
    rw [hhead] at hpush
    exact ⟨_, rfl, hpush⟩
  | some tmp =>
    rw [hhead] at hpush
    have hin : tmp ∈ l.cells :=
      mem_cells_of_firstAddr h (fun e he => he) (h.head_eq ▸ hhead)
    have hin' : tmp ∈ (l.cells.put elem
        { next := none, prev := none, value := dataObj }).setNext (some tmp) elem := by
      unfold Cells.setNext
      rw [mem_update, Cells.mem_put]
      exact Or.inr hin
    simp only [if_pos hin']
    exact ⟨_, rfl, hpush⟩

theorem holds_pTail (h : l.Holds entries) : l.pTail = none ↔ entries = [] := by
  rw [h.tail_eq]
  rcases List.eq_nil_or_concat' entries with rfl | ⟨front, e, rfl⟩
  · exact ⟨fun _ => rfl, fun _ => rfl⟩
  · rw [lastAddr_concat]
    simp

theorem holds_pHead (h : l.Holds entries) : l.pHead = none ↔ entries = [] := by
  rw [h.head_eq]
  cases entries with
  | nil => exact ⟨fun _ => rfl, fun _ => rfl⟩
  | cons e rest => simp [firstAddr]

theorem linkedListRemove_nil (h : l.Holds []) :
    l.linkedListRemove = some (l, .unavailableResource, none) := by
  unfold linkedListRemove
  rw [(holds_pTail h).mpr rfl]

theorem linkedListRemove_holds {e : Nat × ListData} (h : l.Holds (entries ++ [e])) :
    ∃ l', l.linkedListRemove = some (l', .success, some e.2) ∧ l'.Holds entries := by
  have htail : l.pTail = some e.1 := by rw [h.tail_eq, lastAddr_concat]
  have hcell := h.linked.at
  have hunlink := Chained.unlink (r := []) h
  rw [List.append_nil] at hunlink
  unfold linkedListRemove
  rw [htail]
  simp only [hcell, Option.bind_some]
  cases hprev : lastAddr none entries with
  | none =>
    rw [hprev] at hunlink
    exact ⟨_, rfl, hunlink⟩
  | some tail =>
    rw [hprev] at hunlink
    have hin : tail ∈ l.cells :=
      mem_cells_of_lastAddr h (fun e he => List.mem_append_left _ he) hprev
    simp only [if_pos hin]
    exact ⟨_, rfl, hunlink⟩

theorem flushLoop_holds (rounds : Nat) {prev : Option Nat}
    (hseg : Segment l.cells prev entries none) (hn : (entries.map Prod.fst).Nodup)
    (hhead : l.pHead = firstAddr none entries)
    (honly : ∀ a, a ∈ l.cells ↔ a ∈ entries.map Prod.fst) (hr : entries.length ≤ rounds) :
    ∃ l', flushLoop rounds l = some (l', entries.map Prod.snd) ∧ l'.Holds [] := by
  induction entries generalizing rounds l prev with
  | nil =>
    have hnone : l.pHead = none := hhead
    refine ⟨{ l with pTail := none }, ?_, ?_⟩
    · unfold flushLoop
      simp only [hnone]
      rfl
    · exact ⟨hn, trivial, hhead, rfl, honly⟩
  | cons e rest ih =>
    obtain ⟨k, rfl⟩ : ∃ k, rounds = k + 1 := ⟨rounds - 1, by simp at hr; omega⟩
    obtain ⟨hout, hrest⟩ := List.nodup_cons.mp hn
    have hsame : ∀ e' ∈ rest, (l.cells.free e.1)[e'.1]? = l.cells[e'.1]? := by
      intro e' he'
      rw [Cells.getElem?_free, if_neg]
      intro heq
      exact hout (heq ▸ List.mem_map_of_mem he')
    have honly' : ∀ a, a ∈ l.cells.free e.1 ↔ a ∈ rest.map Prod.fst := by
      intro a
      rw [Cells.mem_free, honly a, List.map_cons, List.mem_cons]
      constructor
      · grind
      · grind
    obtain ⟨l', hl', hholds⟩ :=
      ih (l := { l with cells := l.cells.free e.1, pHead := firstAddr none rest }) k
        (hseg.2.congr hsame) hrest rfl honly' (by simpa using hr)
    unfold flushLoop
    rw [hhead]
    simp only [firstAddr, hseg.1, Option.bind_some]
    refine ⟨l', ?_, hholds⟩
    change Option.map _ (flushLoop k
      { l with cells := l.cells.free e.1, pHead := firstAddr none rest }) = _
    rw [hl']
    rfl

theorem linkedListFlush_holds (h : l.Holds entries) :
    ∃ l', l.linkedListFlush = some (l', .success, entries.map Prod.snd) ∧ l'.Holds [] := by
  obtain ⟨l', hl', hholds⟩ := flushLoop_holds l.cells.size h.linked h.nodup h.head_eq h.only h.length_le
  unfold linkedListFlush
  rw [hl']
  exact ⟨l', rfl, hholds⟩

theorem searchLoop_holds (equal : Nat → Bool) (rounds : Nat) {prev : Option Nat}
    {cells : Cells ListData} (hseg : Segment cells prev entries none)
    (hr : entries.length ≤ rounds) :
    searchLoop equal cells rounds (firstAddr none entries) = some none ∨
      ∃ front e rest, entries = front ++ e :: rest ∧
        searchLoop equal cells rounds (firstAddr none entries) =
          some (some (e.1,
            { next := firstAddr none rest, prev := lastAddr prev front, value := e.2 })) := by
  induction entries generalizing rounds prev with
  | nil =>
    left
    unfold searchLoop
    rfl
  | cons e rest ih =>
    obtain ⟨k, rfl⟩ : ∃ k, rounds = k + 1 := ⟨rounds - 1, by simp at hr; omega⟩
    unfold searchLoop
    simp only [firstAddr, hseg.1, Option.bind_some]
    by_cases heq : equal e.2.dataPtr = true
    · right
      rw [if_pos heq]
      exact ⟨[], e, rest, rfl, rfl⟩
    · rw [if_neg heq]
      rcases ih k hseg.2 (by simpa using hr) with hnone | ⟨front, e', rest', hrest, hfound⟩
      · exact Or.inl hnone
      · right
        refine ⟨e :: front, e', rest', by rw [hrest]; rfl, ?_⟩
        exact hfound

theorem unlinkElement_holds {front rest : List (Nat × ListData)} {e : Nat × ListData}
    (h : l.Holds (front ++ e :: rest)) :
    ∃ l', l.unlinkElement e.1
        { next := firstAddr none rest, prev := lastAddr none front, value := e.2 } = some l' ∧
      l'.Holds (front ++ rest) := by
  have hunlink := Chained.unlink h
  have hprev : ∀ a, lastAddr none front = some a → a ∈ l.cells := fun a ha =>
    mem_cells_of_lastAddr h (fun e he => List.mem_append_left _ he) ha
  have hnext : ∀ a, firstAddr none rest = some a → a ∈ l.cells := fun a ha =>
    mem_cells_of_firstAddr h
      (fun e he => List.mem_append_right _ (List.mem_cons_of_mem _ he)) ha
  unfold unlinkElement
  cases hp : lastAddr none front with
  | none =>
    cases hn : firstAddr none rest with
    | none =>
      rw [hp, hn] at hunlink
      exact ⟨_, rfl, hunlink⟩
    | some next =>
      rw [hp, hn] at hunlink
      simp only [Option.bind_some, if_pos (hnext next hn), Option.map_some]
      exact ⟨_, rfl, hunlink⟩
  | some prev =>
    cases hn : firstAddr none rest with
    | none =>
      rw [hp, hn] at hunlink
      simp only [Option.bind_some, if_pos (hprev prev hp), Option.map_some]
      exact ⟨_, rfl, hunlink⟩
    | some next =>
      rw [hp, hn] at hunlink
      have hin : next ∈ l.cells.setNext (some next) prev := by
        unfold Cells.setNext
        rw [mem_update]
        exact hnext next hn
      simp only [Option.bind_some, if_pos (hprev prev hp), if_pos hin, Option.map_some]
      exact ⟨_, rfl, hunlink⟩

theorem linkedListSearch_holds (h : l.Holds entries) (equal : Nat → Bool) (rmIfFound : Bool) :
    (∃ err, l.linkedListSearch equal rmIfFound = some (l, err, none)) ∨
      ∃ front e rest l', entries = front ++ e :: rest ∧
        l.linkedListSearch equal rmIfFound = some (l', .success, some e.2) ∧
        l'.Holds (if rmIfFound then front ++ rest else entries) := by
  unfold linkedListSearch
  cases htail : l.pTail with
  | none => exact Or.inl ⟨_, rfl⟩
  | some tail =>
    rw [h.head_eq]
    rcases searchLoop_holds equal _ h.linked h.length_le with hnone | ⟨front, e, rest, he, hfound⟩
    · left
      simp only [hnone, Option.bind_some]
      exact ⟨_, rfl⟩
    · right
      simp only [hfound, Option.bind_some]
      cases rmIfFound with
      | false => exact ⟨front, e, rest, l, he, rfl, h⟩
      | true =>
        rw [he] at h
        obtain ⟨l', hl', hholds⟩ := unlinkElement_holds h
        grind

end ListState

end DeviceHal.Gps
