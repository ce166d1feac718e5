import Mathlib.Algebra.Order.Group.Nat
import Mathlib.Algebra.Order.Ring.Int
import Mathlib.Data.List.Range
import DeviceHal.Lib.Run
import Mathlib.Data.List.GetD

namespace DeviceHal.Camera

structure Timespec where
  tvSec : Int
  tvNsec : Int
deriving DecidableEq

namespace Timespec

def ofNsecs (ns : Int) : Timespec :=
  ⟨ns.tdiv 1000000000, ns - ns.tdiv 1000000000 * 1000000000⟩

def toNsecs (ts : Timespec) : Int := ts.tvSec * 1000000000 + ts.tvNsec

@[simp] theorem toNsecs_ofNsecs (ns : Int) : (ofNsecs ns).toNsecs = ns := by
  unfold ofNsecs toNsecs
  dsimp only
  omega

end Timespec

/-- A batch container: `bufIdx` are the plane buffers staged for it, `contCnt` and `contIdx` are in
the memory that the kernel reads. -/
structure Container where
  bufsUsed : UInt8
  bufInUse : Bool
  bufIdx : Nat → Int := fun _ => -1
  contCnt : Nat := 0
  contIdx : Nat → Int := fun _ => -1
  bufRefcnt : UInt8
  inKernel : Bool
  frameIdx : UInt32 := 0
  ts : Timespec := ⟨0, 0⟩

structure PlaneBuf where
  frameIdx : UInt32
  ts : Timespec
deriving DecidableEq

/-- A batch-mode stream. `queued` are the lists of the containers that `mm_stream_write_user_buf`
gave to the kernel. -/
structure BatchStream where
  bufNum : Nat
  buf : Nat → Container
  curBufIdx : Int := -1
  curBufsStaged : UInt8 := 0
  planeBuf : Int → PlaneBuf := fun _ => ⟨0, ⟨0, 0⟩⟩
  frameInterval : Int
  prevFrameID : UInt32 := 0
  prevTimestamp : Int := 0
  queued : List (List Int) := []

/-- A buffer of the stream: a container or a plane buffer. -/
inductive BatchFrame where
  | userptr (idx : Nat)
  | plane (idx : Nat)
deriving DecidableEq

namespace BatchStream

def setBuf (idx : Nat) (c : Container) (s : BatchStream) : BatchStream :=
  { s with buf := Function.update s.buf idx c }

/-- A copy loop over the entries of a container. -/
def copyIdx (cnt : Nat) (src dst : Nat → Int) : Nat → Int :=
  fun i => if i < cnt then src i else dst i

/-- Fills the container and gives it to the kernel. `qbuf` is whether `mm_stream_qbuf` succeeds. -/
def queueContainer (qbuf : Bool) (idx : Nat) (s : BatchStream) : Int × BatchStream :=
  let c := s.buf idx
  let cnt := c.bufsUsed.toNat
  let c := { c with contCnt := cnt, contIdx := copyIdx cnt c.bufIdx c.contIdx }
  if qbuf then
    let queued := s.queued ++ [(List.range cnt).map c.contIdx]
    let c := { c with
      bufIdx := copyIdx cnt (fun _ => -1) c.bufIdx, inKernel := true, bufInUse := true }
    (0, { s.setBuf idx c with queued })
  else (-1, s.setBuf idx c)

def IsFree (c : Container) : Prop := c.inKernel = false ∧ c.bufInUse = false

instance (c : Container) : Decidable (IsFree c) := inferInstanceAs (Decidable (_ ∧ _))

/-- The container that is being filled, or the first free one. -/
def fillIdx (s : BatchStream) : Option Nat :=
  if s.curBufIdx < 0 ∨ s.curBufIdx ≥ s.bufNum then
    (List.range s.bufNum).find? fun i => IsFree (s.buf i)
  else some s.curBufIdx.toNat

/-- A plane buffer is put into the container. The position `count` stays 0. -/
def stage (index idx : Nat) (s : BatchStream) : BatchStream :=
  let count := 0
  let c := s.buf index
  { s.setBuf index { c with bufIdx := Function.update c.bufIdx count idx } with
    curBufIdx := index
    curBufsStaged := s.curBufsStaged + 1 }

def decRefcnt (idx : Nat) (s : BatchStream) : BatchStream :=
  s.setBuf idx { s.buf idx with bufRefcnt := (s.buf idx).bufRefcnt - 1 }

def mmStreamWriteUserBuf (qbuf : Bool) (s : BatchStream) : BatchFrame → Int × BatchStream
  | .userptr idx =>
    let s := s.decRefcnt idx
    if (s.buf idx).bufRefcnt = 0 then s.queueContainer qbuf idx else (0, s)
  | .plane idx =>
    match s.fillIdx with
    | none => (-1, s)
    | some index =>
      let s := s.stage index idx
      if s.curBufsStaged = (s.buf index).bufsUsed then
        let s := s.decRefcnt index
        if (s.buf index).bufRefcnt = 0 then
          let (rc, s) := s.queueContainer qbuf index
          if rc < 0 then (rc, s) else (rc, { s with curBufsStaged := 0, curBufIdx := -1 })
        else (0, s)
      else (0, s)

def mmStreamBufDone (qbuf : Bool) (s : BatchStream) (frame : BatchFrame) : Int × BatchStream :=
  s.mmStreamWriteUserBuf qbuf frame

/-- The numbers and times of the plane buffers of a batch. -/
def planeFrames (frameID : UInt32) (start interval : Int) (cnt : Nat) : List PlaneBuf :=
  (List.range cnt).map fun i =>
    ⟨frameID + UInt32.ofNat i, Timespec.ofNsecs (i * interval + start)⟩

def stampPlanes (c : Container) (frames : List PlaneBuf) (planeBuf : Int → PlaneBuf) :
    Int → PlaneBuf :=
  (frames.zipIdx).foldl (fun planeBuf f => Function.update planeBuf (c.contIdx f.2) f.1) planeBuf

/-- The start and the interval for the plane buffers. `ts_delta` is an `int` that is divided as an
unsigned number. -/
def interval (cnt : Nat) (frameIdx : UInt32) (timeStamp : Int) (s : BatchStream) : Int × Int :=
  if s.prevTimestamp = 0 ∨ s.prevFrameID ≠ frameIdx + 1 then
    let intervalNsec := s.frameInterval * 1000000
    (timeStamp - cnt * intervalNsec, intervalNsec)
  else (s.prevTimestamp, (timeStamp - s.prevTimestamp) % 2 ^ 32 / cnt)

/-- What the plane buffers of the container get, or none if the container goes back unread. -/
def mmStreamReadUserBuf (idx : Nat) (s : BatchStream) : Option (List PlaneBuf) × BatchStream :=
  let c := s.buf idx
  let cnt := c.contCnt
  let frameID := if c.frameIdx = 1 then c.frameIdx else (c.frameIdx - 1) * UInt32.ofNat cnt
  let timeStamp := c.ts.toNsecs
  if timeStamp ≤ s.prevTimestamp then
    (none, s)
  else
    let (start, intervalNsec) := s.interval cnt c.frameIdx timeStamp
    let frames := planeFrames frameID start intervalNsec cnt
    let c' := { c with
      bufIdx := copyIdx cnt c.contIdx c.bufIdx
      ts := Timespec.ofNsecs start
      bufsUsed := UInt8.ofNat cnt
      bufInUse := true }
    (some frames, { s.setBuf idx c' with
      planeBuf := stampPlanes c frames s.planeBuf
      prevTimestamp := timeStamp
      prevFrameID := c.frameIdx })

def mmStreamReadMsmFrame (idx : Nat) (sequence : UInt32) (ts : Timespec) (s : BatchStream) :
    Option (List PlaneBuf) × BatchStream :=
  (s.setBuf idx { s.buf idx with frameIdx := sequence, ts }).mmStreamReadUserBuf idx

variable {s : BatchStream} {n : UInt8}

/-- Reads containers with consecutive batch numbers from `seq` on. Each batch is given by its time
and what the plane buffers get. -/
def readAll (seq : Nat) (s : BatchStream) : List (Nat × Timespec) → List (Int × List PlaneBuf)
  | [] => []
  | (idx, ts) :: reads =>
    let (frames, t) := s.mmStreamReadMsmFrame idx (UInt32.ofNat seq) ts
    (ts.toNsecs, frames.getD []) :: readAll (seq + 1) t reads

/-- The plane buffers are numbered and stamped in order, from the last batch's time on. -/
structure InOrder (batches : List (Int × List PlaneBuf)) : Prop where
  numbers : (batches.flatMap fun b => b.2.map (·.frameIdx)).Pairwise (· < ·)
  times : (batches.flatMap fun b => b.2.map (·.ts.toNsecs)).Pairwise (· ≤ ·)
  within : ∀ k a b, batches[k]? = some a → batches[k + 1]? = some b →
    ∀ f ∈ b.2, a.1 ≤ f.ts.toNsecs ∧ f.ts.toNsecs ≤ b.1

theorem mem_planeFrames {frameID : UInt32} {start interval : Int} {cnt i : Nat} (hi : i < cnt) :
    ⟨frameID + UInt32.ofNat i, Timespec.ofNsecs (i * interval + start)⟩ ∈
      planeFrames frameID start interval cnt :=
  List.mem_map.mpr ⟨i, List.mem_range.mpr hi, rfl⟩

theorem read_taken {idx : Nat} {sequence : UInt32} {ts : Timespec}
    (hlate : s.prevTimestamp < ts.toNsecs) :
    ∃ start interval t, s.mmStreamReadMsmFrame idx sequence ts =
        (some (planeFrames (if sequence = 1 then sequence
          else (sequence - 1) * UInt32.ofNat (s.buf idx).contCnt) start interval
          (s.buf idx).contCnt), t) ∧
      (∀ i, (t.buf i).contCnt = (s.buf i).contCnt) ∧ t.prevTimestamp = ts.toNsecs ∧
      (s.prevTimestamp = 0 → interval = s.frameInterval * 1000000) := by
  unfold mmStreamReadMsmFrame mmStreamReadUserBuf
  have hnot : ¬ts.toNsecs ≤ s.prevTimestamp := by omega
  simp only [setBuf, Function.update_self, Function.update_idem]
  rw [if_neg hnot]
  refine ⟨_, _, _, rfl, fun i => ?_, rfl, fun hzero => ?_⟩
  · grind
  · unfold interval
    dsimp only
    rw [if_pos (Or.inl hzero)]

theorem numbers_increasing (start interval : Int) (n : UInt8) :
    ((planeFrames 1 start interval n.toNat).map (·.frameIdx)).Pairwise (· < ·) := by
  unfold planeFrames
  rw [List.map_map, List.pairwise_map]
  refine List.pairwise_lt_range.imp_of_mem fun {i j} hi hj hlt => ?_
  have hn := n.toNat_lt
  have hi' := List.mem_range.mp hi
  have hj' := List.mem_range.mp hj
  have hval : ∀ k < n.toNat, (1 + UInt32.ofNat k).toNat = 1 + k := by
    intro k hk
    rw [UInt32.toNat_add, UInt32.toNat_ofNat']
    change (1 + k % 4294967296) % 4294967296 = 1 + k
    omega
  grind [UInt32.lt_iff_toNat_lt]

theorem times_ordered_iff (frameID : UInt32) (start interval : Int) (cnt : Nat) :
    ((planeFrames frameID start interval cnt).map (·.ts.toNsecs)).Pairwise (· ≤ ·) ↔
      cnt ≤ 1 ∨ 0 ≤ interval := by
  unfold planeFrames
  rw [List.map_map, List.pairwise_map]
  simp only [Function.comp_apply, Timespec.toNsecs_ofNsecs]
  constructor
  · intro h
    by_cases hcnt : cnt ≤ 1
    · exact Or.inl hcnt
    · refine Or.inr ?_
      have h01 := List.pairwise_iff_getElem.mp h 0 1 (by simp; omega) (by simp; omega) (by decide)
      simp at h01
      exact h01
  · rintro (hcnt | hint)
    · grind
    · refine List.pairwise_lt_range.imp fun {i j} hlt => ?_
      have hmul := mul_le_mul_of_nonneg_right (Int.ofNat_le.mpr (Nat.le_of_lt hlt)) hint
      exact Int.add_le_add_right hmul start

theorem readAll_cons {seq : Nat} {read : Nat × Timespec} (reads : List (Nat × Timespec))
    (hlate : s.prevTimestamp < read.2.toNsecs) (hcnt : ∀ i, (s.buf i).contCnt = n.toNat) :
    ∃ (start interval : Int) (t : BatchStream), s.readAll seq (read :: reads) =
        (read.2.toNsecs, planeFrames (if UInt32.ofNat seq = 1 then UInt32.ofNat seq
          else (UInt32.ofNat seq - 1) * UInt32.ofNat n.toNat) start interval n.toNat) ::
          t.readAll (seq + 1) reads ∧
      (∀ i, (t.buf i).contCnt = n.toNat) ∧ t.prevTimestamp = read.2.toNsecs ∧
      (s.prevTimestamp = 0 → interval = s.frameInterval * 1000000) := by
  obtain ⟨start, interval, t, ht, hbufs, hprev, hzero⟩ :=
    @read_taken s read.1 (UInt32.ofNat seq) read.2 hlate
  grind [readAll]

theorem second_repeats (hn : n ≠ 0) (hcnt : ∀ i, (s.buf i).contCnt = n.toNat)
    {first second : Nat × Timespec} (reads : List (Nat × Timespec))
    (hlate : s.prevTimestamp < first.2.toNsecs) (hlater : first.2.toNsecs < second.2.toNsecs) :
    ¬InOrder (s.readAll 1 (first :: second :: reads)) := by
  intro h
  obtain ⟨start, interval, t, ht, hbufs, hprev, -⟩ :=
    @readAll_cons s n 1 first (second :: reads) hlate hcnt
  obtain ⟨start', interval', u, hu, -⟩ :=
    @readAll_cons t n 2 second reads (hprev ▸ hlater) hbufs
  have hpos : 0 < n.toNat := Nat.pos_of_ne_zero fun h0 => hn (UInt8.toNat_inj.mp h0)
  have hid : (if UInt32.ofNat 2 = 1 then UInt32.ofNat 2
      else (UInt32.ofNat 2 - 1) * UInt32.ofNat n.toNat) = UInt32.ofNat n.toNat := by
    have hone : UInt32.ofNat 2 - 1 = 1 := rfl
    rw [if_neg (by decide), hone, UInt32.one_mul]
  rw [hid] at hu
  have hlast := @mem_planeFrames 1 start interval n.toNat (n.toNat - 1) (by omega)
  have hnext := @mem_planeFrames (UInt32.ofNat n.toNat) start' interval' n.toNat 0 hpos
  have hnum := h.numbers
  rw [ht, hu, List.flatMap_cons, List.flatMap_cons] at hnum
  have hlt := (List.pairwise_append.mp hnum).2.2 _ (List.mem_map_of_mem hlast) _
    (List.mem_append_left _ (List.mem_map_of_mem hnext))
  have hval : (1 + UInt32.ofNat (n.toNat - 1)).toNat =
      (UInt32.ofNat n.toNat + UInt32.ofNat 0).toNat := by
    have hn' := n.toNat_lt
    simp
    omega
  dsimp only at hlt
  rw [UInt32.lt_iff_toNat_lt, hval] at hlt
  exact Nat.lt_irrefl _ hlt

/-- A stream for batches of `n` with two containers, which the kernel has. -/
def readStream (n : UInt8) : BatchStream where
  bufNum := 2
  buf _ := { bufsUsed := n, bufInUse := true, contCnt := n.toNat, bufRefcnt := 0, inKernel := true }
  frameInterval := 8333

def twoReads : List (Nat × Timespec) := [(0, ⟨20, 0⟩), (1, ⟨21, 0⟩)]

end BatchStream

open Lib

namespace BatchStream

variable {s : BatchStream} {n : UInt8} {done : List Nat} {q r b index : Nat}

/-- A call of `mm_stream_buf_done` on a plane buffer. -/
def stageStep (s : BatchStream) (idx : Nat) : Option BatchStream :=
  some (s.mmStreamBufDone true (.plane idx)).2

/-- There is a container to fill, and the stream holds its only reference. -/
def Ready (s : BatchStream) : Prop :=
  ∃ index ∈ s.fillIdx, (s.buf index).bufRefcnt = 1

instance (s : BatchStream) : Decidable s.Ready :=
  match h : s.fillIdx with
  | none => isFalse (by simp [Ready, h])
  | some index =>
    decidable_of_iff ((s.buf index).bufRefcnt = 1) (by simp [Ready, h])

/-- A stream of batch size `n` before the first plane buffer is staged. -/
structure Unstaged (s : BatchStream) (n : UInt8) : Prop where
  curBufIdx : s.curBufIdx = -1
  curBufsStaged : s.curBufsStaged = 0
  queued : s.queued = []
  blank : ∀ i < s.bufNum, IsFree (s.buf i) →
    (s.buf i).bufsUsed = n ∧ ∀ j < n.toNat, (s.buf i).bufIdx j = -1

/-- The plane buffers in batches of `n`, without those of a last batch that is not full. -/
def fullBatches (n : Nat) (planes : List Nat) : List (List Int) :=
  (List.range (planes.length / n)).map fun k => ((planes.drop (n * k)).take n).map fun b : Nat => (b : Int)

/-- What the containers list: the last buffer of each batch. -/
def lastOfBatches (n q : Nat) (planes : List Nat) : List (List Int) :=
  (List.range q).map fun k => (planes.getD (n * k + (n - 1)) 0 : Int) :: List.replicate (n - 1) (-1)

/-- After the plane buffers `done`, `q` batches are full and `r` buffers are staged. -/
structure Staging (s : BatchStream) (n : UInt8) (done : List Nat) (q r : Nat) : Prop where
  length : done.length = n.toNat * q + r
  lt : r < n.toNat
  staged : s.curBufsStaged.toNat = r
  current : s.curBufIdx < 0 ∨ s.curBufIdx ≥ s.bufNum ∨ IsFree (s.buf s.curBufIdx.toNat)
  blank : ∀ i < s.bufNum, IsFree (s.buf i) →
    (s.buf i).bufsUsed = n ∧ ∀ j < n.toNat, j ≠ 0 → (s.buf i).bufIdx j = -1
  queued : s.queued = lastOfBatches n.toNat q done

theorem Unstaged.staging (h : s.Unstaged n) (hn : n ≠ 0) : s.Staging n [] 0 0 := by
  have hpos : 0 < n.toNat := by
    refine Nat.pos_of_ne_zero fun h0 => hn ?_
    exact UInt8.toNat_inj.mp h0
  refine ⟨by simp, hpos, by rw [h.curBufsStaged]; rfl, Or.inl (by rw [h.curBufIdx]; decide),
    fun i hi hfree => ?_, h.queued⟩
  obtain ⟨hused, hblank⟩ := h.blank i hi hfree
  exact ⟨hused, fun j hj _ => hblank j hj⟩

theorem fillIdx_free (h : s.Staging n done q r) (hfill : s.fillIdx = some index) :
    index < s.bufNum ∧ IsFree (s.buf index) := by
  unfold fillIdx at hfill
  split at hfill
  next =>
    grind
  next hin =>
    rw [not_or] at hin
    cases Option.some.inj hfill
    refine ⟨by omega, ?_⟩
    exact (h.current.resolve_left hin.1).resolve_left hin.2

theorem lastOfBatches_append {n q : Nat} {done later : List Nat} (hlen : n * q ≤ done.length)
    (hn : 0 < n) : lastOfBatches n q (done ++ later) = lastOfBatches n q done := by
  refine List.map_congr_left fun k hk => ?_
  have hlt : n * k + (n - 1) < done.length := by
    have hk' : k + 1 ≤ q := List.mem_range.mp hk
    have hmul := Nat.mul_le_mul_left n hk'
    rw [Nat.mul_succ] at hmul
    omega
  rw [List.getD_append _ _ _ _ hlt]

theorem copied_slots {cnt : Nat} {src dst : Nat → Int} (hcnt : 0 < cnt)
    (hblank : ∀ j < cnt, j ≠ 0 → src j = -1) :
    (List.range cnt).map (copyIdx cnt (Function.update src 0 b) dst) =
      (b : Int) :: List.replicate (cnt - 1) (-1) := by
  refine List.ext_getElem (by simp; omega) fun j hj _ => ?_
  have hlt : j < cnt := by simpa using hj
  rw [List.getElem_map, List.getElem_range]
  unfold copyIdx
  rw [if_pos hlt]
  cases j with
  | zero => simp
  | succ j =>
    grind

theorem bufDone_stage (hfill : s.fillIdx = some index)
    (hpart : s.curBufsStaged + 1 ≠ (s.buf index).bufsUsed) :
    (s.mmStreamBufDone true (.plane b)).2 = s.stage index b := by
  have hcond : (s.stage index b).curBufsStaged ≠ ((s.stage index b).buf index).bufsUsed := by
    simpa [stage, setBuf] using hpart
  unfold mmStreamBufDone mmStreamWriteUserBuf
  rw [hfill]
  dsimp only
  rw [if_neg hcond]

theorem bufDone_full (hfill : s.fillIdx = some index) (hone : (s.buf index).bufRefcnt = 1)
    (hlast : s.curBufsStaged + 1 = (s.buf index).bufsUsed) (hcnt : 0 < (s.buf index).bufsUsed.toNat)
    (hblank : ∀ j < (s.buf index).bufsUsed.toNat, j ≠ 0 → (s.buf index).bufIdx j = -1) :
    ∃ c, c.inKernel = true ∧ (s.mmStreamBufDone true (.plane b)).2 = { s.setBuf index c with
      curBufIdx := -1
      curBufsStaged := 0
      queued := s.queued ++ [(b : Int) :: List.replicate ((s.buf index).bufsUsed.toNat - 1) (-1)] } := by
  have hcond : (s.stage index b).curBufsStaged = ((s.stage index b).buf index).bufsUsed := by
    simpa [stage, setBuf] using hlast
  have hzero : (((s.stage index b).decRefcnt index).buf index).bufRefcnt = 0 := by
    simp [stage, decRefcnt, setBuf, hone]
  unfold mmStreamBufDone mmStreamWriteUserBuf
  rw [hfill]
  dsimp only
  rw [if_pos hcond, if_pos hzero]
  have hlist := @copied_slots b _ _ (s.buf index).contIdx hcnt hblank
  refine ⟨(((s.stage index b).decRefcnt index).queueContainer true index).2.buf index, ?_, ?_⟩
  · simp [queueContainer, setBuf]
  · unfold queueContainer
    rw [if_pos rfl]
    simp only [stage, decRefcnt, setBuf, Function.update_self, Function.update_idem, hlist,
      lt_irrefl, if_false]

theorem Staging.step (h : s.Staging n done q r) (ready : s.Ready) (b : Nat) :
    ∃ q' r', (s.mmStreamBufDone true (.plane b)).2.Staging n (done ++ [b]) q' r' := by
  obtain ⟨index, hfill, hone⟩ := ready
  obtain ⟨hidx, hfree⟩ := fillIdx_free h hfill
  obtain ⟨hused, hblank⟩ := h.blank index hidx hfree
  have hpos : 0 < n.toNat := Nat.lt_of_le_of_lt (Nat.zero_le r) h.lt
  have hlen : (done ++ [b]).length = n.toNat * q + r + 1 := by
    rw [List.length_append, h.length, List.length_singleton]
  have hstaged : (s.curBufsStaged + 1).toNat = r + 1 := by
    have hn := n.toNat_lt
    have hr := h.lt
    rw [UInt8.toNat_add, h.staged]
    change (r + 1) % 256 = r + 1
    exact Nat.mod_eq_of_lt (by omega)
  have hlen_le : n.toNat * q ≤ done.length := h.length ▸ Nat.le_add_right _ r
  have hqueued := @lastOfBatches_append _ _ _ [b] hlen_le hpos
  by_cases hlast : s.curBufsStaged + 1 = n
  · have hr : r + 1 = n.toNat := by rw [← hstaged, hlast]
    rw [← hused] at hlast hblank hpos
    obtain ⟨c, hkernel, ht⟩ := @bufDone_full s b index hfill hone hlast hpos hblank
    rw [ht]
    refine ⟨q + 1, 0, ?_, hused ▸ hpos, rfl, Or.inl (by dsimp only; decide), fun i hi hf => ?_, ?_⟩
    · rw [hlen, Nat.mul_succ]
      omega
    · by_cases he : i = index
      · subst he
        have hin : (Function.update s.buf i c i).inKernel = false := hf.1
        rw [Function.update_self, hkernel] at hin
        cases hin
      · have hold : (s.setBuf index c).buf i = s.buf i := Function.update_of_ne he _ _
        have hf' : IsFree (s.buf i) := hold ▸ hf
        simpa [hold] using h.blank i hi hf'
    · have hget : (done ++ [b]).getD (n.toNat * q + (n.toNat - 1)) 0 = b := by
        have hat : n.toNat * q + (n.toNat - 1) = done.length := by
          rw [h.length]
          omega
        rw [hat, List.getD_append_right _ _ _ _ (Nat.le_refl _), Nat.sub_self]
        rfl
      dsimp only
      unfold lastOfBatches at hqueued ⊢
      rw [List.range_succ, List.map_append, hqueued, List.map_singleton, hget, h.queued, hused]
      rfl
  · rw [← hused] at hlast
    rw [bufDone_stage hfill hlast]
    rw [hused] at hlast
    refine ⟨q, r + 1, ?_, ?_, hstaged, Or.inr (Or.inr ?_), fun i hi hf => ?_, ?_⟩
    · rw [hlen]
      rfl
    · refine Nat.lt_of_le_of_ne h.lt fun he => hlast ?_
      exact UInt8.toNat_inj.mp (hstaged.trans he)
    · change IsFree (Function.update s.buf index _ (Int.toNat index))
      rw [Int.toNat_natCast, Function.update_self]
      exact hfree
    · by_cases he : i = index
      · subst he
        refine ⟨?_, fun j hj hj0 => ?_⟩
        · simpa [stage, setBuf] using hused
        · simpa [stage, setBuf, Function.update_of_ne hj0] using hblank j hj hj0
      · have hold : (s.stage index b).buf i = s.buf i := Function.update_of_ne he _ _
        rw [hold] at hf ⊢
        exact h.blank i hi hf
    · rw [hqueued]
      exact h.queued

theorem Staging.run {planes : List Nat} (h : s.Staging n done q r)
    (meet : OpsMeet stageStep (fun s _ => s.Ready) s planes) :
    ∃ t q' r', runOps stageStep s planes = some t ∧ t.Staging n (done ++ planes) q' r' := by
  induction planes generalizing s done q r with
  | nil => exact ⟨s, q, r, rfl, by rwa [List.append_nil]⟩
  | cons b planes ih =>
    obtain ⟨q', r', hnext⟩ := h.step meet.1 b
    obtain ⟨t, q'', r'', hrun, ht⟩ := ih hnext (meet.2 _ rfl)
    refine ⟨t, q'', r'', hrun, ?_⟩
    rwa [List.append_assoc] at ht

theorem lastOfBatches_eq_fullBatches {n q r : Nat} {planes : List Nat}
    (hlen : planes.length = n * q + r) (hr : r < n) :
    lastOfBatches n q planes = fullBatches n planes ↔ n = 1 ∨ planes.length < n := by
  have hq : planes.length / n = q := by
    rw [hlen, Nat.mul_add_div (by omega), Nat.div_eq_of_lt hr, Nat.add_zero]
  unfold lastOfBatches fullBatches
  rw [hq]
  constructor
  · intro heq
    cases q with
    | zero =>
      rw [hlen, Nat.mul_zero, Nat.zero_add]
      exact Or.inr hr
    | succ q =>
      refine Or.inl ?_
      by_contra hn
      have hfirst := List.map_inj_left.mp heq 0 (List.mem_range.mpr (Nat.succ_pos q))
      have hneg : (-1 : Int) ∈ (planes.getD (n * 0 + (n - 1)) 0 : Int) ::
          List.replicate (n - 1) (-1) :=
        List.mem_cons_of_mem _ (List.mem_replicate.mpr ⟨by omega, rfl⟩)
      grind
  · rintro (rfl | hlt)
    · refine List.map_congr_left fun k hk => ?_
      have hlt : k < planes.length := by
        have := List.mem_range.mp hk
        omega
      rw [Nat.one_mul, List.drop_eq_getElem_cons hlt, List.take_succ_cons]
      simp [hlt]
    · have hzero : q = 0 := by
        rw [← hq]
        exact Nat.div_eq_of_lt hlt
      rw [hzero]
      rfl

/-- Each container carries the buffers staged for it exactly if batches have one buffer, or no
batch gets full. -/
theorem carries_iff_single (s : BatchStream) (n : UInt8) (hn : n ≠ 0) (h : s.Unstaged n)
    (planes : List Nat) (meet : OpsMeet stageStep (fun s _ => s.Ready) s planes) :
    ∃ t, runOps stageStep s planes = some t ∧
      (t.queued = fullBatches n.toNat planes ↔ n = 1 ∨ planes.length < n.toNat) := by
  obtain ⟨t, q, r, hrun, ht⟩ := (h.staging hn).run meet
  refine ⟨t, hrun, ?_⟩
  have hone : n = 1 ↔ n.toNat = 1 := UInt8.toNat_inj.symm
  rw [ht.queued, hone]
  exact lastOfBatches_eq_fullBatches ht.length ht.lt

/-- A stream with free containers for batches of `n`. -/
def freeStream (n : UInt8) (bufNum : Nat) : BatchStream where
  bufNum
  buf _ := { bufsUsed := n, bufInUse := false, bufRefcnt := 1, inKernel := false }
  frameInterval := 8333

theorem freeStream_unstaged (n : UInt8) (bufNum : Nat) : (freeStream n bufNum).Unstaged n :=
  ⟨rfl, rfl, rfl, fun _ _ _ => ⟨rfl, fun _ _ => rfl⟩⟩

theorem singles_carried : ∃ t, runOps stageStep (freeStream 1 2) [4, 5] = some t ∧
    (t.queued = fullBatches 1 [4, 5] ↔ (1 : UInt8) = 1 ∨ [4, 5].length < 1) :=
  carries_iff_single (freeStream 1 2) 1 (by decide) (freeStream_unstaged 1 2) [4, 5] (by decide)

/-- Of two plane buffers the container lists the second, and an empty slot. -/
theorem pair_loses_first : ∃ t, runOps stageStep (freeStream 2 1) [4, 5] = some t ∧
    t.queued = [[5, -1]] ∧ t.queued ≠ fullBatches 2 [4, 5] :=
  ⟨_, rfl, by decide, by decide⟩

end BatchStream

end DeviceHal.Camera
