import DeviceHal.Camera.StreamBufs
import DeviceHal.Lib.Run
import Mathlib.Data.List.Nodup
import Mathlib.Data.List.Perm.Basic

namespace DeviceHal.Camera

open Lib

namespace StreamBufs

/-- The buffers against the references to them. A `fresh` buffer is out of the kernel and has no
reference yet. -/
structure Inv (b : StreamBufs) (refs : List Nat) (fresh : Nat → Prop) : Prop where
  refcnt : ∀ idx, (b.bufStatus idx).bufRefcnt = refs.count idx
  kernel : ∀ idx < b.bufNum, (idx ∈ b.kernel ↔ idx ∉ refs ∧ ¬fresh idx)
  kernel_lt : ∀ idx ∈ b.kernel, idx < b.bufNum
  refs_lt : ∀ idx ∈ refs, idx < b.bufNum
  fresh : ∀ idx, fresh idx → idx < b.bufNum ∧ idx ∉ refs
  nodup : b.kernel.Nodup
  count : b.queuedBufferCount = b.kernel.length
  polled : b.polled = true ↔ 0 < b.queuedBufferCount

variable {b : StreamBufs} {refs : List Nat} {fresh fresh' : Nat → Prop} {idx : Nat}

theorem Inv.perm {refs' : List Nat} (h : b.Inv refs fresh) (hp : refs.Perm refs')
    (hf : ∀ idx, fresh idx ↔ fresh' idx) : b.Inv refs' fresh' where
  refcnt idx := (h.refcnt idx).trans (hp.count_eq idx)
  kernel idx hlt := by rw [h.kernel idx hlt, hp.mem_iff, hf]
  kernel_lt := h.kernel_lt
  refs_lt idx hm := h.refs_lt idx (hp.mem_iff.mpr hm)
  fresh idx hfresh := by
    obtain ⟨hlt, hno⟩ := h.fresh idx ((hf idx).mpr hfresh)
    exact ⟨hlt, fun hm => hno (hp.mem_iff.mpr hm)⟩
  nodup := h.nodup
  count := h.count
  polled := h.polled

theorem Inv.read (h : b.Inv refs fun _ => False) (hk : idx ∈ b.kernel) :
    (b.mmStreamReadMsmFrame idx).Inv refs (· = idx) := by
  have hlen := List.length_erase_of_mem hk
  have hno : idx ∉ refs := ((h.kernel idx (h.kernel_lt idx hk)).mp hk).1
  refine ⟨h.refcnt, fun x hlt => ?_, fun x hx => h.kernel_lt x (List.mem_of_mem_erase hx),
    h.refs_lt, fun x hx => ⟨?_, ?_⟩, h.nodup.erase idx, ?_, ?_⟩
  · change x ∈ b.kernel.erase idx ↔ _
    rw [h.nodup.mem_erase_iff, h.kernel x hlt]
    grind
  · exact hx ▸ h.kernel_lt idx hk
  · exact hx ▸ hno
  · change b.queuedBufferCount - 1 = (b.kernel.erase idx).length
    rw [hlen, h.count]
  · have hpos : 0 < b.queuedBufferCount := by
      rw [h.count]
      exact List.length_pos_of_mem hk
    change (b.polled && b.queuedBufferCount - 1 ≠ 0) = true ↔ 0 < b.queuedBufferCount - 1
    rw [h.polled.mpr hpos, Bool.true_and, decide_eq_true_iff]
    omega

theorem Inv.addRefs (h : b.Inv refs fresh) (n : Nat) (hlt : idx < b.bufNum) (hk : idx ∉ b.kernel)
    (hf : ∀ x, fresh' x ↔ fresh x ∧ (x ≠ idx ∨ n = 0)) :
    (b.addRefs idx n).Inv (List.replicate n idx ++ refs) fresh' := by
  have hmem : ∀ x, x ∈ List.replicate n idx ++ refs ↔ n ≠ 0 ∧ x = idx ∨ x ∈ refs := by
    intro x
    rw [List.mem_append, List.mem_replicate]
  refine ⟨fun x => ?_, fun x hx => ?_, h.kernel_lt, fun x hx => ?_, fun x hx => ?_, h.nodup,
    h.count, h.polled⟩
  · rw [List.count_append, List.count_replicate]
    by_cases he : x = idx
    · subst he
      simp [StreamBufs.addRefs, setStatus, h.refcnt x]
      omega
    · simp [StreamBufs.addRefs, setStatus, Function.update_of_ne he, h.refcnt x, Ne.symm he]
  · change x ∈ b.kernel ↔ _
    rw [hmem, hf]
    by_cases he : x = idx
    · subst he
      refine ⟨fun hx => absurd hx hk, fun hx => (h.kernel x hlt).mpr ?_⟩
      grind
    · rw [h.kernel x hx]
      simp [he]
  · rcases (hmem x).mp hx with ⟨-, rfl⟩ | hx
    · exact hlt
    · exact h.refs_lt x hx
  · obtain ⟨hfresh, hne⟩ := (hf x).mp hx
    refine ⟨(h.fresh x hfresh).1, fun hm => ?_⟩
    rcases (hmem x).mp hm with ⟨hn, he⟩ | hm
    · exact hne.elim (fun hx => hx he) hn
    · exact (h.fresh x hfresh).2 hm

theorem Inv.bufDone (h : b.Inv (idx :: refs) fresh) : (b.mmStreamBufDone idx).Inv refs fresh := by
  have hcnt := h.refcnt idx
  rw [List.count_cons_self] at hcnt
  have hlt := h.refs_lt idx List.mem_cons_self
  have hother : ∀ x, x ≠ idx → (b.bufStatus x).bufRefcnt = refs.count x := by
    intro x hx
    rw [h.refcnt x, List.count_cons_of_ne (Ne.symm hx)]
  have hrefs : ∀ x ∈ refs, x < b.bufNum := fun x hx => h.refs_lt x (List.mem_cons_of_mem _ hx)
  have hfresh : ∀ x, fresh x → x < b.bufNum ∧ x ∉ refs := fun x hx =>
    ⟨(h.fresh x hx).1, fun hm => (h.fresh x hx).2 (List.mem_cons_of_mem _ hm)⟩
  have hkernel : ∀ x < b.bufNum, x ≠ idx → (x ∈ b.kernel ↔ x ∉ refs ∧ ¬fresh x) := by
    intro x hx hne
    rw [h.kernel x hx]
    simp [hne]
  have hin : idx ∉ b.kernel := fun hk => ((h.kernel idx hlt).mp hk).1 List.mem_cons_self
  have hnot : ¬fresh idx := fun hx => (h.fresh idx hx).2 List.mem_cons_self
  unfold mmStreamBufDone
  dsimp only
  rw [hcnt, if_neg (Nat.succ_ne_zero _), Nat.add_sub_cancel]
  split
  next hlast =>
    have hno : idx ∉ refs := List.count_eq_zero.mp hlast
    refine ⟨fun x => ?_, fun x hx => ?_, fun x hx => ?_, hrefs, hfresh, ?_, ?_, ?_⟩
    · by_cases he : x = idx
      · subst he
        simp [mmStreamQbuf, setStatus]
      · simpa [mmStreamQbuf, setStatus, Function.update_of_ne he] using hother x he
    · change x ∈ b.kernel ++ [idx] ↔ _
      rw [List.mem_append, List.mem_singleton]
      by_cases he : x = idx
      · grind
      · rw [hkernel x hx he]
        simp [he]
    · rcases List.mem_append.mp hx with hx | hx
      · exact h.kernel_lt x hx
      · exact List.mem_singleton.mp hx ▸ hlt
    · refine List.nodup_append.mpr ⟨h.nodup, List.nodup_singleton _, fun x hx y hy he => ?_⟩
      rw [List.mem_singleton.mp hy] at he
      exact hin (he ▸ hx)
    · change b.queuedBufferCount + 1 = (b.kernel ++ [idx]).length
      rw [h.count, List.length_append]
      rfl
    · change (b.polled || b.queuedBufferCount + 1 = 1) = true ↔ 0 < b.queuedBufferCount + 1
      rw [Bool.or_eq_true, h.polled, decide_eq_true_iff]
      omega
  next hleft =>
    have hm : idx ∈ refs := by
      by_contra hno
      exact hleft (List.count_eq_zero.mpr hno)
    refine ⟨fun x => ?_, fun x hx => ?_, h.kernel_lt, hrefs, hfresh, h.nodup, h.count, h.polled⟩
    · by_cases he : x = idx
      · subst he
        simp [setStatus]
      · simpa [setStatus, Function.update_of_ne he] using hother x he
    · by_cases he : x = idx
      · subst he
        exact ⟨fun hk => absurd hk hin, fun hx => absurd hm hx.1⟩
      · exact hkernel x hx he

end StreamBufs

namespace PollThread

/-- References that are counted and not handed out yet. -/
def pending (isBundled : Bool) : PollThread → List Nat
  | .counted idx hasCb => List.replicate (isBundled.toNat + hasCb.toNat) idx
  | .notified idx hasCb | .linked idx hasCb => List.replicate hasCb.toNat idx
  | _ => []

/-- A buffer that was read and has had no reference yet. -/
def Fresh (isBundled : Bool) (idx : Nat) : PollThread → Prop
  | .read j | .called j _ => idx = j
  | .counted j hasCb | .notified j hasCb => idx = j ∧ isBundled = false ∧ hasCb = false
  | _ => False

/-- References to the buffer are still to be handed out. -/
def Pending (isBundled isLinked : Bool) (idx : Nat) : PollThread → Prop
  | .idle => False
  | .read j | .called j _ => idx = j
  | .counted j hasCb => idx = j ∧ (isBundled || isLinked || hasCb) = true
  | .notified j hasCb => idx = j ∧ (isLinked || hasCb) = true
  | .linked j hasCb => idx = j ∧ hasCb = true

def idx? : PollThread → Option Nat
  | .idle => none
  | .read idx | .called idx _ | .counted idx _ | .notified idx _ | .linked idx _ => some idx

def hasCb : PollThread → Bool
  | .called _ hasCb | .counted _ hasCb | .notified _ hasCb | .linked _ hasCb => hasCb
  | _ => false

end PollThread

/-- The reference of a message that the thread works on. -/
def CmdThread.refs : CmdThread → List Nat
  | .idle => []
  | .dispatching idx _ => [idx]

namespace StreamSystem

/-- References that a message or a client holds. -/
def refs (s : StreamSystem) : List Nat :=
  s.channelRefs ++ s.linkedRefs ++ s.cmdQueue ++ s.cmd.refs ++ s.clientRefs

/-- A buffer with a reference is not in the kernel, one without is unless references to it are
still to be handed out, and the count and the polling follow the kernel. -/
structure Owned (s : StreamSystem) : Prop where
  unheld : ∀ idx ∈ s.bufs.kernel, idx ∉ s.refs
  back : ∀ idx < s.bufs.bufNum,
    idx ∈ s.bufs.kernel ∨ idx ∈ s.refs ∨ s.poll.Pending s.isBundled s.isLinked idx
  once : s.bufs.kernel.Nodup
  count : s.bufs.queuedBufferCount = s.bufs.kernel.length
  polled : s.bufs.polled = true ↔ 0 < s.bufs.queuedBufferCount

/-- The references that the buffers count are held by a message or a client, or still to be handed
out. -/
def Counts (s : StreamSystem) : Prop :=
  s.bufs.Inv (s.poll.pending s.isBundled ++ s.refs) fun idx => s.poll.Fresh s.isBundled idx

structure Inv (s : StreamSystem) : Prop where
  bufs : s.bufs.Inv (s.poll.pending s.isBundled ++ s.refs) (fun idx => s.poll.Fresh s.isBundled idx)
  used : (s.isBundled || s.isLinked) = true
  handled : ∀ idx ∈ s.poll.idx?, idx < s.bufs.bufNum
  active : hasAsync s.bufCb = true ∨ s.poll.hasCb = true → s.cmdActive = true

variable {s t : StreamSystem}

theorem Inv.owned (h : s.Inv) : s.Owned := by
  have hk := h.bufs.kernel
  refine ⟨fun idx hm hr => ?_, fun idx hlt => ?_, h.bufs.nodup, h.bufs.count, h.bufs.polled⟩
  · exact ((hk idx (h.bufs.kernel_lt idx hm)).mp hm).1 (List.mem_append_right _ hr)
  · by_cases hm : idx ∈ s.bufs.kernel
    · exact Or.inl hm
    · refine Or.inr ?_
      by_cases hr : idx ∈ s.refs
      · exact Or.inl hr
      · refine Or.inr ?_
        have hused := h.used
        have hout : idx ∈ s.poll.pending s.isBundled ∨ s.poll.Fresh s.isBundled idx := by
          by_contra hno
          rw [not_or] at hno
          refine hm ((hk idx hlt).mpr ⟨fun hx => ?_, hno.2⟩)
          exact (List.mem_append.mp hx).elim hno.1 hr
        cases hp : s.poll with
        | idle => simp [hp, PollThread.pending, PollThread.Fresh] at hout
        | read j => simpa [hp, PollThread.pending, PollThread.Fresh, PollThread.Pending] using hout
        | called j hasCb =>
          simpa [hp, PollThread.pending, PollThread.Fresh, PollThread.Pending] using hout
        | counted j hasCb =>
          have he : idx = j := by
            rw [hp] at hout
            exact hout.elim (fun hx => (List.mem_replicate.mp hx).2) fun hx => hx.1
          exact ⟨he, by simp [hused]⟩
        | notified j hasCb =>
          rw [hp] at hout
          rcases hout with hx | ⟨he, hb, -⟩
          · obtain ⟨hn, he⟩ := List.mem_replicate.mp hx
            cases hasCb with
            | false => exact absurd rfl hn
            | true => exact ⟨he, Bool.or_true _⟩
          · rw [hb, Bool.false_or] at hused
            exact ⟨he, by simp [hused]⟩
        | linked j hasCb =>
          rw [hp] at hout
          rcases hout with hx | hx
          · obtain ⟨hn, he⟩ := List.mem_replicate.mp hx
            cases hasCb with
            | false => exact absurd rfl hn
            | true => exact ⟨he, rfl⟩
          · exact absurd hx id

end StreamSystem

end DeviceHal.Camera
