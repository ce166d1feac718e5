import DeviceHal.Camera.StreamOwner

namespace DeviceHal.Camera

open Lib

/-- There is memory for the message of the step. -/
def StreamOp.Allocs : StreamOp → Prop
  | .notifyChannel alloc | .notifyLinked alloc | .sendCmd alloc => alloc = true
  | _ => True

theorem StreamBufs.Inv.notInKernel {b : StreamBufs} {refs : List Nat} {fresh : Nat → Prop}
    (h : b.Inv refs fresh) (idx : Nat) :
    (b.setStatus idx { b.bufStatus idx with inKernel := false }).Inv refs fresh := by
  refine ⟨fun x => ?_, h.kernel, h.kernel_lt, h.refs_lt, h.fresh, h.nodup, h.count, h.polled⟩
  rw [← h.refcnt x]
  by_cases he : x = idx
  · subst he
    simp [StreamBufs.setStatus]
  · simp [StreamBufs.setStatus, Function.update_of_ne he]

namespace StreamSystem

variable {s t : StreamSystem}

/-- The linked channel gets its reference before the buffer is back in the kernel. -/
def NoRace (s : StreamSystem) : StreamOp → Prop
  | .notifyLinked _ =>
    match s.poll with
    | .notified idx _ => s.isLinked = true → idx ∉ s.bufs.kernel
    | _ => True
  | _ => True

theorem afterCall_sync {cb cb' : StreamDataCb} (h : cb.afterCall = some cb') : cb'.sync = cb.sync := by
  grind [StreamDataCb.afterCall]

variable {bufCb : List (Option StreamDataCb)}

theorem hasAsync_of_sync
    (h : hasAsync (mmStreamDispatchSyncData bufCb) = true) : hasAsync bufCb = true := by
  unfold hasAsync mmStreamDispatchSyncData at h
  rw [List.any_map, List.any_eq_true] at h
  obtain ⟨cb, hm, hasync⟩ := h
  refine List.any_eq_true.mpr ⟨cb, hm, ?_⟩
  cases cb with
  | none => simp at hasync
  | some cb =>
    cases hs : cb.sync with
    | false => simp [hs]
    | true =>
      simp only [Function.comp_apply, Option.bind_some, hs, if_true, Option.any_eq_true] at hasync
      obtain ⟨cb', he, hno⟩ := hasync
      rw [afterCall_sync he, hs] at hno
      cases hno

theorem hasAsync_of_set {i : Nat} {cb : StreamDataCb}
    (hcb : bufCb[i]?.join = some cb) (h : hasAsync (bufCb.set i cb.afterCall) = true) :
    hasAsync bufCb = true := by
  unfold hasAsync at h ⊢
  obtain ⟨x, hm, hasync⟩ := List.any_eq_true.mp h
  rcases List.mem_or_eq_of_mem_set hm with hm | rfl
  · exact List.any_eq_true.mpr ⟨x, hm, hasync⟩
  · obtain ⟨cb', he, hno⟩ := Option.any_eq_true _ _ |>.mp hasync
    rw [afterCall_sync he] at hno
    exact List.any_eq_true.mpr
      ⟨some cb, List.mem_of_getElem? (Option.join_eq_some_iff.mp hcb), by simpa using hno⟩

variable {idx : Nat}

theorem Inv.readMsmFrame (h : s.Inv) (hp : s.poll = .idle) (hk : idx ∈ s.bufs.kernel) :
    Inv { s with bufs := s.bufs.mmStreamReadMsmFrame idx, poll := .read idx } := by
  have hbufs := h.bufs
  rw [hp] at hbufs
  refine ⟨hbufs.read hk, h.used, fun x hx => ?_, fun hactive => h.active ?_⟩
  · exact Option.some.inj hx ▸ hbufs.kernel_lt idx hk
  exact hactive.elim Or.inl fun hx => absurd hx Bool.false_ne_true

theorem Inv.syncCallbacks (h : s.Inv) (hp : s.poll = .read idx) : Inv { s with
      bufCb := mmStreamDispatchSyncData s.bufCb, poll := .called idx (hasAsync s.bufCb) } := by
  have hbufs := h.bufs
  have hhandled := h.handled
  rw [hp] at hbufs hhandled
  refine ⟨hbufs, h.used, hhandled, fun hactive => h.active (Or.inl ?_)⟩
  exact hactive.elim hasAsync_of_sync id

variable {hasCb : Bool}

theorem Inv.countRefs (h : s.Inv) (hp : s.poll = .called idx hasCb) : Inv { s with
      bufs := (s.bufs.setStatus idx { s.bufs.bufStatus idx with inKernel := false }).addRefs idx
        (s.isBundled.toNat + hasCb.toNat)
      poll := .counted idx hasCb } := by
  have hbufs := h.bufs
  have hhandled := h.handled
  have hactive := h.active
  rw [hp] at hbufs hhandled hactive
  have hfresh := hbufs.fresh idx rfl
  have hk : idx ∉ s.bufs.kernel := fun hm => ((hbufs.kernel idx hfresh.1).mp hm).2 rfl
  refine ⟨(hbufs.notInKernel idx).addRefs _ hfresh.1 hk fun x => ?_, h.used, hhandled,
    hactive⟩
  change x = idx ∧ s.isBundled = false ∧ hasCb = false ↔
    x = idx ∧ (x ≠ idx ∨ s.isBundled.toNat + hasCb.toNat = 0)
  cases s.isBundled <;> cases hasCb <;> simp

theorem Inv.notifyChannel (h : s.Inv) (hp : s.poll = .counted idx hasCb) : Inv { s with
      channelRefs := if s.isBundled && true then idx :: s.channelRefs else s.channelRefs
      poll := .notified idx hasCb } := by
  have hbufs := h.bufs
  have hhandled := h.handled
  have hactive := h.active
  rw [hp] at hbufs hhandled hactive
  refine ⟨hbufs.perm ?_ fun x => Iff.rfl, h.used, hhandled, hactive⟩
  change (List.replicate (s.isBundled.toNat + hasCb.toNat) idx ++ s.refs).Perm _
  unfold refs
  dsimp only
  cases s.isBundled <;> cases hasCb <;> exact List.Perm.refl _

theorem Inv.notifyLinked (h : s.Inv)
    (hp : s.poll = .notified idx hasCb) (hk : s.isLinked = true → idx ∉ s.bufs.kernel) :
    Inv { s with
      bufs := if s.isLinked then s.bufs.addRefs idx 1 else s.bufs
      linkedRefs := if s.isLinked && true then idx :: s.linkedRefs else s.linkedRefs
      poll := .linked idx hasCb } := by
  have hbufs := h.bufs
  have hhandled := h.handled
  have hactive := h.active
  rw [hp] at hbufs hhandled hactive
  have hlt := hhandled idx rfl
  cases hl : s.isLinked with
  | false =>
    have hb : s.isBundled = true := by simpa [hl] using h.used
    refine ⟨hbufs.perm (List.Perm.refl _) fun x => ?_, by simpa [hl] using h.used, hhandled, hactive⟩
    change x = idx ∧ s.isBundled = false ∧ hasCb = false ↔ False
    simp [hb]
  | true =>
    have hnone : ∀ x, False ↔ PollThread.Fresh s.isBundled x (.notified idx hasCb) ∧
        (x ≠ idx ∨ 1 = 0) := by
      intro x
      refine ⟨False.elim, fun hx => ?_⟩
      exact hx.2.elim (fun hne => hne hx.1.1) (by decide)
    refine ⟨(hbufs.addRefs 1 hlt (hk hl) hnone).perm ?_ fun x => Iff.rfl, by simp, hhandled,
      hactive⟩
    refine List.perm_iff_count.mpr fun x => ?_
    simp only [refs, PollThread.pending, List.count_append, List.count_cons, List.replicate_one,
      List.count_nil, Bool.true_and, if_true]
    omega

theorem Inv.sendCmd (h : s.Inv) (hp : s.poll = .linked idx hasCb) : Inv { s with
      cmdQueue := if hasCb && s.cmdActive && true then s.cmdQueue ++ [idx] else s.cmdQueue
      poll := .idle } := by
  have hbufs := h.bufs
  have hactive := h.active
  rw [hp] at hbufs hactive
  refine ⟨hbufs.perm ?_ fun x => Iff.rfl, h.used, fun x hx => ?_, fun hasync => ?_⟩
  · cases hc : hasCb with
    | false => exact List.Perm.refl _
    | true =>
      have hon : s.cmdActive = true := hactive (Or.inr hc)
      refine List.perm_iff_count.mpr fun x => ?_
      simp only [refs, PollThread.pending, hon, List.count_append, List.count_cons, List.count_nil,
        Bool.and_true, if_true, Bool.toNat_true, List.replicate_one]
      omega
  · cases hx
  · exact hasync.elim (fun hx => hactive (Or.inl hx)) fun hx => absurd hx Bool.false_ne_true

theorem Counts.takeCmd (h : s.Counts) {cmdQueue : List Nat} (hc : s.cmd = .idle)
    (hq : s.cmdQueue = idx :: cmdQueue) :
    Counts { s with cmdQueue, cmd := .dispatching idx 0 } := by
  refine StreamBufs.Inv.perm h ?_ fun x => Iff.rfl
  refine List.perm_iff_count.mpr fun x => ?_
  simp only [refs, hc, hq, CmdThread.refs, List.count_append, List.count_cons, List.count_nil]
  omega

theorem Inv.takeCmd (h : s.Inv) {cmdQueue : List Nat} (hc : s.cmd = .idle)
    (hq : s.cmdQueue = idx :: cmdQueue) : Inv { s with cmdQueue, cmd := .dispatching idx 0 } :=
  ⟨Counts.takeCmd h.bufs hc hq, h.used, h.handled, h.active⟩

theorem Counts.callback (h : s.Counts) {idx i : Nat} (hc : s.cmd = .dispatching idx i) :
    Counts { s.mmStreamDispatchAppData idx i with cmd := .dispatching idx (i + 1) } := by
  have hsame : Counts { s with cmd := .dispatching idx (i + 1) } := by
    refine StreamBufs.Inv.perm h ?_ fun x => Iff.rfl
    unfold refs
    rw [hc]
    exact List.Perm.refl _
  unfold mmStreamDispatchAppData
  split
  next => exact hsame
  next cb hcb =>
    split
    next => exact hsame
    next =>
      dsimp only
      split
      next =>
        have hm : idx ∈ s.poll.pending s.isBundled ++ s.refs := by
          refine List.mem_append_right _ ?_
          simp [refs, hc, CmdThread.refs]
        have hlt := StreamBufs.Inv.refs_lt h idx hm
        have hk : idx ∉ s.bufs.kernel := fun hk => ((StreamBufs.Inv.kernel h idx hlt).mp hk).1 hm
        have hfresh : ∀ x, s.poll.Fresh s.isBundled x ↔
            s.poll.Fresh s.isBundled x ∧ (x ≠ idx ∨ 1 = 0) := by
          refine fun x => ⟨fun hx => ⟨hx, Or.inl fun he => ?_⟩, And.left⟩
          exact (StreamBufs.Inv.fresh h x hx).2 (he ▸ hm)
        refine (StreamBufs.Inv.addRefs h 1 hlt hk hfresh).perm ?_ fun x => Iff.rfl
        refine List.perm_iff_count.mpr fun x => ?_
        simp only [refs, hc, CmdThread.refs, List.count_append, List.count_cons, List.count_nil,
          List.replicate_one]
        omega
      next => exact hsame

theorem Inv.callback (h : s.Inv) {idx i : Nat} (hc : s.cmd = .dispatching idx i) :
    Inv { s.mmStreamDispatchAppData idx i with cmd := .dispatching idx (i + 1) } := by
  have hcounts : Counts { s.mmStreamDispatchAppData idx i with cmd := .dispatching idx (i + 1) } :=
    Counts.callback h.bufs hc
  unfold mmStreamDispatchAppData at hcounts ⊢
  split
  next hnone =>
    rw [hnone] at hcounts
    exact ⟨hcounts, h.used, h.handled, h.active⟩
  next cb hcb =>
    rw [hcb] at hcounts
    dsimp only at hcounts
    split
    next hsync =>
      rw [if_pos hsync] at hcounts
      exact ⟨hcounts, h.used, h.handled, h.active⟩
    next hsync =>
      have hasync : hasAsync (s.bufCb.set i cb.afterCall) = true ∨ s.poll.hasCb = true →
          s.cmdActive = true :=
        fun hx => h.active (hx.imp_left (hasAsync_of_set hcb))
      rw [if_neg hsync] at hcounts
      dsimp only at hcounts ⊢
      split
      next hcount =>
        rw [if_pos hcount] at hcounts
        exact ⟨hcounts, h.used, h.handled, hasync⟩
      next hcount =>
        rw [if_neg hcount] at hcounts
        exact ⟨hcounts, h.used, h.handled, hasync⟩

theorem Counts.bufDone (h : s.Counts) (hb : t.bufs = s.bufs.mmStreamBufDone idx)
    (hrefs : s.refs.Perm (idx :: t.refs)) (hbundled : t.isBundled = s.isBundled)
    (hpoll : t.poll = s.poll) : t.Counts := by
  have hperm : (s.poll.pending s.isBundled ++ s.refs).Perm
      (idx :: (s.poll.pending s.isBundled ++ t.refs)) :=
    (hrefs.append_left _).trans List.perm_middle
  unfold Counts
  rw [hb, hbundled, hpoll]
  exact (StreamBufs.Inv.perm h hperm fun x => Iff.rfl).bufDone

theorem Inv.bufDone (h : s.Inv) (hb : t.bufs = s.bufs.mmStreamBufDone idx)
    (hrefs : s.refs.Perm (idx :: t.refs)) (hbundled : t.isBundled = s.isBundled)
    (hlinked : t.isLinked = s.isLinked) (hcb : t.bufCb = s.bufCb)
    (hactive : t.cmdActive = s.cmdActive) (hpoll : t.poll = s.poll) : t.Inv := by
  have hnum : (s.bufs.mmStreamBufDone idx).bufNum = s.bufs.bufNum := by
    unfold StreamBufs.mmStreamBufDone
    dsimp only
    split
    · rfl
    · split <;> rfl
  refine ⟨Counts.bufDone h.bufs hb hrefs hbundled hpoll, ?_, ?_, ?_⟩
  · rw [hbundled, hlinked]
    exact h.used
  · rw [hb, hpoll, hnum]
    exact h.handled
  · rw [hcb, hactive, hpoll]
    exact h.active

theorem refs_dispatchDone {idx i : Nat} (hc : s.cmd = .dispatching idx i) (bufs : StreamBufs) :
    s.refs.Perm (idx :: refs { s with bufs, cmd := .idle }) := by
  refine List.perm_iff_count.mpr fun x => ?_
  simp only [refs, hc, CmdThread.refs, List.count_append, List.count_cons, List.count_nil]
  omega

theorem refs_channelDone (hm : idx ∈ s.channelRefs) (bufs : StreamBufs) :
    s.refs.Perm (idx :: refs { s with bufs, channelRefs := s.channelRefs.erase idx }) := by
  refine List.perm_iff_count.mpr fun x => ?_
  have hcount := (List.perm_cons_erase hm).count_eq x
  simp only [refs, List.count_append, List.count_cons] at hcount ⊢
  omega

theorem refs_linkedDone (hm : idx ∈ s.linkedRefs) (bufs : StreamBufs) :
    s.refs.Perm (idx :: refs { s with bufs, linkedRefs := s.linkedRefs.erase idx }) := by
  refine List.perm_iff_count.mpr fun x => ?_
  have hcount := (List.perm_cons_erase hm).count_eq x
  simp only [refs, List.count_append, List.count_cons] at hcount ⊢
  omega

theorem refs_clientDone (hm : idx ∈ s.clientRefs) (bufs : StreamBufs) :
    s.refs.Perm (idx :: refs { s with bufs, clientRefs := s.clientRefs.erase idx }) := by
  refine List.perm_iff_count.mpr fun x => ?_
  have hcount := (List.perm_cons_erase hm).count_eq x
  simp only [refs, List.count_append, List.count_cons] at hcount ⊢
  omega

theorem Inv.step (h : s.Inv) {op : StreamOp} (allocs : op.Allocs) (race : NoRace s op)
    (ht : s.step op = some t) : t.Inv := by
  cases op with
  | readMsmFrame idx =>
    change (if s.poll = .idle ∧ s.bufs.polled = true ∧ idx ∈ s.bufs.kernel then _ else _) = _ at ht
    split at ht
    next hc =>
      cases ht
      exact h.readMsmFrame hc.1 hc.2.2
    next => cases ht
  | syncCallbacks =>
    dsimp only [StreamSystem.step] at ht
    split at ht
    next idx hp _ =>
      cases ht
      exact h.syncCallbacks hp
    next => cases ht
  | countRefs =>
    dsimp only [StreamSystem.step] at ht
    split at ht
    next idx hasCb hp =>
      cases ht
      exact h.countRefs hp
    next => cases ht
  | notifyChannel alloc =>
    cases (show alloc = true from allocs)
    dsimp only [StreamSystem.step] at ht
    split at ht
    next idx hasCb hp =>
      cases ht
      exact h.notifyChannel hp
    next => cases ht
  | notifyLinked alloc =>
    cases (show alloc = true from allocs)
    dsimp only [StreamSystem.step] at ht
    unfold NoRace at race
    split at ht
    next idx hasCb hp =>
      rw [hp] at race
      cases ht
      exact h.notifyLinked hp race
    next => cases ht
  | sendCmd alloc =>
    cases (show alloc = true from allocs)
    dsimp only [StreamSystem.step] at ht
    split at ht
    next idx hasCb hp =>
      cases ht
      exact h.sendCmd hp
    next => cases ht
  | takeCmd =>
    dsimp only [StreamSystem.step] at ht
    split at ht
    next idx cmdQueue hc hq =>
      cases ht
      exact h.takeCmd hc hq
    next => cases ht
  | callback =>
    dsimp only [StreamSystem.step] at ht
    split at ht
    next idx i hc =>
      split at ht
      next =>
        cases ht
        exact h.callback hc
      next => cases ht
    next => cases ht
  | dispatchDone =>
    dsimp only [StreamSystem.step] at ht
    split at ht
    next idx i hc =>
      split at ht
      next => cases ht
      next =>
        cases ht
        exact h.bufDone rfl (refs_dispatchDone hc _) rfl rfl rfl rfl rfl
    next => cases ht
  | channelDone idx =>
    dsimp only [StreamSystem.step] at ht
    split at ht
    next hm =>
      cases ht
      exact h.bufDone rfl (refs_channelDone hm _) rfl rfl rfl rfl rfl
    next => cases ht
  | linkedDone idx =>
    dsimp only [StreamSystem.step] at ht
    split at ht
    next hm =>
      cases ht
      exact h.bufDone rfl (refs_linkedDone hm _) rfl rfl rfl rfl rfl
    next => cases ht
  | clientDone idx =>
    dsimp only [StreamSystem.step] at ht
    split at ht
    next hm =>
      cases ht
      exact h.bufDone rfl (refs_clientDone hm _) rfl rfl rfl rfl rfl
    next => cases ht

theorem race_breaks {op : StreamOp} (allocs : op.Allocs) (race : ¬NoRace s op) :
    ∃ t, s.step op = some t ∧ ¬t.Owned := by
  cases op with
  | notifyLinked alloc =>
    cases (show alloc = true from allocs)
    dsimp only [NoRace] at race
    split at race
    next idx hasCb hp =>
      push Not at race
      obtain ⟨hl, hk⟩ := race
      refine ⟨_, by dsimp only [StreamSystem.step]; rw [hp], fun ho => ?_⟩
      refine ho.unheld idx ?_ ?_
      · dsimp only
        rw [hl]
        exact hk
      · simp [refs, hl]
    next => exact absurd trivial race
  | _ => exact absurd trivial race

theorem Inv.noRace (h : s.Inv) (hnot : (s.isBundled && s.isLinked) = false) (op : StreamOp) :
    NoRace s op := by
  cases op with
  | notifyLinked alloc =>
    dsimp only [NoRace]
    split
    next idx hasCb hp =>
      intro hl hk
      have hb : s.isBundled = false := by simpa [hl] using hnot
      have hbufs := h.bufs
      rw [hp] at hbufs
      obtain ⟨hrefs, hfresh⟩ := (hbufs.kernel idx (hbufs.kernel_lt idx hk)).mp hk
      cases hc : hasCb with
      | false => exact hfresh ⟨rfl, hb, hc⟩
      | true =>
        refine hrefs (List.mem_append_left _ ?_)
        rw [hc]
        exact List.mem_singleton_self idx
    next => trivial
  | _ => trivial

end StreamSystem

theorem regBuf_spec (initialRegFlag : Nat → Bool) (bufNum n : Nat) :
    let b := (List.range n).foldl (fun b idx =>
      if initialRegFlag idx then (b.mmStreamQbuf idx).setStatus idx ⟨0, true⟩
      else b.setStatus idx ⟨1, false⟩) ({ bufNum } : StreamBufs)
    b.bufNum = bufNum ∧ b.kernel = (List.range n).filter (fun idx => initialRegFlag idx) ∧
      b.queuedBufferCount = b.kernel.length ∧ (b.polled = true ↔ 0 < b.queuedBufferCount) ∧
      ∀ idx, (b.bufStatus idx).bufRefcnt =
        ((List.range n).filter fun idx => !initialRegFlag idx).count idx := by
  induction n with
  | zero => exact ⟨rfl, rfl, rfl, by simp, fun _ => rfl⟩
  | succ n ih =>
    rw [List.range_succ, List.foldl_append, List.foldl_cons, List.foldl_nil]
    generalize (List.range n).foldl (fun b idx =>
      if initialRegFlag idx then (b.mmStreamQbuf idx).setStatus idx ⟨0, true⟩
      else b.setStatus idx ⟨1, false⟩) ({ bufNum } : StreamBufs) = b at ih ⊢
    obtain ⟨hnum, hkernel, hcount, hpolled, hrefcnt⟩ := ih
    have hn : ((List.range n).filter fun idx => !initialRegFlag idx).count n = 0 :=
      List.count_eq_zero.mpr fun hm => by simp at hm
    dsimp only
    cases hf : initialRegFlag n with
    | true =>
      rw [if_pos rfl]
      refine ⟨hnum, ?_, ?_, ?_, fun idx => ?_⟩
      · simp [StreamBufs.setStatus, StreamBufs.mmStreamQbuf, hkernel, hf]
      · simp [StreamBufs.setStatus, StreamBufs.mmStreamQbuf, hcount]
      · change (b.polled || b.queuedBufferCount + 1 = 1) = true ↔ 0 < b.queuedBufferCount + 1
        rw [Bool.or_eq_true, hpolled, decide_eq_true_iff]
        omega
      · rw [List.filter_append, List.filter_singleton, hf]
        by_cases he : idx = n
        · subst he
          simpa [StreamBufs.setStatus] using hn.symm
        · simpa [StreamBufs.setStatus, StreamBufs.mmStreamQbuf, Function.update_of_ne he] using
            hrefcnt idx
    | false =>
      rw [if_neg Bool.false_ne_true]
      refine ⟨hnum, ?_, hcount, hpolled, fun idx => ?_⟩
      · simp [StreamBufs.setStatus, hkernel, hf]
      · rw [List.filter_append, List.filter_singleton, hf]
        by_cases he : idx = n
        · subst he
          simpa [StreamBufs.setStatus] using hn
        · simpa [StreamBufs.setStatus, Function.update_of_ne he, Ne.symm he] using hrefcnt idx

namespace StreamSystem

theorem start_counts (isBundled isLinked : Bool) (bufCb : List (Option StreamDataCb))
    (initialRegFlag : Nat → Bool) (bufNum : Nat) :
    (start isBundled isLinked bufCb initialRegFlag bufNum).Counts := by
  obtain ⟨hnum, hkernel, hcount, hpolled, hrefcnt⟩ := regBuf_spec initialRegFlag bufNum bufNum
  have hrefs : (start isBundled isLinked bufCb initialRegFlag bufNum).refs =
      (List.range bufNum).filter fun idx => !initialRegFlag idx := rfl
  refine ⟨fun idx => ?_, fun idx hlt => ?_, fun idx hm => ?_, fun idx hm => ?_, fun idx hx => ?_,
    ?_, hcount, hpolled⟩
  · exact hrefcnt idx
  · change idx ∈ (StreamBufs.mmStreamRegBuf initialRegFlag bufNum).kernel ↔
      idx ∉ (start isBundled isLinked bufCb initialRegFlag bufNum).refs ∧ ¬False
    unfold StreamBufs.mmStreamRegBuf
    rw [hkernel, hrefs]
    have hlt' : idx < bufNum := hnum ▸ hlt
    simp [hlt']
  · change idx < (StreamBufs.mmStreamRegBuf initialRegFlag bufNum).bufNum
    change idx ∈ (StreamBufs.mmStreamRegBuf initialRegFlag bufNum).kernel at hm
    unfold StreamBufs.mmStreamRegBuf at hm ⊢
    grind
  · change idx < (StreamBufs.mmStreamRegBuf initialRegFlag bufNum).bufNum
    unfold StreamBufs.mmStreamRegBuf
    rw [hnum]
    exact List.mem_range.mp (List.mem_filter.mp hm).1
  · exact absurd hx id
  · change (StreamBufs.mmStreamRegBuf initialRegFlag bufNum).kernel.Nodup
    unfold StreamBufs.mmStreamRegBuf
    rw [hkernel]
    exact List.nodup_range.filter _

theorem start_inv {isBundled isLinked : Bool} (used : (isBundled || isLinked) = true)
    (bufCb : List (Option StreamDataCb)) (initialRegFlag : Nat → Bool) (bufNum : Nat) :
    (start isBundled isLinked bufCb initialRegFlag bufNum).Inv := by
  refine ⟨start_counts isBundled isLinked bufCb initialRegFlag bufNum, used, fun idx hx => ?_,
    fun hx => ?_⟩
  · cases hx
  · exact hx.elim id fun hx => absurd hx Bool.false_ne_true

variable {s t : StreamSystem} {op : StreamOp}

theorem step_settings (ht : s.step op = some t) :
    t.isBundled = s.isBundled ∧ t.isLinked = s.isLinked := by
  cases op with
  | callback =>
    dsimp only [StreamSystem.step] at ht
    split at ht
    next idx i hc =>
      split at ht
      next =>
        cases ht
        grind [mmStreamDispatchAppData]
      next => cases ht
    next => cases ht
  | dispatchDone =>
    grind [StreamSystem.step]
  | _ =>
    grind [StreamSystem.step]

/-- If every message has memory and the linked channel is never late, each buffer has one owner
side all along the run. A linked channel that is late breaks it. Only for a stream that is both
bundled and linked can it be late. -/
theorem owned_of_noRace (isBundled isLinked : Bool) (used : (isBundled || isLinked) = true)
    (bufCb : List (Option StreamDataCb)) (initialRegFlag : Nat → Bool) (bufNum : Nat)
    (ops : List StreamOp) :
    let first := start isBundled isLinked bufCb initialRegFlag bufNum
    (OpsMeet step (fun s op => op.Allocs ∧ NoRace s op) first ops → Always step Owned first ops) ∧
      (Always step Owned first ops → OpsMeet step (fun s op => op.Allocs → NoRace s op) first ops) ∧
      ((isBundled && isLinked) = false → OpsMeet step (fun _ op => op.Allocs) first ops →
        OpsMeet step NoRace first ops) := by
  intro first
  have hfirst : first.Inv := start_inv used bufCb initialRegFlag bufNum
  refine ⟨fun meet => ?_, fun always => ?_, fun hnot meet => ?_⟩
  · exact always_invariant (fun s => Inv.owned) (fun s op t hi hok ht => hi.step hok.1 hok.2 ht)
      hfirst meet
  · refine always.opsMeet fun s op hbad => ?_
    rw [Classical.not_imp] at hbad
    exact race_breaks hbad.1 hbad.2
  · let OneUse (s : StreamSystem) := s.Inv ∧ (s.isBundled && s.isLinked) = false
    refine @OpsMeet.mono _ _ step _ _ OneUse (fun s op t hi hok ht => ?_)
      (fun s op hi _ => hi.1.noRace hi.2 op) _ ops ⟨hfirst, hnot⟩ meet
    obtain ⟨hbundled, hlinked⟩ := step_settings ht
    exact ⟨hi.1.step hok (hi.1.noRace hi.2 op) ht, by rw [hbundled, hlinked]; exact hi.2⟩

instance : ∀ op : StreamOp, Decidable op.Allocs
  | .notifyChannel alloc | .notifyLinked alloc | .sendCmd alloc =>
    inferInstanceAs (Decidable (alloc = true))
  | .readMsmFrame _ | .syncCallbacks | .countRefs | .takeCmd | .callback | .dispatchDone
  | .channelDone _ | .linkedDone _ | .clientDone _ => inferInstanceAs (Decidable True)

instance (s : StreamSystem) : ∀ op, Decidable (NoRace s op)
  | .notifyLinked _ =>
    match h : s.poll with
    | .notified idx _ =>
      decidable_of_iff (s.isLinked = true → idx ∉ s.bufs.kernel) (by simp [NoRace, h])
    | .idle | .read _ | .called _ _ | .counted _ _ | .linked _ _ =>
      isTrue (by simp [NoRace, h])
  | .readMsmFrame _ | .syncCallbacks | .countRefs | .notifyChannel _ | .sendCmd _ | .takeCmd
  | .callback | .dispatchDone | .channelDone _ | .linkedDone _ | .clientDone _ =>
    inferInstanceAs (Decidable True)

/-- A buffer that the bundle, the linked channel and a callback get. -/
def sharedOps : List StreamOp :=
  [.readMsmFrame 0, .syncCallbacks, .countRefs, .notifyChannel true, .channelDone 0,
    .notifyLinked true, .sendCmd true, .takeCmd, .callback, .clientDone 0, .linkedDone 0, .callback,
    .dispatchDone, .readMsmFrame 1, .clientDone 2]

theorem sharedOps_owned :
    Always step Owned (start true true [none, some ⟨false, -1⟩] (· < 2) 3) sharedOps :=
  (owned_of_noRace true true rfl [none, some ⟨false, -1⟩] (· < 2) 3 sharedOps).1
    (by decide)

/-- The bundle's channel is done with the buffer before the linked channel gets it. -/
def lateOps : List StreamOp :=
  [.readMsmFrame 0, .syncCallbacks, .countRefs, .notifyChannel true, .channelDone 0,
    .notifyLinked true]

theorem lateOps_shared :
    ∃ t, runOps step (start true true [] (fun _ => true) 1) lateOps = some t ∧
      t.bufs.kernel = [0] ∧ t.linkedRefs = [0] ∧
      ¬Always step Owned (start true true [] (fun _ => true) 1) lateOps := by
  refine ⟨_, rfl, rfl, rfl, fun always => ?_⟩
  have meet : OpsMeet step (fun s op => op.Allocs → NoRace s op)
      (start true true [] (fun _ => true) 1) lateOps := by
    refine always.opsMeet fun s op hbad => ?_
    rw [Classical.not_imp] at hbad
    exact race_breaks hbad.1 hbad.2
  revert meet
  decide

end StreamSystem

end DeviceHal.Camera
