import DeviceHal.Camera.LinkRun
import DeviceHal.Camera.StreamStart

namespace DeviceHal.Camera

namespace CameraObj

variable {c c' d : CameraObj} {ch : Nat} {p q : StreamRef} {objs : List StreamRef}

/-- A channel without linked streams whose streams are configured. A bundle is only active with a
callback. -/
structure Configured (ch : Nat) (c : CameraObj) : Prop where
  idle : ∀ p ∈ c.streamObjs ch, (c.stream p).Idle
  own : ∀ p ∈ c.streamObjs ch, (c.stream p).chObj = some ch
  nodup : (c.streamObjs ch).Nodup
  isActive : (c.channel ch).bundle.isActive = true →
    (c.channel ch).bundle.superBufNotifyCb = true

def failsAt (i : Nat) (f : StartFailure) : Nat → Option StartFailure :=
  fun j => if j = i then some f else none

/-- After a start that failed, the streams are at rest, the bundle is as before, and so is what a
start without failures does. -/
structure Retryable (ch : Nat) (c c' : CameraObj) : Prop where
  rest : ∀ p ∈ c.streamObjs ch, (c'.stream p).state = .cfg ∧ (c'.stream p).bufs.kernel = [] ∧
    (∀ idx, ((c'.stream p).bufs.bufStatus idx).bufRefcnt = 0) ∧
    (c'.stream p).bufs.polled = false
  attr : (c'.channel ch).bundle.attr = (c.channel ch).bundle.attr
  notifyCb : (c'.channel ch).bundle.superBufNotifyCb = (c.channel ch).bundle.superBufNotifyCb
  isBundled : ∀ p ∈ c.streamObjs ch, (c'.stream p).isBundled = (c.stream p).isBundled
  retry : c'.mmChannelStart ch (fun _ => none) = c.mmChannelStart ch fun _ => none

theorem linkAll_own (h : ∀ p ∈ objs, (c.stream p).chObj = some ch) :
    objs.foldlM (linkObj ch) c = some c := by
  induction objs with
  | nil => rfl
  | cons p objs ih =>
    have hone : linkObj ch c p = some c := if_neg (not_not.mpr (h p List.mem_cons_self))
    grind

theorem dropAll_own (h : ∀ p ∈ objs, (c.stream p).chObj = some ch) :
    objs.foldlM (dropObj ch) c = some c := by
  induction objs with
  | nil => rfl
  | cons p objs ih =>
    have hone : dropObj ch c p = some c := if_neg (not_not.mpr (h p List.mem_cons_self))
    grind

theorem onOwn_stream {f : StreamObj → StreamObj} (hf : ∀ s : StreamObj, s.SameLink (f s))
    (hnodup : objs.Nodup) (hown : ∀ p ∈ objs, (c.stream p).chObj = some ch) (q : StreamRef) :
    (objs.foldl (onOwn f ch) c).stream q = if q ∈ objs then f (c.stream q) else c.stream q := by
  induction objs generalizing c with
  | nil => rfl
  | cons p objs ih =>
    obtain ⟨hp, hnodup'⟩ := List.nodup_cons.mp hnodup
    have hone : onOwn f ch c p = c.setStream p (f (c.stream p)) :=
      if_neg (not_not.mpr (hown p List.mem_cons_self))
    rw [List.foldl_cons, hone, ih hnodup' fun r hr => ?_]
    · by_cases hq : q = p
      · subst hq
        rw [if_neg hp, if_pos List.mem_cons_self, setStream_self]
      · rw [setStream_of_ne hq]
        simp only [List.mem_cons, hq, false_or]
    · rw [((setStream_sameLink (hf (c.stream p))) r).chObj]
      exact hown r (List.mem_cons_of_mem _ hr)

theorem startLoop_none {fails : Nat → Option StartFailure} {i : Nat}
    (hfails : ∀ j, i ≤ j → fails j = none) (hnodup : objs.Nodup)
    (hown : ∀ p ∈ objs, (c.stream p).chObj = some ch)
    (hidle : ∀ p ∈ objs, (c.stream p).Idle) :
    (startLoop ch fails objs i c).1 = 0 ∧
      ∀ q, (startLoop ch fails objs i c).2.2.stream q =
        if q ∈ objs then (c.stream q).started else c.stream q := by
  induction objs generalizing i c with
  | nil => exact ⟨rfl, fun _ => rfl⟩
  | cons p objs ih =>
    obtain ⟨hp, hnodup'⟩ := List.nodup_cons.mp hnodup
    have hstart := (hidle p List.mem_cons_self).startStream_none
    have hsame : ∀ r ∈ objs, (c.setStream p (c.stream p).started).stream r = c.stream r :=
      fun r hr => setStream_of_ne (fun (he : r = p) => hp (he ▸ hr)) _ _
    obtain ⟨hrc, hall⟩ := @ih (c.setStream p (c.stream p).started) (i + 1)
      (fun j hj => hfails j (by omega)) hnodup'
      (fun r hr => by rw [hsame r hr]; exact hown r (List.mem_cons_of_mem _ hr))
      (fun r hr => by rw [hsame r hr]; exact hidle r (List.mem_cons_of_mem _ hr))
    have hloop : startLoop ch fails (p :: objs) i c =
        startLoop ch fails objs (i + 1) (c.setStream p (c.stream p).started) := by
      rw [startLoop, if_neg (not_not.mpr (hown p List.mem_cons_self)), hfails i (Nat.le_refl i),
        hstart]
      rfl
    rw [hloop]
    refine ⟨hrc, fun q => ?_⟩
    rw [hall q]
    by_cases hq : q = p
    · subst hq
      rw [if_neg hp, if_pos List.mem_cons_self, setStream_self]
    · rw [setStream_of_ne hq]
      simp only [List.mem_cons, hq, false_or]

theorem startLoop_fails {i j : Nat} {f : StartFailure} (hnodup : objs.Nodup)
    (hown : ∀ p ∈ objs, (c.stream p).chObj = some ch) (hidle : ∀ p ∈ objs, (c.stream p).Idle)
    (hfail : (startLoop ch (failsAt i f) objs j c).1 ≠ 0) :
    ∃ pre p post, objs = pre ++ p :: post ∧ i = j + pre.length ∧
      ((c.stream p).startStream (some f)).1 ≠ 0 ∧
      (startLoop ch (failsAt i f) objs j c).2.1 = i ∧
      ∀ q, (startLoop ch (failsAt i f) objs j c).2.2.stream q =
        if q ∈ pre then (c.stream q).started
        else if q = p then ((c.stream q).startStream (some f)).2 else c.stream q := by
  induction objs generalizing j c with
  | nil => exact absurd rfl hfail
  | cons p objs ih =>
    obtain ⟨hp, hnodup'⟩ := List.nodup_cons.mp hnodup
    have hidle' := hidle p List.mem_cons_self
    have howned : ¬(c.stream p).chObj ≠ some ch := not_not.mpr (hown p List.mem_cons_self)
    have hsame : ∀ r ∈ objs, (c.setStream p (c.stream p).started).stream r = c.stream r :=
      fun r hr => setStream_of_ne (fun (he : r = p) => hp (he ▸ hr)) _ _
    have hown' : ∀ r ∈ objs,
        ((c.setStream p (c.stream p).started).stream r).chObj = some ch := by
      intro r hr
      rw [hsame r hr]
      exact hown r (List.mem_cons_of_mem _ hr)
    have hrest : ∀ r ∈ objs, ((c.setStream p (c.stream p).started).stream r).Idle := by
      intro r hr
      rw [hsame r hr]
      exact hidle r (List.mem_cons_of_mem _ hr)
    by_cases hj : j = i
    · have hat : failsAt i f j = some f := if_pos hj
      by_cases hrc : ((c.stream p).startStream (some f)).1 = 0
      · have hloop : startLoop ch (failsAt i f) (p :: objs) j c =
            startLoop ch (failsAt i f) objs (j + 1) (c.setStream p (c.stream p).started) := by
          rw [startLoop, if_neg howned, hat, hidle'.startStream_ok hrc]
          rfl
        have hnone : ∀ k, j + 1 ≤ k → failsAt i f k = none := fun k hk => if_neg (by omega)
        rw [hloop] at hfail
        exact absurd (startLoop_none hnone hnodup' hown' hrest).1 hfail
      · have hloop : startLoop ch (failsAt i f) (p :: objs) j c =
            (((c.stream p).startStream (some f)).1, j,
              c.setStream p ((c.stream p).startStream (some f)).2) := by
          rw [startLoop, if_neg howned, hat]
          exact if_pos hrc
        refine ⟨[], p, objs, rfl, hj.symm, hrc, by rw [hloop]; exact hj, fun q => ?_⟩
        rw [hloop, if_neg List.not_mem_nil]
        by_cases hq : q = p
        · subst hq
          rw [if_pos rfl, setStream_self]
        · rw [if_neg hq]
          exact setStream_of_ne hq _ _
    · have hat : failsAt i f j = none := if_neg hj
      have hloop : startLoop ch (failsAt i f) (p :: objs) j c =
          startLoop ch (failsAt i f) objs (j + 1) (c.setStream p (c.stream p).started) := by
        rw [startLoop, if_neg howned, hat, hidle'.startStream_none]
        rfl
      rw [hloop] at hfail ⊢
      obtain ⟨pre, r, post, hobjs, hi, hrc, hidx, hstream⟩ := ih hnodup' hown' hrest hfail
      have hr : r ∈ objs := by rw [hobjs]; simp
      refine ⟨p :: pre, r, post, by rw [hobjs]; rfl, by rw [hi, List.length_cons]; omega, ?_, hidx,
        fun q => ?_⟩
      · rwa [hsame r hr] at hrc
      · rw [hstream q]
        by_cases hq : q = p
        · subst hq
          have hpre : q ∉ pre := fun hm => hp (by rw [hobjs]; exact List.mem_append_left _ hm)
          have hne : q ≠ r := fun he => hp (he ▸ hr)
          rw [if_neg hpre, if_neg hne, if_pos List.mem_cons_self, setStream_self]
        · rw [setStream_of_ne hq]
          simp only [List.mem_cons, hq, false_or]

theorem Configured.mem_startObjs (h : c.Configured ch) (p : StreamRef) (hp : p ∈ c.startObjs ch) :
    (c.stream p).Idle ∧ (c.stream p).chObj = some ch :=
  ⟨h.idle p (CameraObj.mem_startObjs.mp hp), h.own p (CameraObj.mem_startObjs.mp hp)⟩

theorem Configured.startObjs_nodup (h : c.Configured ch) : (c.startObjs ch).Nodup :=
  (startObjs_perm ch c).nodup_iff.mpr h.nodup

theorem Configured.start_eq (h : c.Configured ch) (fails : Nat → Option StartFailure) :
    c.mmChannelStart ch fails =
      let r := startLoop ch fails (c.startObjs ch) 0 (c.startBundle ch (c.startObjs ch))
      if r.1 ≠ 0 then
        some (r.1, (((c.startObjs ch).take (r.2.1 + 1)).foldl
          (onOwn (fun s => s.stopStream.putStream) ch) r.2.2).releaseThreads ch {})
      else some (0, r.2.2) := by
  have hbundle : ∀ p ∈ c.startObjs ch,
      ((c.startBundle ch (c.startObjs ch)).stream p).chObj = some ch := by
    intro p hp
    rw [(startBundle_sameLink _ c p).chObj]
    exact (h.mem_startObjs p hp).2
  have hloop : ∀ p ∈ c.startObjs ch,
      ((startLoop ch fails (c.startObjs ch) 0
        (c.startBundle ch (c.startObjs ch))).2.2.stream p).chObj = some ch := by
    intro p hp
    rw [((startLoop_sameLink fails _ 0 _).2 p).chObj]
    exact hbundle p hp
  unfold mmChannelStart startFailed
  dsimp only
  rw [linkAll_own hbundle, Option.bind_some, dropAll_own hloop]
  rfl

theorem startObjs_congr (hsame : ∀ p, (c.stream p).SameEntry (c'.stream p)) :
    c'.startObjs ch = c.startObjs ch := by
  have hobjs : c'.streamObjs ch = c.streamObjs ch := streamObjs_congr fun i => hsame (ch, i)
  have hmeta : ∀ objs, c'.metaStreamIdx ch objs = c.metaStreamIdx ch objs := by
    intro objs
    unfold metaStreamIdx
    simp only [(hsame _).streamType, (hsame _).chObj]
  unfold startObjs
  dsimp only
  rw [hobjs, hmeta]

theorem startBundle_noCb (hcb : (c.channel ch).bundle.superBufNotifyCb = false)
    (objs : List StreamRef) : c.startBundle ch objs = c := by
  unfold startBundle
  rw [hcb]
  rfl

theorem retryable_of_rested (h : c.Configured ch)
    (hcb : (c.channel ch).bundle.superBufNotifyCb = false) (hchan : c'.channel = c.channel)
    (hrest : ∀ p ∈ c.streamObjs ch, (c.stream p).Rested (c'.stream p))
    (hout : ∀ p, p ∉ c.streamObjs ch → c'.stream p = c.stream p) : Retryable ch c c' := by
  have hsame : ∀ p, (c.stream p).SameEntry (c'.stream p) := by
    intro p
    by_cases hp : p ∈ c.streamObjs ch
    · rw [(hrest p hp).same]
      exact ⟨Iff.rfl, rfl, rfl, rfl, rfl⟩
    · rw [hout p hp]
      exact StreamObj.SameEntry.refl _
  have hobjs : c'.streamObjs ch = c.streamObjs ch := streamObjs_congr fun i => hsame (ch, i)
  have hconf : c'.Configured ch := by
    refine ⟨fun p hp => ?_, fun p hp => ?_, hobjs ▸ h.nodup, by rw [hchan]; exact h.isActive⟩
    · exact (hrest p (hobjs ▸ hp)).idle
    · rw [(hsame p).chObj]
      exact h.own p (hobjs ▸ hp)
  refine ⟨fun p hp => ?_, by rw [hchan], by rw [hchan], fun p hp => ?_, ?_⟩
  · have hidle := (hrest p hp).idle
    exact ⟨hidle.state, hidle.kernel, fun idx => by rw [hidle.status], hidle.polled⟩
  · rw [(hrest p hp).same]
  · have hobjs' : c'.startObjs ch = c.startObjs ch := startObjs_congr hsame
    rw [h.start_eq, hconf.start_eq, hobjs', startBundle_noCb hcb, startBundle_noCb (hchan ▸ hcb)]
    dsimp only
    obtain ⟨hrc, hall⟩ := @startLoop_none c ch (c.startObjs ch) (fun _ => none) 0 (fun _ _ => rfl)
      h.startObjs_nodup (fun p hp => (h.mem_startObjs p hp).2)
      (fun p hp => (h.mem_startObjs p hp).1)
    obtain ⟨hrc', hall'⟩ := @startLoop_none c' ch (c.startObjs ch) (fun _ => none) 0
      (fun _ _ => rfl) h.startObjs_nodup
      (fun p hp => (hconf.mem_startObjs p (hobjs' ▸ hp)).2)
      (fun p hp => (hconf.mem_startObjs p (hobjs' ▸ hp)).1)
    have hchanged := (@startLoop_sameLink ch (fun _ => none) (c.startObjs ch) 0 c).1
    have hchanged' := (@startLoop_sameLink ch (fun _ => none) (c.startObjs ch) 0 c').1
    rw [if_neg (not_not.mpr hrc), if_neg (not_not.mpr hrc')]
    have hstream : (startLoop ch (fun _ => none) (c.startObjs ch) 0 c').2.2.stream =
        (startLoop ch (fun _ => none) (c.startObjs ch) 0 c).2.2.stream := by
      funext q
      rw [hall q, hall' q]
      split
      next hq => exact (hrest q (CameraObj.mem_startObjs.mp hq)).started
      next hq => exact hout q (mt CameraObj.mem_startObjs.mpr hq)
    have heq : (startLoop ch (fun _ => none) (c.startObjs ch) 0 c').2.2 =
        (startLoop ch (fun _ => none) (c.startObjs ch) 0 c).2.2 := by
      have hchan' := hchanged'.trans (hchan.trans hchanged.symm)
      generalize (startLoop ch (fun _ => none) (c.startObjs ch) 0 c').2.2 = x at hstream hchan' ⊢
      generalize (startLoop ch (fun _ => none) (c.startObjs ch) 0 c).2.2 = y at hstream hchan' ⊢
      cases x
      cases y
      cases hstream
      cases hchan'
      rfl
    rw [heq]

theorem Configured.start_clears (h : c.Configured ch)
    (hcb : (c.channel ch).bundle.superBufNotifyCb = true) {fails : Nat → Option StartFailure}
    {r : Int × CameraObj} (hr : c.mmChannelStart ch fails = some r) (hfail : r.1 ≠ 0) :
    (r.2.channel ch).bundle = {} := by
  rw [h.start_eq] at hr
  dsimp only at hr
  have hloop := (@startLoop_sameLink ch fails (c.startObjs ch) 0
    (c.startBundle ch (c.startObjs ch))).1
  generalize startLoop ch fails (c.startObjs ch) 0 (c.startBundle ch (c.startObjs ch)) = l
    at hr hloop
  split at hr
  next =>
    cases hr
    have hput : ∀ s : StreamObj, s.SameLink s.stopStream.putStream :=
      fun s => (stopStream_sameLink s).trans (putStream_sameLink _)
    have hchan := (@onOwn_sameLink ch _ hput ((c.startObjs ch).take (l.2.1 + 1)) l.2.2).1
    have hactive : ((c.startBundle ch (c.startObjs ch)).channel ch).bundle.isActive = true := by
      rcases startBundle_own ch (c.startObjs ch) c with ⟨-, -, hon⟩ | ⟨hoff, -⟩
      · exact hon
      · rw [hcb] at hoff
        cases hoff
    unfold releaseThreads
    rw [hchan, hloop, if_pos hactive, setChannel_self]
  next =>
    cases hr
    exact absurd rfl hfail

theorem Configured.start_fails (h : c.Configured ch)
    (hcb : (c.channel ch).bundle.superBufNotifyCb = false) {i : Nat} {f : StartFailure}
    {r : Int × CameraObj} (hr : c.mmChannelStart ch (failsAt i f) = some r) (hfail : r.1 ≠ 0) :
    ∃ pre p post, c.startObjs ch = pre ++ p :: post ∧
      ((c.stream p).startStream (some f)).1 ≠ 0 ∧ r.2.channel = c.channel ∧
      ∀ q, r.2.stream q = if q ∈ pre then (c.stream q).started.stopStream.putStream
        else if q = p then ((c.stream q).startStream (some f)).2.stopStream.putStream
        else c.stream q := by
  rw [h.start_eq, startBundle_noCb hcb] at hr
  dsimp only at hr
  split at hr
  next hloop =>
    cases hr
    obtain ⟨pre, p, post, hobjs, hi, hrc, hidx, hstream⟩ := startLoop_fails h.startObjs_nodup
      (fun p hp => (h.mem_startObjs p hp).2) (fun p hp => (h.mem_startObjs p hp).1) hloop
    obtain ⟨hchan, hsame⟩ := @startLoop_sameLink ch (failsAt i f) (c.startObjs ch) 0 c
    have htaken : (c.startObjs ch).take (i + 1) = pre ++ [p] := by
      have hlen : i + 1 = pre.length + 1 := by omega
      rw [hobjs, hlen, List.take_length_add_append]
      rfl
    have hnodup : (pre ++ [p]).Nodup := by
      rw [← htaken]
      exact h.startObjs_nodup.sublist (List.take_sublist _ _)
    have hp : p ∉ pre := by
      rw [List.nodup_append] at hnodup
      exact fun hm => hnodup.2.2 p hm p (List.mem_singleton_self p) rfl
    have hput : ∀ s : StreamObj, s.SameLink s.stopStream.putStream :=
      fun s => (stopStream_sameLink s).trans (putStream_sameLink _)
    rw [hidx, htaken]
    generalize startLoop ch (failsAt i f) (c.startObjs ch) 0 c = l at hchan hsame hstream
    have hown : ∀ q ∈ pre ++ [p], (l.2.2.stream q).chObj = some ch := by
      intro q hq
      rw [(hsame q).chObj]
      refine (h.mem_startObjs q ?_).2
      rw [hobjs]
      rcases List.mem_append.mp hq with hpre | hlast
      · exact List.mem_append_left _ hpre
      · grind
    have hoff : ((l.2.2.channel) ch).bundle.isActive = false := by
      rw [hchan]
      refine Bool.eq_false_iff.mpr fun hon => ?_
      rw [h.isActive hon] at hcb
      cases hcb
    have hback := (@onOwn_sameLink ch _ hput (pre ++ [p]) l.2.2).1
    refine ⟨pre, p, post, hobjs, hrc, ?_, fun q => ?_⟩
    · unfold releaseThreads
      rw [hback, hoff, if_neg Bool.false_ne_true, hback, hchan]
    · rw [releaseThreads_stream, onOwn_stream hput hnodup hown, hstream q]
      by_cases hpre : q ∈ pre
      · grind
      · by_cases hq : q = p
        · grind
        · rw [if_neg (by simp [hpre, hq]), if_neg hpre, if_neg hpre, if_neg hq, if_neg hq]
  next =>
    cases hr
    exact absurd rfl hfail

/-- A failed start can be retried exactly if the channel has no callback and no buffer of the
stream was registered before the one that fails. -/
theorem retryable_iff_early (c : CameraObj) (ch : Nat) (h : c.Configured ch) (i : Nat)
    (f : StartFailure) :
    ∃ r, c.mmChannelStart ch (failsAt i f) = some r ∧ (r.1 ≠ 0 →
      (Retryable ch c r.2 ↔ (c.channel ch).bundle.superBufNotifyCb = false ∧
        ∀ k, f = .qbuf k → k = 0)) := by
  have hreturns : ∃ r, c.mmChannelStart ch (failsAt i f) = some r := by
    rw [h.start_eq]
    dsimp only
    split
    next => exact ⟨_, rfl⟩
    next => exact ⟨_, rfl⟩
  obtain ⟨r, hr⟩ := hreturns
  refine ⟨r, hr, fun hfail => ⟨fun hretry => ?_, fun ⟨hcb, hearly⟩ => ?_⟩⟩
  · have hcb : (c.channel ch).bundle.superBufNotifyCb = false := by
      refine Bool.eq_false_iff.mpr fun hon => ?_
      have hkept := hretry.notifyCb
      rw [h.start_clears hon hr hfail, hon] at hkept
      cases hkept
    refine ⟨hcb, fun k hk => Classical.byContradiction fun hlate => ?_⟩
    subst hk
    obtain ⟨pre, p, post, hobjs, hrc, -, hstream⟩ := h.start_fails hcb hr hfail
    have hp : p ∈ c.startObjs ch := by rw [hobjs]; simp
    have hpre : p ∉ pre := by
      have hnodup := h.startObjs_nodup
      rw [hobjs, List.nodup_append] at hnodup
      exact fun hm => hnodup.2.2 p hm p List.mem_cons_self rfl
    obtain ⟨-, hkernel, hrefcnt, -⟩ := hretry.rest p (CameraObj.mem_startObjs.mp hp)
    rw [hstream p, if_neg hpre, if_pos rfl] at hkernel hrefcnt
    rcases (h.mem_startObjs p hp).1.spoiled hlate hrc with hqueued | hheld
    · exact hqueued hkernel
    · exact hheld (hrefcnt 0)
  · obtain ⟨pre, p, post, hobjs, -, hchan, hstream⟩ := h.start_fails hcb hr hfail
    refine retryable_of_rested h hcb hchan (fun q hq => ?_) fun q hq => ?_
    · have hidle := h.idle q hq
      rw [hstream q]
      split
      next => exact hidle.rested_started
      next =>
        split
        next => exact hidle.rested_failed hearly
        next => exact hidle.rested
    · have hout : q ∉ pre ++ p :: post := by
        rw [← hobjs]
        exact mt CameraObj.mem_startObjs.mp hq
      grind

/-- Channel 0 with two configured streams of two buffers each. -/
def twoStreams (superBufNotifyCb : Bool) : CameraObj where
  channel _ := { bundle := { superBufNotifyCb, attr := some ⟨.continuous, 1, 1, 0, 1, .normal⟩ } }
  stream p :=
    if p = (0, 0) then
      { state := .cfg, myHdl := 1, chObj := some 0, getBufs := (2, fun _ => true) }
    else if p = (0, 1) then
      { state := .cfg, myHdl := 2, chObj := some 0, getBufs := (2, fun _ => true) }
    else {}

theorem twoStreams_configured (cb : Bool) : (twoStreams cb).Configured 0 := by
  have hobjs : (twoStreams cb).streamObjs 0 = [(0, 0), (0, 1)] := rfl
  have hcases : ∀ p ∈ (twoStreams cb).streamObjs 0, p = (0, 0) ∨ p = (0, 1) := by
    intro p hp
    rw [hobjs] at hp
    simpa using hp
  refine ⟨fun p hp => ?_, fun p hp => ?_, by rw [hobjs]; decide, fun h => by cases h⟩
  · rcases hcases p hp with rfl | rfl
    · exact ⟨rfl, rfl, rfl, rfl, rfl, (by decide : 2 ≤ 64)⟩
    · exact ⟨rfl, rfl, rfl, rfl, rfl, (by decide : 2 ≤ 64)⟩
  · rcases hcases p hp with rfl | rfl
    · rfl
    · rfl

theorem streamon_retried : ∃ r, (twoStreams false).mmChannelStart 0 (failsAt 1 .streamon) = some r ∧
    r.1 = -1 ∧ Retryable 0 (twoStreams false) r.2 := by
  obtain ⟨r, hr, hretry⟩ :=
    retryable_iff_early (twoStreams false) 0 (twoStreams_configured false) 1 .streamon
  have hrc : r.1 = -1 := by
    cases hr
    rfl
  exact ⟨r, hr, hrc, (hretry (by rw [hrc]; decide)).mpr ⟨rfl, fun k hk => by cases hk⟩⟩

/-- A second buffer that fails leaves the first one in the kernel, and a channel with a callback
loses its bundle. -/
theorem start_leaves_buffer :
    (∃ r, (twoStreams false).mmChannelStart 0 (failsAt 0 (.qbuf 1)) = some r ∧ r.1 = -1 ∧
      (r.2.stream (0, 0)).bufs.kernel = [0] ∧ (r.2.stream (0, 0)).bufs.polled = true ∧
      ¬Retryable 0 (twoStreams false) r.2) ∧
    ∃ r, (twoStreams true).mmChannelStart 0 (failsAt 0 .getBufs) = some r ∧ r.1 = -1 ∧
      (r.2.channel 0).bundle.superBufNotifyCb = false ∧ (r.2.channel 0).bundle.attr = none ∧
      (r.2.stream (0, 0)).isBundled = true ∧ ¬Retryable 0 (twoStreams true) r.2 := by
  refine ⟨⟨_, rfl, rfl, rfl, rfl, fun hretry => ?_⟩, ⟨_, rfl, rfl, rfl, rfl, rfl, fun hretry => ?_⟩⟩
  · have hkernel := (hretry.rest (0, 0) (by decide)).2.1
    cases hkernel
  · have hkept := hretry.notifyCb
    cases hkept

end CameraObj

end DeviceHal.Camera
