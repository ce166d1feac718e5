import DeviceHal.Camera.Links

namespace DeviceHal.Camera

open Lib

namespace CameraObj

variable {c c' d : CameraObj} {ch : Nat} {p q : StreamRef} {objs : List StreamRef}

/-- Every linked stream is linked to a channel that is started, with its superbuf queue and its
threads, and that has an entry for the stream. Entries, which are copies, are no streams. -/
def LinksLive (c : CameraObj) : Prop :=
  ∀ q, (c.stream q).linkedStream = none → (c.stream q).isLinked = true →
    ∃ ch, (c.stream q).linkedObj = some ch ∧ (c.channel ch).active = true ∧
      (c.channel ch).threads = true ∧ ∃ p, p.1 = ch ∧ (c.stream p).state ≠ .notused ∧
        (c.stream p).chObj ≠ some ch ∧ (c.stream p).linkedStream = some q

/-- The stream is linked to a started channel, which finds an entry for it. -/
def LiveAt (ch : Nat) (c : CameraObj) (q : StreamRef) : Prop :=
  (c.stream q).linkedObj = some ch ∧ (c.channel ch).active = true ∧
    (c.channel ch).threads = true ∧ Target ch (c.streamObjs ch) c q

structure LinkInv (c : CameraObj) : Prop where
  live : ∀ q, (c.stream q).linkedStream = none → (c.stream q).isLinked = true →
    ∃ ch, LiveAt ch c q
  entry : ∀ p, (c.stream p).state ≠ .notused → (c.stream p).chObj ≠ some p.1 →
    (c.stream p).linkedStream ≠ none
  threads : ∀ ch, (c.channel ch).threads = true →
    (c.channel ch).active = true ∧ (c.channel ch).bundle.isActive = true

theorem LinkInv.linksLive (h : c.LinkInv) : c.LinksLive := by
  intro q hnone hlinked
  obtain ⟨ch, hobj, hactive, hthreads, p, hp, hother, hq⟩ := h.live q hnone hlinked
  obtain ⟨hch, hused⟩ := mem_streamObjs hp
  grind

theorem LinkInv.frame (h : c.LinkInv)
    (hslot : ∀ p, p.1 ≠ ch → (c.stream p).SameEntry (c'.stream p))
    (hentry : ∀ p, p.1 = ch → (c'.stream p).state ≠ .notused →
      (c'.stream p).chObj ≠ some p.1 → (c'.stream p).linkedStream ≠ none)
    (hchan : ∀ ch', ch' ≠ ch → c'.channel ch' = c.channel ch')
    (hthreads : (c'.channel ch).threads = true →
      (c'.channel ch).active = true ∧ (c'.channel ch).bundle.isActive = true)
    (hlink : ∀ q, (c'.stream q).linkedStream = none → (c'.stream q).isLinked = true →
      LiveAt ch c' q ∨ (c.stream q).linkedStream = none ∧ (c.stream q).isLinked = true ∧
        (c'.stream q).linkedObj = (c.stream q).linkedObj ∧ (c.stream q).linkedObj ≠ some ch) :
    c'.LinkInv := by
  refine ⟨fun q hnone hlinked => ?_, fun p hused hother => ?_, fun ch' ht => ?_⟩
  · rcases hlink q hnone hlinked with hlive | ⟨hnone', hlinked', hsame, hne⟩
    · exact ⟨ch, hlive⟩
    · obtain ⟨ch', hobj, hactive, ht, p, hp, hother, hq⟩ := h.live q hnone' hlinked'
      have hch : ch' ≠ ch := fun he => hne (he ▸ hobj)
      have hobjs : c'.streamObjs ch' = c.streamObjs ch' :=
        streamObjs_congr fun i => hslot (ch', i) hch
      have hsameEntry := hslot p (by rw [(mem_streamObjs hp).1]; exact hch)
      refine ⟨ch', hsame.trans hobj, ?_, ?_, p, hobjs ▸ hp, ?_, ?_⟩
      · rw [hchan ch' hch]
        exact hactive
      · rw [hchan ch' hch]
        exact ht
      · rw [hsameEntry.chObj]
        exact hother
      · rw [hsameEntry.linkedStream]
        exact hq
  · by_cases hp : p.1 = ch
    · exact hentry p hp hused hother
    · have hsame := hslot p hp
      rw [hsame.linkedStream]
      rw [hsame.chObj] at hother
      exact h.entry p (mt hsame.used.mpr hused) hother
  · by_cases hch : ch' = ch
    · rw [hch] at ht ⊢
      exact hthreads ht
    · rw [hchan ch' hch] at ht ⊢
      exact h.threads ch' ht

theorem LinkInv.stopped (h : c.LinkInv) (hstop : (c.channel ch).active = false)
    (hnone : (c.stream q).linkedStream = none) (hlinked : (c.stream q).isLinked = true) :
    (c.stream q).linkedObj ≠ some ch := by
  intro hobj
  obtain ⟨ch', hobj', hactive, -⟩ := h.live q hnone hlinked
  grind

theorem Quiet.entry (hquiet : Quiet ch c c') (h : c.LinkInv) (p : StreamRef)
    (hused : (c'.stream p).state ≠ .notused) (hother : (c'.stream p).chObj ≠ some p.1) :
    (c'.stream p).linkedStream ≠ none := by
  rcases hquiet.slot p with hsame | hfree
  · rw [hsame.linkedStream]
    rw [hsame.chObj] at hother
    exact h.entry p (mt hsame.used.mpr hused) hother
  · exact absurd hfree.2 hused

theorem LinkInv.quiet (h : c.LinkInv) (hquiet : Quiet ch c c')
    (hchan : ∀ ch', ch' ≠ ch → c'.channel ch' = c.channel ch')
    (hthreads : (c'.channel ch).threads = true →
      (c'.channel ch).active = true ∧ (c'.channel ch).bundle.isActive = true)
    (hoff : ∀ q, (c.stream q).linkedStream = none → (c'.stream q).isLinked = true →
      (c.stream q).linkedObj ≠ some ch) : c'.LinkInv := by
  refine h.frame (fun p hp => ?_) (fun p _ => hquiet.entry h p) hchan hthreads
    fun q hnone hlinked => Or.inr ?_
  · exact (hquiet.slot p).resolve_right fun hfree => hp hfree.1
  · obtain ⟨hlinked', hobj, hstream⟩ := hquiet.links q hlinked
    grind

theorem LinkInv.linkStream (h : c.LinkInv) (hstop : (c.channel ch).active = false)
    (src streamId : Nat) : (c.mmChannelLinkStream ch src streamId).2.LinkInv := by
  unfold mmChannelLinkStream
  split
  next => exact h
  next q hq =>
    split
    next => exact h
    next p hp =>
      obtain ⟨i, -, rfl⟩ := Option.map_eq_some_iff.mp hp
      refine @frame c _ ch h (fun r hr => ?_) (fun r hr hused hother => ?_) (fun _ _ => rfl)
        (h.threads ch) fun r hnone hlinked => Or.inr ?_
      · rw [setStream_of_ne fun he => hr (by rw [he])]
        exact StreamObj.SameEntry.refl _
      · by_cases he : r = (ch, i)
        · subst he
          rw [setStream_self]
          simp
        · rw [setStream_of_ne he] at hused hother ⊢
          exact h.entry r hused hother
      · by_cases he : r = (ch, i)
        · subst he
          rw [setStream_self] at hnone
          cases hnone
        · rw [setStream_of_ne he] at hnone hlinked ⊢
          exact ⟨hnone, hlinked, rfl, h.stopped hstop hnone hlinked⟩

theorem getStream_fst {handler : Nat}
    (h : c.mmChannelUtilGetStreamByHandler ch handler = some p) : p.1 = ch := by
  obtain ⟨i, -, rfl⟩ := Option.map_eq_some_iff.mp h
  rfl

theorem release_cases (s : StreamObj) :
    (s.mmStreamFsmFn none .release).2 = {} ∨ (s.mmStreamFsmFn none .release).2 = s := by
  unfold StreamObj.mmStreamFsmFn
  cases s.state
  case acquired => exact Or.inl rfl
  case cfg => exact Or.inl rfl
  all_goals exact Or.inr rfl

variable {r : Int × CameraObj}

theorem LinkInv.delStream (h : c.LinkInv) (hstop : (c.channel ch).active = false)
    {streamId : Nat} (ht : c.mmChannelDelStream ch streamId = some r) :
    r.2.LinkInv := by
  have hkept : ∀ d, Quiet ch c d → d.channel = c.channel → d.LinkInv := by
    intro d hquiet hchan
    refine h.quiet hquiet (fun ch' _ => by rw [hchan]) ?_ fun q hnone hlinked => ?_
    · rw [hchan]
      exact h.threads ch
    · exact h.stopped hstop hnone (hquiet.links q hlinked).1
  unfold mmChannelDelStream at ht
  split at ht
  next =>
    cases ht
    exact h
  next p hp =>
    have hfst := getStream_fst hp
    split at ht
    next =>
      obtain ⟨q, -, rfl⟩ := Option.map_eq_some_iff.mp ht
      exact hkept _ ((quiet_unlink ch q c).trans (quiet_clear hfst _)) rfl
    next =>
      cases ht
      refine hkept _ ?_ rfl
      dsimp only
      rcases release_cases (c.stream p) with hr | hr
      · rw [hr]
        exact quiet_clear hfst c
      · rw [hr]
        exact quiet_of_sameLink (setStream_sameLink (StreamObj.SameLink.refl _))

theorem bundleObjs_spec (objs : List StreamRef) (c : CameraObj) :
    (objs.foldl (bundleObj ch) c).channel = c.channel ∧
      ∀ p, (c.stream p).SameLink ((objs.foldl (bundleObj ch) c).stream p) := by
  induction objs generalizing c with
  | nil => exact ⟨rfl, fun p => StreamObj.SameLink.refl _⟩
  | cons r objs ih =>
    obtain ⟨hchan, hall⟩ := ih (bundleObj ch c r)
    have hone : (bundleObj ch c r).channel = c.channel ∧
        ∀ p, (c.stream p).SameLink ((bundleObj ch c r).stream p) := by
      unfold bundleObj
      split
      next =>
        have hsame : (c.stream r).SameLink { c.stream r with isBundled := true } :=
          ⟨⟨Iff.rfl, rfl, rfl, rfl, rfl⟩, rfl, rfl⟩
        exact ⟨rfl, setStream_sameLink hsame⟩
      next => exact ⟨rfl, fun p => StreamObj.SameLink.refl _⟩
    exact ⟨hchan.trans hone.1, fun p => (hone.2 p).trans (hall p)⟩

theorem startBundle_sameLink (objs : List StreamRef) (c : CameraObj) (p : StreamRef) :
    (c.stream p).SameLink ((c.startBundle ch objs).stream p) := by
  unfold startBundle
  split
  next => exact (bundleObjs_spec _ c).2 p
  next => exact StreamObj.SameLink.refl _

theorem startBundle_other {ch' : Nat} (h : ch' ≠ ch) (objs : List StreamRef) (c : CameraObj) :
    (c.startBundle ch objs).channel ch' = c.channel ch' := by
  unfold startBundle
  split
  next =>
    dsimp only
    rw [setChannel_of_ne h, (bundleObjs_spec _ c).1]
  next => rfl

theorem startBundle_own (ch : Nat) (objs : List StreamRef) (c : CameraObj) :
    (c.channel ch).bundle.superBufNotifyCb = true ∧
        ((c.startBundle ch objs).channel ch).threads = true ∧
        ((c.startBundle ch objs).channel ch).bundle.isActive = true ∨
      (c.channel ch).bundle.superBufNotifyCb = false ∧ c.startBundle ch objs = c := by
  grind [startBundle, setChannel_self]

theorem target_startObjs : Target ch (c.startObjs ch) c q ↔ Target ch (c.streamObjs ch) c q := by
  unfold Target
  simp only [mem_startObjs]

variable {fails : Nat → Option StartFailure}

theorem start_stages (ht : c.mmChannelStart ch fails = some r) :
    ∃ d, (∀ p, (c.stream p).SameEntry (d.stream p)) ∧
      d.channel = (c.startBundle ch (c.startObjs ch)).channel ∧
      (∀ q, Target ch (c.streamObjs ch) c q → (d.stream q).isLinked = true ∧
        (d.stream q).linkedObj = some ch) ∧
      (∀ q, ¬Target ch (c.streamObjs ch) c q → (c.stream q).SameLink (d.stream q)) ∧
      (r.1 = 0 ∧ r.2 = d ∨
        r.1 ≠ 0 ∧ ∃ i, d.startFailed ch (c.startObjs ch) i = some r.2) := by
  obtain ⟨c2, hc2, hr⟩ := Option.bind_eq_some_iff.mp ht
  obtain ⟨hchan, hsame, hlinked, hkept⟩ := linkAll_spec hc2
  have hbundle := @startBundle_sameLink ch (c.startObjs ch) c
  have htarget : ∀ q, Target ch (c.startObjs ch) (c.startBundle ch (c.startObjs ch)) q ↔
      Target ch (c.streamObjs ch) c q :=
    fun q => (target_congr fun p => (hbundle p).toSameEntry).trans target_startObjs
  obtain ⟨hchan', hloop⟩ := @startLoop_sameLink ch fails (c.startObjs ch) 0 c2
  refine ⟨(startLoop ch fails (c.startObjs ch) 0 c2).2.2, fun p => ?_, hchan'.trans hchan,
    fun q hq => ?_, fun q hq => ?_, ?_⟩
  · exact ((hbundle p).toSameEntry.trans (hsame p)).trans (hloop p).toSameEntry
  · rw [(hloop q).isLinked, (hloop q).linkedObj]
    exact hlinked q ((htarget q).mpr hq)
  · have hq2 := hkept q (mt (htarget q).mp hq)
    exact (hq2 ▸ hbundle q).trans (hloop q)
  · dsimp only at hr
    split at hr
    next hfail =>
      obtain ⟨c', hc', rfl⟩ := Option.map_eq_some_iff.mp hr
      exact Or.inr ⟨hfail, _, hc'⟩
    next =>
      cases hr
      exact Or.inl ⟨rfl, rfl⟩

theorem releaseThreads_stream (ch : Nat) (bundle : ChannelBundle) (c : CameraObj) :
    (c.releaseThreads ch bundle).stream = c.stream := by
  unfold releaseThreads
  split <;> rfl

theorem releaseThreads_other {ch' : Nat} (h : ch' ≠ ch) (bundle : ChannelBundle) (c : CameraObj) :
    (c.releaseThreads ch bundle).channel ch' = c.channel ch' := by
  unfold releaseThreads
  split
  next => exact setChannel_of_ne h _ c
  next => rfl

theorem releaseThreads_own (ch : Nat) (bundle : ChannelBundle) (c : CameraObj) :
    ((c.releaseThreads ch bundle).channel ch).active = (c.channel ch).active ∧
      (((c.releaseThreads ch bundle).channel ch).threads = true →
        (c.channel ch).threads = true ∧ (c.channel ch).bundle.isActive = false) := by
  grind [releaseThreads, setChannel_self]

theorem startFailed_spec {i : Nat} (hobjs : ∀ p ∈ objs, p.1 = ch)
    (h : d.startFailed ch objs i = some c') :
    Quiet ch d c' ∧ (∀ ch', ch' ≠ ch → c'.channel ch' = d.channel ch') ∧
      (∀ q, Target ch objs d q → (c'.stream q).isLinked = false) ∧
      (c'.channel ch).active = (d.channel ch).active ∧
      ((c'.channel ch).threads = true →
        (d.channel ch).threads = true ∧ (d.channel ch).bundle.isActive = false) := by
  obtain ⟨e, he, rfl⟩ := Option.map_eq_some_iff.mp h
  obtain ⟨hchan, hquiet, hoff⟩ := dropAll_spec hobjs he
  have hput : ∀ s : StreamObj, s.SameLink s.stopStream.putStream :=
    fun s => (stopStream_sameLink s).trans (putStream_sameLink _)
  obtain ⟨hchan', hsame⟩ := @onOwn_sameLink ch _ hput (objs.take (i + 1)) e
  have hall : Quiet ch d ((objs.take (i + 1)).foldl (onOwn _ ch) e) :=
    hquiet.trans (quiet_of_sameLink hsame)
  generalize (objs.take (i + 1)).foldl (onOwn _ ch) e = f at hchan' hsame hall ⊢
  obtain ⟨hactive, hthreads⟩ := releaseThreads_own ch {} f
  have hstream := releaseThreads_stream ch {} f
  dsimp only
  rw [hchan', hchan] at hactive hthreads
  refine ⟨⟨fun p => ?_, fun p hp => ?_⟩, fun ch' hne => ?_, fun q hq => ?_, hactive, hthreads⟩
  · rw [hstream]
    exact hall.slot p
  · rw [hstream] at hp ⊢
    exact hall.links p hp
  · rw [releaseThreads_other hne, hchan', hchan]
  · rw [hstream, (hsame q).isLinked]
    exact hoff q hq

theorem LinkInv.start (h : c.LinkInv) (hstop : (c.channel ch).active = false)
    (ht : c.mmChannelStart ch fails = some r)
    (hgood : r.1 = 0 → (c.channel ch).bundle.superBufNotifyCb = true ∨
      ∀ q, Target ch (c.streamObjs ch) c q → (c.stream q).linkedStream ≠ none) :
    (if r.1 = 0 then r.2.setActive ch true else r.2).LinkInv := by
  obtain ⟨d, hsame, hchan, hlinked, hkept, hr⟩ := start_stages ht
  have hnothreads : (c.channel ch).threads = false := by
    by_contra ht
    have hactive := (h.threads ch (by simpa using ht)).1
    rw [hstop] at hactive
    cases hactive
  have hother : ∀ ch', ch' ≠ ch → d.channel ch' = c.channel ch' := by
    intro ch' hne
    rw [hchan, startBundle_other hne]
  have hown := startBundle_own ch (c.startObjs ch) c
  rw [← hchan] at hown
  rcases hr with ⟨h0, rfl⟩ | ⟨hfail, i, hfailed⟩
  · rw [if_pos h0]
    have hobjs : (r.2.setActive ch true).streamObjs ch = c.streamObjs ch :=
      streamObjs_congr fun i => hsame (ch, i)
    have hset : (r.2.setActive ch true).channel ch = { r.2.channel ch with active := true } :=
      setChannel_self ..
    refine @frame c _ ch h (fun p _ => hsame p) (fun p _ hused hne => ?_) (fun ch' hne => ?_)
      (fun hthreads => ?_) fun q hnone hlink => ?_
    · change (r.2.stream p).linkedStream ≠ none
      rw [(hsame p).linkedStream]
      refine h.entry p (mt (hsame p).used.mpr hused) ?_
      rwa [← (hsame p).chObj]
    · exact (setChannel_of_ne hne _ _).trans (hother ch' hne)
    · rw [hset] at hthreads ⊢
      grind
    · change (r.2.stream q).linkedStream = none at hnone
      by_cases hq : Target ch (c.streamObjs ch) c q
      · refine Or.inl ⟨(hlinked q hq).2, by rw [hset], ?_, ?_⟩
        · rw [hset]
          rcases hown with ⟨-, hthreads, -⟩ | ⟨hcb, -⟩
          · exact hthreads
          · rcases hgood h0 with hcb' | hnolink
            · rw [hcb] at hcb'
              cases hcb'
            · exact absurd ((hsame q).linkedStream ▸ hnone) (hnolink q hq)
        · rw [hobjs]
          exact (target_congr hsame).mpr hq
      · have hkeep := hkept q hq
        rw [hkeep.linkedStream] at hnone
        have hlink' : (c.stream q).isLinked = true := hkeep.isLinked ▸ hlink
        exact Or.inr ⟨hnone, hlink', hkeep.linkedObj, h.stopped hstop hnone hlink'⟩
  · rw [if_neg hfail]
    have hfst : ∀ p ∈ c.startObjs ch, p.1 = ch := fun p hp => (mem_streamObjs (mem_startObjs.mp hp)).1
    obtain ⟨hquiet, hchan', hoff, -, hthreads⟩ := startFailed_spec hfst hfailed
    have htarget : ∀ q, (r.2.stream q).isLinked = true → ¬Target ch (c.streamObjs ch) c q := by
      intro q hlink hq
      rw [hoff q ((target_congr hsame).mpr (target_startObjs.mpr hq))] at hlink
      cases hlink
    have hall : Quiet ch c r.2 := by
      refine ⟨fun p => ?_, fun p hp => ?_⟩
      · rcases hquiet.slot p with hd | hd
        · exact Or.inl ((hsame p).trans hd)
        · exact Or.inr hd
      · have hkeep := hkept p (htarget p hp)
        obtain ⟨hl, ho, hs⟩ := hquiet.links p hp
        exact ⟨hkeep.isLinked ▸ hl, ho.trans hkeep.linkedObj, hs.trans hkeep.linkedStream⟩
    refine h.quiet hall (fun ch' hne => (hchan' ch' hne).trans (hother ch' hne)) (fun ht' => ?_)
      fun q hnone hlink => h.stopped hstop hnone (hall.links q hlink).1
    obtain ⟨hd, hinactive⟩ := hthreads ht'
    rcases hown with ⟨-, -, hactive⟩ | ⟨-, he⟩
    · rw [hactive] at hinactive
      cases hinactive
    grind

/-- The stream of the first linked entry among those that the channel stops. -/
def FirstLinked (ch : Nat) (c : CameraObj) (q : StreamRef) : Prop :=
  ∃ p, (c.stopObjs ch).find? (fun p => (c.stream p).chObj ≠ some ch) = some p ∧
    (c.stream p).linkedStream = some q

theorem clearObj_channel (ch : Nat) (c : CameraObj) (p : StreamRef) :
    (clearObj ch c p).channel = c.channel := by
  unfold clearObj
  split <;> rfl

theorem clearAll_spec (hobjs : ∀ p ∈ objs, p.1 = ch) (c : CameraObj) :
    (objs.foldl (clearObj ch) c).channel = c.channel ∧
      Quiet ch c (objs.foldl (clearObj ch) c) := by
  induction objs generalizing c with
  | nil => exact ⟨rfl, Quiet.refl ch c⟩
  | cons p objs ih =>
    obtain ⟨hchan, hquiet⟩ := ih (fun r hr => hobjs r (List.mem_cons_of_mem _ hr)) (clearObj ch c p)
    have hone : Quiet ch c (clearObj ch c p) := by
      unfold clearObj
      split
      next => exact quiet_clear (hobjs p List.mem_cons_self) c
      next => exact Quiet.refl ch c
    exact ⟨hchan.trans (clearObj_channel ch c p), hone.trans hquiet⟩

theorem clearAll_keeps (hown : q ∈ objs → (c.stream q).chObj = some ch) :
    (objs.foldl (clearObj ch) c).stream q = c.stream q := by
  induction objs generalizing c with
  | nil => rfl
  | cons p objs ih =>
    have hone : (clearObj ch c p).stream q = c.stream q := by
      unfold clearObj
      split
      next hother =>
        refine setStream_of_ne (fun he => hother ?_) _ _
        rw [← he]
        exact hown (he ▸ List.mem_cons_self)
      next => rfl
    grind

theorem find_congr {f g : StreamRef → Bool} (h : ∀ p, f p = g p) :
    objs.find? f = objs.find? g := by
  rw [funext h]

theorem stop_spec (h : c.LinkInv) (ht : c.mmChannelStop ch = some d) :
    Quiet ch c d ∧ (∀ ch', ch' ≠ ch → d.channel ch' = c.channel ch') ∧
      ((d.channel ch).threads = false) ∧
      (∀ q, FirstLinked ch c q → (d.stream q).isLinked = false) ∧
      ∀ q, (c.stream q).linkedStream = none → ¬FirstLinked ch c q →
        (c.stream q).SameLink (d.stream q) := by
  obtain ⟨e, he, rfl⟩ := Option.map_eq_some_iff.mp ht
  have hfst : ∀ p ∈ c.stopObjs ch, p.1 = ch := fun p hp => (mem_streamObjs (mem_stopObjs.mp hp)).1
  obtain ⟨hchan1, hsame1⟩ := @onOwn_sameLink ch _ stopStream_sameLink (c.stopObjs ch) c
  generalize (c.stopObjs ch).foldl (onOwn StreamObj.stopStream ch) c = f at he hchan1 hsame1
  have hfind : (c.stopObjs ch).find? (fun p => (f.stream p).chObj ≠ some ch) =
      (c.stopObjs ch).find? (fun p => (c.stream p).chObj ≠ some ch) :=
    find_congr fun p => by rw [(hsame1 p).chObj]
  -- only the stream of the first linked entry is unlinked
  have hunlink : e.channel = f.channel ∧ Quiet ch f e ∧
      (∀ q, FirstLinked ch c q → (e.stream q).isLinked = false) ∧
      ∀ q, ¬FirstLinked ch c q → e.stream q = f.stream q := by
    unfold unlinkFirst at he
    rw [hfind] at he
    split at he
    next hnone =>
      cases he
      refine ⟨rfl, Quiet.refl ch _, fun q hq => ?_, fun q _ => rfl⟩
      obtain ⟨p, hp, -⟩ := hq
      rw [hnone] at hp
      cases hp
    next p hp =>
      obtain ⟨q, hq, rfl⟩ := Option.map_eq_some_iff.mp he
      rw [(hsame1 p).linkedStream] at hq
      refine ⟨rfl, quiet_unlink ch q f, fun r hr => ?_, fun r hr => ?_⟩
      · obtain ⟨p', hp', hr'⟩ := hr
        rw [hp] at hp'
        cases hp'
        rw [hq] at hr'
        cases hr'
        exact unlink_off q f
      · exact unlink_of_ne (fun heq => hr ⟨p, hp, by rw [heq]; exact hq⟩) f
  obtain ⟨hchan2, hquiet2, hoff, hkept⟩ := hunlink
  dsimp only
  have hstream3 := releaseThreads_stream ch (e.channel ch).bundle e
  have hown3 := (releaseThreads_own ch (e.channel ch).bundle e).2
  have hother3 : ∀ ch', ch' ≠ ch → (e.releaseThreads ch (e.channel ch).bundle).channel ch' =
      e.channel ch' := fun ch' hne => releaseThreads_other hne _ e
  generalize e.releaseThreads ch (e.channel ch).bundle = g at hstream3 hown3 hother3 ⊢
  obtain ⟨hchan4, hsame4⟩ := @onOwn_sameLink ch _ putStream_sameLink (c.stopObjs ch) g
  generalize (c.stopObjs ch).foldl (onOwn StreamObj.putStream ch) g = k at hchan4 hsame4 ⊢
  obtain ⟨hchan5, hquiet5⟩ := clearAll_spec hfst k
  have hquiet : Quiet ch c k := by
    refine ((quiet_of_sameLink hsame1).trans hquiet2).trans (quiet_of_sameLink fun p => ?_)
    rw [← hstream3]
    exact hsame4 p
  refine ⟨hquiet.trans hquiet5, fun ch' hne => ?_, ?_, fun q hq => ?_, fun q hnone hq => ?_⟩
  · rw [hchan5, hchan4, hother3 ch' hne, hchan2, hchan1]
  · rw [hchan5, hchan4]
    by_contra hthreads
    obtain ⟨ht', hinactive⟩ := hown3 (by simpa using hthreads)
    rw [hchan2, hchan1] at ht' hinactive
    rw [(h.threads ch ht').2] at hinactive
    cases hinactive
  · by_contra hlink
    obtain ⟨hk, -⟩ := hquiet5.links q (by simpa using hlink)
    rw [(hsame4 q).isLinked, hstream3, hoff q hq] at hk
    cases hk
  · have hk : (c.stream q).SameLink (k.stream q) := by
      have hstep := hsame4 q
      rw [hstream3, hkept q hq] at hstep
      exact (hsame1 q).trans hstep
    rw [clearAll_keeps fun hm => ?_]
    · exact hk
    · rw [hk.chObj]
      by_contra hother
      obtain ⟨hch, hused⟩ := mem_streamObjs (mem_stopObjs.mp hm)
      exact h.entry q hused (hch ▸ hother) hnone

theorem LinkInv.stop (h : c.LinkInv) (ht : c.mmChannelStop ch = some d)
    (hgood : ∀ q, (c.stream q).linkedStream = none → (c.stream q).isLinked = true →
      (c.stream q).linkedObj = some ch → FirstLinked ch c q) : (d.setActive ch false).LinkInv := by
  obtain ⟨hquiet, hother, hthreads, hoff, -⟩ := stop_spec h ht
  have hset : (d.setActive ch false).channel ch = { d.channel ch with active := false } :=
    setChannel_self ..
  refine @quiet c _ ch h (hquiet.setChannel ch _) (fun ch' hne => ?_) (fun ht' => ?_)
    fun q hnone hlink hobj => ?_
  · exact (setChannel_of_ne hne _ _).trans (hother ch' hne)
  · rw [hset] at ht'
    exact absurd ht' (by simp [hthreads])
  · have hlink' := (hquiet.links q hlink).1
    have hfree : (d.stream q).isLinked = false := hoff q (hgood q hnone hlink' hobj)
    exact absurd (hfree.symm.trans hlink) Bool.false_ne_true

/-- A start that succeeds is one of a channel with a callback or without linked streams. When a
channel is stopped, only the stream of its first linked entry is linked to it. -/
def KeepsLinks (c : CameraObj) : ChannelOp → Prop
  | .start ch fails => (c.channel ch).active = false →
    ∀ r, c.mmChannelStart ch fails = some r → r.1 = 0 →
      (c.channel ch).bundle.superBufNotifyCb = true ∨
        ∀ q, Target ch (c.streamObjs ch) c q → (c.stream q).linkedStream ≠ none
  | .stop ch => (c.channel ch).active = true →
    ∀ q, (c.stream q).linkedStream = none → (c.stream q).isLinked = true →
      (c.stream q).linkedObj = some ch → FirstLinked ch c q
  | _ => True

theorem LinkInv.step {op : ChannelOp} (h : c.LinkInv) (hgood : KeepsLinks c op)
    (ht : c.mmChannelFsmFn op = some d) : d.LinkInv := by
  cases op with
  | linkStream ch src streamId =>
    cases ht
    split
    next => exact h
    next hstop => exact h.linkStream (by simpa using hstop) src streamId
  | delStream ch streamId =>
    dsimp only [mmChannelFsmFn] at ht
    split at ht
    next =>
      cases ht
      exact h
    next hstop =>
      obtain ⟨r, hr, rfl⟩ := Option.map_eq_some_iff.mp ht
      exact h.delStream (by simpa using hstop) hr
  | start ch fails =>
    dsimp only [mmChannelFsmFn] at ht
    split at ht
    next =>
      cases ht
      exact h
    next hstop =>
      obtain ⟨r, hr, rfl⟩ := Option.map_eq_some_iff.mp ht
      have hstop' : (c.channel ch).active = false := by simpa using hstop
      exact h.start hstop' hr (hgood hstop' r hr)
  | stop ch =>
    dsimp only [mmChannelFsmFn] at ht
    split at ht
    next hactive =>
      obtain ⟨e, he, rfl⟩ := Option.map_eq_some_iff.mp ht
      exact h.stop he (hgood hactive)
    next =>
      cases ht
      exact h

theorem stop_returns (h : c.LinkInv) (ch : Nat) : ∃ d, c.mmChannelStop ch = some d := by
  obtain ⟨-, hsame⟩ := @onOwn_sameLink ch _ stopStream_sameLink (c.stopObjs ch) c
  have hunlink : ∃ e, ((c.stopObjs ch).foldl (onOwn StreamObj.stopStream ch) c).unlinkFirst ch
      (c.stopObjs ch) = some e := by
    unfold unlinkFirst
    split
    next => exact ⟨_, rfl⟩
    next p hp =>
      have hm := mem_stopObjs.mp (List.mem_of_find?_eq_some hp)
      obtain ⟨hch, hused⟩ := mem_streamObjs hm
      have hfound := List.find?_some hp
      have hother := of_decide_eq_true hfound
      rw [(hsame p).chObj, ← hch] at hother
      obtain ⟨q, hq⟩ := Option.ne_none_iff_exists'.mp (h.entry p hused hother)
      rw [(hsame p).linkedStream, hq]
      exact ⟨_, rfl⟩
  obtain ⟨e, he⟩ := hunlink
  exact ⟨_, Option.map_eq_some_iff.mpr ⟨e, he, rfl⟩⟩

theorem LinkInv.breaks {op : ChannelOp} (h : c.LinkInv) (hbad : ¬KeepsLinks c op) :
    ∃ d, c.mmChannelFsmFn op = some d ∧ ¬d.LinksLive := by
  cases op with
  | linkStream ch src streamId => exact absurd trivial hbad
  | delStream ch streamId => exact absurd trivial hbad
  | start ch fails =>
    unfold KeepsLinks at hbad
    push Not at hbad
    obtain ⟨hstop, r, hr, h0, hcb, q, htarget, hnone⟩ := hbad
    refine ⟨r.2.setActive ch true, ?_, fun hlive => ?_⟩
    · dsimp only [mmChannelFsmFn]
      rw [if_neg (by simp [hstop]), hr, Option.map_some, if_pos h0]
    · obtain ⟨d, hsame, hchan, hlinked, -, hres⟩ := start_stages hr
      rcases hres with ⟨-, rfl⟩ | ⟨hfail, -⟩
      · obtain ⟨hlink, hobj⟩ := hlinked q htarget
        obtain ⟨ch', hobj', -, hthreads, -⟩ := hlive q ((hsame q).linkedStream.trans hnone) hlink
        cases Option.some.inj (hobj.symm.trans hobj')
        rcases startBundle_own ch (c.startObjs ch) c with ⟨hcb', -⟩ | ⟨-, he⟩
        · exact hcb hcb'
        · rw [he] at hchan
          have hrun : (c.channel ch).threads = true := by
            rw [← hchan]
            unfold setActive at hthreads
            rw [setChannel_self] at hthreads
            exact hthreads
          rw [(h.threads ch hrun).1] at hstop
          cases hstop
      · exact hfail h0
  | stop ch =>
    unfold KeepsLinks at hbad
    push Not at hbad
    obtain ⟨hactive, q, hnone, hlink, hobj, hfirst⟩ := hbad
    obtain ⟨d, hd⟩ := stop_returns h ch
    refine ⟨d.setActive ch false, ?_, fun hlive => ?_⟩
    · dsimp only [mmChannelFsmFn]
      rw [if_pos hactive, hd]
      rfl
    · obtain ⟨-, -, -, -, hkept⟩ := stop_spec h hd
      have hsame := hkept q hnone hfirst
      obtain ⟨ch', hobj', hon, -⟩ := hlive q (hsame.linkedStream.trans hnone)
        (hsame.isLinked.trans hlink)
      cases Option.some.inj (hobj.symm.trans (hsame.linkedObj.symm.trans hobj'))
      unfold setActive at hon
      rw [setChannel_self] at hon
      cases hon

/-- Stopped channels with their own streams, before any of them is linked. -/
structure Unlinked (c : CameraObj) : Prop where
  own : ∀ p, (c.stream p).state ≠ .notused → (c.stream p).chObj = some p.1
  isLinked : ∀ p, (c.stream p).isLinked = false
  threads : ∀ ch, (c.channel ch).threads = false

theorem Unlinked.inv (h : c.Unlinked) : c.LinkInv := by
  refine ⟨fun q _ hlink => ?_, fun p hused hother => absurd (h.own p hused) hother,
    fun ch hthreads => ?_⟩
  · rw [h.isLinked q] at hlink
    cases hlink
  · rw [h.threads ch] at hthreads
    cases hthreads

/-- Along a run of calls the links point to started channels exactly if every successful start is
one of a channel with a callback or without linked streams, and every channel that is stopped has
no stream linked to it but that of its first linked entry. -/
theorem linksLive_iff_keeps (c : CameraObj) (h : c.Unlinked) (ops : List ChannelOp) :
    Always mmChannelFsmFn LinksLive c ops ↔ OpsMeet mmChannelFsmFn KeepsLinks c ops :=
  @always_iff_of_keeps _ _ mmChannelFsmFn (fun _ _ => True) LinkInv LinksLive KeepsLinks
    (fun _ => LinkInv.linksLive) (fun _ _ _ hi _ hgood ht => hi.step hgood ht)
    (fun _ _ hi _ hbad => hi.breaks hbad) _ ops h.inv (opsMeet_true c ops)

/-- Channel 0 with two configured streams, and channel 1 with a callback. -/
def twoChannels : CameraObj where
  channel ch := { bundle := { superBufNotifyCb := ch = 1 } }
  stream p :=
    if p = (0, 0) then { state := .cfg, myHdl := 1, chObj := some 0 }
    else if p = (0, 1) then { state := .cfg, myHdl := 2, chObj := some 0 }
    else {}

theorem twoChannels_unlinked : twoChannels.Unlinked := by
  refine ⟨fun p hused => ?_, fun p => ?_, fun _ => rfl⟩
  · grind [twoChannels]
  grind [twoChannels]

theorem linkedStart_live :
    Always mmChannelFsmFn LinksLive twoChannels
      [.linkStream 1 0 1, .linkStream 1 0 2, .start 1 fun _ => none] :=
  (linksLive_iff_keeps twoChannels twoChannels_unlinked _).mpr
    ⟨trivial, fun t ht => by
      cases ht
      refine ⟨trivial, fun t ht => ?_⟩
      cases ht
      exact ⟨fun _ _ _ _ => Or.inl rfl, fun _ _ => trivial⟩⟩

/-- One of two streams stays linked to the channel after its stop. -/
theorem stop_leaves_link :
    ∃ t, runOps mmChannelFsmFn twoChannels
        [.linkStream 1 0 1, .linkStream 1 0 2, .start 1 fun _ => none, .stop 1] = some t ∧
      (t.stream (0, 0)).isLinked = true ∧ (t.stream (0, 0)).linkedObj = some 1 ∧
      (t.channel 1).active = false ∧ (t.channel 1).threads = false ∧ ¬t.LinksLive := by
  refine ⟨_, rfl, rfl, rfl, rfl, rfl, fun hlive => ?_⟩
  obtain ⟨ch, hobj, hactive, -⟩ := hlive (0, 0) rfl rfl
  cases hobj
  cases hactive

end CameraObj

end DeviceHal.Camera
