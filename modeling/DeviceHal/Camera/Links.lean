import DeviceHal.Camera.StreamFsm
import DeviceHal.Lib.Run

namespace DeviceHal.Camera

open Lib

theorem swapAt_perm {α : Type} (i j : Nat) (l : List α) : (swapAt i j l).Perm l := by
  unfold swapAt
  split
  next a b hi hj =>
    obtain ⟨hil, rfl⟩ := List.getElem?_eq_some_iff.mp hi
    obtain ⟨hjl, rfl⟩ := List.getElem?_eq_some_iff.mp hj
    exact List.set_set_perm hil hjl
  next => exact List.Perm.refl l

namespace CameraObj

variable {c c' d : CameraObj} {ch : Nat} {p q : StreamRef} {objs : List StreamRef}

theorem mem_streamObjs (h : p ∈ c.streamObjs ch) :
    p.1 = ch ∧ (c.stream p).state ≠ .notused := by
  obtain ⟨i, -, hi⟩ := List.mem_filterMap.mp h
  split at hi
  next =>
    obtain ⟨k, hk, rfl⟩ := Option.map_eq_some_iff.mp hi
    grind
  next => cases hi

theorem startObjs_perm (ch : Nat) (c : CameraObj) : (c.startObjs ch).Perm (c.streamObjs ch) := by
  unfold startObjs
  dsimp only
  split
  next => exact swapAt_perm _ _ _
  next => exact List.Perm.refl _

theorem mem_startObjs : p ∈ c.startObjs ch ↔ p ∈ c.streamObjs ch :=
  (startObjs_perm ch c).mem_iff

theorem mem_stopObjs : p ∈ c.stopObjs ch ↔ p ∈ c.streamObjs ch := by
  unfold stopObjs
  dsimp only
  split
  next => exact (swapAt_perm _ _ _).mem_iff
  next => rfl

theorem streamObjs_congr (h : ∀ i, (c.stream (ch, i)).SameEntry (c'.stream (ch, i))) :
    c'.streamObjs ch = c.streamObjs ch := by
  have hfind : ∀ hdl, c'.mmChannelUtilGetStreamByHandler ch hdl =
      c.mmChannelUtilGetStreamByHandler ch hdl := by
    intro hdl
    unfold mmChannelUtilGetStreamByHandler
    congr 2
    funext i
    rw [(h i).myHdl, decide_eq_decide.mpr (not_congr (h i).used)]
  unfold streamObjs
  congr 1
  funext i
  rw [(h i).myHdl, hfind]

/-- The channel's call clears some of its entries and links nothing. -/
structure Quiet (ch : Nat) (c c' : CameraObj) : Prop where
  slot : ∀ p, (c.stream p).SameEntry (c'.stream p) ∨ p.1 = ch ∧ (c'.stream p).state = .notused
  links : ∀ p, (c'.stream p).isLinked = true → (c.stream p).isLinked = true ∧
    (c'.stream p).linkedObj = (c.stream p).linkedObj ∧
    (c'.stream p).linkedStream = (c.stream p).linkedStream

theorem Quiet.refl (ch : Nat) (c : CameraObj) : Quiet ch c c :=
  ⟨fun _ => Or.inl (StreamObj.SameEntry.refl _), fun _ h => ⟨h, rfl, rfl⟩⟩

theorem Quiet.trans (h : Quiet ch c c') (h' : Quiet ch c' d) : Quiet ch c d := by
  refine ⟨fun p => ?_, fun p hp => ?_⟩
  · rcases h'.slot p with hsame' | hfree'
    · rcases h.slot p with hsame | hfree
      · exact Or.inl (hsame.trans hsame')
      · exact Or.inr ⟨hfree.1, hsame'.used.mpr hfree.2⟩
    · exact Or.inr hfree'
  · obtain ⟨hl', ho', hs'⟩ := h'.links p hp
    obtain ⟨hl, ho, hs⟩ := h.links p hl'
    exact ⟨hl, ho'.trans ho, hs'.trans hs⟩

theorem quiet_of_sameLink (h : ∀ p, (c.stream p).SameLink (c'.stream p)) : Quiet ch c c' :=
  ⟨fun p => Or.inl (h p).toSameEntry,
    fun p hp => ⟨(h p).isLinked ▸ hp, (h p).linkedObj, (h p).linkedStream⟩⟩

theorem unlink_sameEntry (q : StreamRef) (c : CameraObj) (p : StreamRef) :
    (c.stream p).SameEntry ((c.unlink q).stream p) := by
  unfold unlink
  by_cases he : p = q
  · subst he
    rw [setStream_self]
    exact ⟨Iff.rfl, rfl, rfl, rfl, rfl⟩
  · rw [setStream_of_ne he]
    exact StreamObj.SameEntry.refl _

theorem unlink_off (q : StreamRef) (c : CameraObj) :
    ((c.unlink q).stream q).isLinked = false := by
  unfold unlink
  rw [setStream_self]

theorem unlink_of_ne (h : p ≠ q) (c : CameraObj) : (c.unlink q).stream p = c.stream p :=
  setStream_of_ne h _ _

theorem quiet_unlink (ch : Nat) (q : StreamRef) (c : CameraObj) : Quiet ch c (c.unlink q) := by
  refine ⟨fun p => Or.inl (unlink_sameEntry q c p), fun p hp => ?_⟩
  by_cases he : p = q
  · rw [he, unlink_off] at hp
    cases hp
  · rw [unlink_of_ne he] at hp ⊢
    exact ⟨hp, rfl, rfl⟩

theorem quiet_clear (h : p.1 = ch) (c : CameraObj) : Quiet ch c (c.setStream p {}) := by
  refine ⟨fun r => ?_, fun r hr => ?_⟩
  · by_cases he : r = p
    · subst he
      rw [setStream_self]
      exact Or.inr ⟨h, rfl⟩
    · rw [setStream_of_ne he]
      exact Or.inl (StreamObj.SameEntry.refl _)
  · by_cases he : r = p
    · subst he
      rw [setStream_self] at hr
      cases hr
    · rw [setStream_of_ne he] at hr ⊢
      exact ⟨hr, rfl, rfl⟩

theorem Quiet.setChannel (h : Quiet ch c c') (ch' : Nat) (o : ChannelObj) :
    Quiet ch c (c'.setChannel ch' o) :=
  ⟨h.slot, h.links⟩

theorem setStream_sameLink {s : StreamObj} (h : (c.stream p).SameLink s) (r : StreamRef) :
    (c.stream r).SameLink ((c.setStream p s).stream r) := by
  by_cases he : r = p
  · subst he
    rw [setStream_self]
    exact h
  · rw [setStream_of_ne he]
    exact StreamObj.SameLink.refl _

theorem onOwn_sameLink {f : StreamObj → StreamObj} (hf : ∀ s : StreamObj, s.SameLink (f s))
    (objs : List StreamRef) (c : CameraObj) :
    (objs.foldl (onOwn f ch) c).channel = c.channel ∧
      ∀ p, (c.stream p).SameLink ((objs.foldl (onOwn f ch) c).stream p) := by
  induction objs generalizing c with
  | nil => exact ⟨rfl, fun p => StreamObj.SameLink.refl _⟩
  | cons p objs ih =>
    obtain ⟨hchan, hall⟩ := ih (onOwn f ch c p)
    have hone : (onOwn f ch c p).channel = c.channel ∧
        ∀ r, (c.stream r).SameLink ((onOwn f ch c p).stream r) := by
      unfold onOwn
      split
      next => exact ⟨rfl, fun r => StreamObj.SameLink.refl _⟩
      next => exact ⟨rfl, setStream_sameLink (hf _)⟩
    exact ⟨hchan.trans hone.1, fun r => (hone.2 r).trans (hall r)⟩

theorem startStream_sameLink (fail : Option StartFailure) (s : StreamObj) :
    s.SameLink (s.startStream fail).2 := by
  have hget := @StreamObj.fsmFn_sameLink fail .getBuf (by decide) s
  have hreg := @StreamObj.fsmFn_sameLink fail .regBuf (by decide) (s.mmStreamFsmFn fail .getBuf).2
  unfold StreamObj.startStream
  dsimp only
  split
  next => exact StreamObj.SameLink.refl s
  next =>
    split
    next => exact hget
    next =>
      split
      next => exact hget.trans hreg
      next => exact (hget.trans hreg).trans (StreamObj.fsmFn_sameLink fail (by decide) _)

theorem stopStream_sameLink (s : StreamObj) : s.SameLink s.stopStream :=
  (StreamObj.fsmFn_sameLink none (by decide) s).trans
    (StreamObj.fsmFn_sameLink none (by decide) _)

theorem putStream_sameLink (s : StreamObj) : s.SameLink s.putStream :=
  StreamObj.fsmFn_sameLink none (by decide) s

theorem startLoop_sameLink (fails : Nat → Option StartFailure) (objs : List StreamRef) (i : Nat)
    (c : CameraObj) :
    (startLoop ch fails objs i c).2.2.channel = c.channel ∧
      ∀ p, (c.stream p).SameLink ((startLoop ch fails objs i c).2.2.stream p) := by
  induction objs generalizing i c with
  | nil => exact ⟨rfl, fun p => StreamObj.SameLink.refl _⟩
  | cons p objs ih =>
    have hone := @setStream_sameLink c p _ (startStream_sameLink (fails i) (c.stream p))
    unfold startLoop
    dsimp only
    split
    next => exact ih (i + 1) c
    next =>
      split
      next => exact ⟨rfl, hone⟩
      next =>
        obtain ⟨hchan, hall⟩ := ih (i + 1) (c.setStream p ((c.stream p).startStream (fails i)).2)
        exact ⟨hchan, fun r => (hone r).trans (hall r)⟩

/-- An entry of the channel among the objects links to the stream. -/
def Target (ch : Nat) (objs : List StreamRef) (c : CameraObj) (q : StreamRef) : Prop :=
  ∃ p ∈ objs, (c.stream p).chObj ≠ some ch ∧ (c.stream p).linkedStream = some q

theorem link_sameEntry (q : StreamRef) (c : CameraObj) (p : StreamRef) :
    (c.stream p).SameEntry ((c.link ch q).stream p) := by
  unfold link
  by_cases he : p = q
  · subst he
    rw [setStream_self]
    exact ⟨Iff.rfl, rfl, rfl, rfl, rfl⟩
  · rw [setStream_of_ne he]
    exact StreamObj.SameEntry.refl _

theorem target_congr (h : ∀ p, (c.stream p).SameEntry (c'.stream p)) :
    Target ch objs c' q ↔ Target ch objs c q := by
  unfold Target
  simp only [(h _).chObj, (h _).linkedStream]

theorem linkObj_spec (h : linkObj ch c p = some c') :
    c'.channel = c.channel ∧ (∀ r, (c.stream r).SameEntry (c'.stream r)) ∧
      (∀ q, Target ch [p] c q → (c'.stream q).isLinked = true ∧
        (c'.stream q).linkedObj = some ch) ∧
      ∀ q, ¬Target ch [p] c q → c'.stream q = c.stream q := by
  unfold linkObj at h
  split at h
  next hother =>
    obtain ⟨q, hq, rfl⟩ := Option.map_eq_some_iff.mp h
    refine ⟨rfl, link_sameEntry q c, fun r hr => ?_, fun r hr => ?_⟩
    · obtain ⟨p', hp', -, hr'⟩ := hr
      rw [List.mem_singleton.mp hp', hq] at hr'
      cases hr'
      unfold link
      rw [setStream_self]
      exact ⟨rfl, rfl⟩
    · refine setStream_of_ne (fun he => hr ?_) _ _
      exact ⟨p, List.mem_singleton_self p, hother, he ▸ hq⟩
  next hown =>
    cases h
    refine ⟨rfl, fun r => StreamObj.SameEntry.refl _, fun r hr => ?_, fun r _ => rfl⟩
    obtain ⟨p', hp', hother, -⟩ := hr
    grind

theorem target_cons : Target ch (p :: objs) c q ↔ Target ch [p] c q ∨ Target ch objs c q := by
  unfold Target
  simp

theorem linkAll_spec (h : objs.foldlM (linkObj ch) c = some c') :
    c'.channel = c.channel ∧ (∀ p, (c.stream p).SameEntry (c'.stream p)) ∧
      (∀ q, Target ch objs c q → (c'.stream q).isLinked = true ∧
        (c'.stream q).linkedObj = some ch) ∧
      ∀ q, ¬Target ch objs c q → c'.stream q = c.stream q := by
  induction objs generalizing c with
  | nil =>
    cases h
    refine ⟨rfl, fun p => StreamObj.SameEntry.refl _, fun q hq => ?_, fun q _ => rfl⟩
    obtain ⟨p, hp, -⟩ := hq
    cases hp
  | cons p objs ih =>
    rw [List.foldlM_cons] at h
    obtain ⟨d, hd, hrest⟩ := Option.bind_eq_some_iff.mp h
    obtain ⟨hchan, hsame, hlinked, hkept⟩ := linkObj_spec hd
    obtain ⟨hchan', hsame', hlinked', hkept'⟩ := ih hrest
    refine ⟨hchan'.trans hchan, fun r => (hsame r).trans (hsame' r), fun q hq => ?_, fun q hq => ?_⟩
    · by_cases hlater : Target ch objs c q
      · exact hlinked' q ((target_congr hsame).mpr hlater)
      · rw [hkept' q (mt (target_congr hsame).mp hlater)]
        exact hlinked q ((target_cons.mp hq).resolve_right hlater)
    · rw [target_cons, not_or] at hq
      rw [hkept' q (mt (target_congr hsame).mp hq.2)]
      exact hkept q hq.1

theorem dropAll_spec (hobjs : ∀ p ∈ objs, p.1 = ch) (h : objs.foldlM (dropObj ch) c = some c') :
    c'.channel = c.channel ∧ Quiet ch c c' ∧
      ∀ q, Target ch objs c q → (c'.stream q).isLinked = false := by
  induction objs generalizing c with
  | nil =>
    cases h
    refine ⟨rfl, Quiet.refl ch _, fun q hq => ?_⟩
    obtain ⟨p, hp, -⟩ := hq
    cases hp
  | cons p objs ih =>
    rw [List.foldlM_cons] at h
    obtain ⟨d, hd, hrest⟩ := Option.bind_eq_some_iff.mp h
    obtain ⟨hchan', hquiet', hdropped'⟩ := ih (fun r hr => hobjs r (List.mem_cons_of_mem _ hr)) hrest
    have hp := hobjs p List.mem_cons_self
    unfold dropObj at hd
    split at hd
    next hother =>
      obtain ⟨q, hq, rfl⟩ := Option.map_eq_some_iff.mp hd
      have hquiet : Quiet ch c ((c.unlink q).setStream p {}) :=
        (quiet_unlink ch q c).trans (quiet_clear hp _)
      have hoff : (((c.unlink q).setStream p {}).stream q).isLinked = false := by
        by_cases he : q = p
        · subst he
          rw [setStream_self]
        · rw [setStream_of_ne he, unlink_off]
      refine ⟨hchan'.trans rfl, hquiet.trans hquiet', fun r hr => ?_⟩
      by_cases he : r = q
      · subst he
        by_contra hon
        rw [(hquiet'.links r (by simpa using hon)).1] at hoff
        cases hoff
      · obtain ⟨p', hp', hother', hr'⟩ := hr
        by_cases hpp : p' = p
        · grind
        · refine hdropped' r ⟨p', (List.mem_cons.mp hp').resolve_left hpp, ?_⟩
          have hentry := unlink_sameEntry q c p'
          rw [setStream_of_ne hpp, hentry.chObj, hentry.linkedStream]
          exact ⟨hother', hr'⟩
    next hown =>
      cases hd
      refine ⟨hchan', hquiet', fun r hr => hdropped' r ?_⟩
      refine (target_cons.mp hr).resolve_left fun hone => ?_
      obtain ⟨p', hp', hother, -⟩ := hone
      rw [List.mem_singleton.mp hp'] at hother
      exact hown hother

end CameraObj

end DeviceHal.Camera
