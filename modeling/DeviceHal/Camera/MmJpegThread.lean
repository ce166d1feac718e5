import DeviceHal.Camera.MmJpegInv

namespace DeviceHal.Camera

open MmJpeg

variable {c : JpegSetup} {s s' : MmJpeg} {ph : SessionId → Phase} {id : SessionId} {p : Phase} {n : JobNode}

theorem modify_self (s : MmJpeg) (id : SessionId) (f : OmxSession → OmxSession) :
    (s.modify id f).sess id = f (s.sess id) := Function.update_self ..

theorem modify_of_ne (s : MmJpeg) {id id' : SessionId} (he : id' ≠ id) (f : OmxSession → OmxSession) :
    (s.modify id f).sess id' = s.sess id' := Function.update_of_ne he ..

namespace JpegInv

theorem jobsOf (h : JpegInv c s ph) (hand : Option JobNode) (hhand : s.mgr.hand = hand) :
    JobsInv c ⟨s.todo, hand, s.ongoing, s.freed, s.called, s.failed, s.aborted, s.accepted⟩ ph := hhand ▸ h.jobs

theorem moves (h : JpegInv c s ph) {before after : JobMgr} {sem : Nat} (hpc : s.mgr = before)
    (hbefore : before.charge = none) (hafter : after.charge = none)
    (hret : ∀ id, before ≠ .finishes id .enqueuesBuffer) (hret' : ∀ id, after ≠ .finishes id .enqueuesBuffer)
    (hhand : before.hand = after.hand) (hawake : after.watches = true → (after = .waits → s.todo ≠ []) →
      { s with jobSem := sem, mgr := after }.Awake ph) : JpegInv c { s with jobSem := sem, mgr := after } ph := by
  subst hpc
  exact h.move hbefore hafter hret hret' rfl rfl rfl rfl rfl (h.jobsOf _ hhand) hawake rfl

theorem waits (h : JpegInv c s ph) (hpc : s.mgr = .waits) :
    JpegInv c { s with jobSem := s.jobSem - 1, mgr := .checksOngoing } ph :=
  h.moves hpc rfl rfl nofun nofun rfl nofun

theorem checksOngoing_full (h : JpegInv c s ph) (hpc : s.mgr = .checksOngoing)
    (hfull : s.ongoing.length ≥ c.concurrentSessionsCount) : JpegInv c { s with mgr := .waits } ph := by
  refine h.moves hpc rfl rfl nofun nofun rfl ?_
  intro _ _
  have hpos := c.count_pos
  obtain ⟨n, hn⟩ := List.exists_mem_of_length_pos (show 0 < s.ongoing.length by omega)
  obtain ⟨id, hid⟩ := (h.jobs.ongoing n).mp hn
  have hbusy : ph id ≠ .free := by
    intro hfree
    rw [hfree] at hid
    cases hid
  exact awake_of_phase hbusy

theorem checksOngoing_locks (h : JpegInv c s ph) (hpc : s.mgr = .checksOngoing) :
    JpegInv c { s with mgr := .dequeues } ph :=
  h.moves hpc rfl rfl nofun nofun rfl nofun

theorem dequeues_nothing (h : JpegInv c s ph) (hpc : s.mgr = .dequeues) (htodo : s.todo = []) :
    JpegInv c { s with mgr := .waits } ph :=
  h.moves hpc rfl rfl nofun nofun rfl (fun _ hne => absurd htodo (hne rfl))

theorem dequeues_node (h : JpegInv c s ph) (hpc : s.mgr = .dequeues) {rest : List JobNode}
    (htodo : s.todo = n :: rest) : JpegInv c { s with todo := rest, mgr := .takesHandle n } ph :=
  h.move (by rw [hpc]; rfl) rfl (by rw [hpc]; nofun) nofun rfl rfl rfl rfl rfl
    (h.jobs.take htodo (show s.mgr.hand = none by rw [hpc]; rfl)) nofun rfl

theorem takesHandle_none (h : JpegInv c s ph) (hpc : s.mgr = .takesHandle n)
    (hnone : s.handleQ (c.queues n.jobId.session) = []) : JpegInv c { s with mgr := .readsHead n } ph := by
  refine h.moves hpc rfl rfl nofun nofun rfl ?_
  intro _ _
  have hactive := h.jobs.activeHand n (show s.mgr.hand = some n by rw [hpc]; rfl)
  have hbusy : ph n.jobId.session ≠ .free := by
    intro hfree
    have hin := (h.slots n.jobId.session).handle.mpr ⟨hactive, hfree⟩
    rw [hnone] at hin
    cases hin
  exact awake_of_phase hbusy

theorem readsHead (h : JpegInv c s ph) (hpc : s.mgr = .readsHead n) :
    JpegInv c { s with mgr := .putsBack n s.todo.isEmpty } ph :=
  h.moves hpc rfl rfl nofun nofun rfl (fun _ _ => h.awake (by rw [hpc]; rfl) (by rw [hpc]; nofun))

theorem untaken (h : JpegInv c s ph) (hhand : s.mgr.hand = some n) (hcharge : s.mgr.charge = none) :
    (ph id).node ≠ some n := by
  intro hnode
  have hno : (ph id).byMgr ≠ true := fun hby => by
    have hc := (h.slots id).mgr.charge.mpr hby
    rw [hcharge] at hc
    cases hc
  cases hongoing : (ph id).ongoing with
  | some m =>
    have hm := Phase.node_of_ongoing hongoing
    rw [hnode] at hm
    cases Option.some.inj hm
    exact h.jobs.not_ongoing_of_hand hhand ((h.jobs.ongoing n).mpr ⟨id, hongoing⟩) rfl
  | none =>
    cases hgone : (ph id).gone with
    | some m =>
      have hm := Phase.node_of_gone hgone
      rw [hnode] at hm
      cases Option.some.inj hm
      exact h.jobs.not_freed_of_hand hhand (h.jobs.gone id n hgone)
    | none =>
      generalize ph id = p at hnode hongoing hgone hno
      cases p <;> simp_all [Phase.node, Phase.ongoing, Phase.gone, Phase.byMgr]

theorem putsBack (h : JpegInv c s ph) {wasEmpty : Bool} (hpc : s.mgr = .putsBack n wasEmpty) :
    JpegInv c { s with todo := if wasEmpty then s.todo ++ [n] else n :: s.todo, mgr := .waits } ph := by
  have hhand : s.mgr.hand = some n := by rw [hpc]; rfl
  have hcharge : s.mgr.charge = none := by rw [hpc]; rfl
  refine h.move hcharge rfl (by rw [hpc]; nofun) nofun rfl rfl rfl rfl rfl ?_
    (fun _ _ => h.awake (by rw [hpc]; rfl) (by rw [hpc]; nofun)) rfl
  refine h.jobs.putBack hhand (fun id hnode => absurd hnode (h.untaken hhand hcharge)) ?_
  split
  next => exact List.perm_append_comm
  next => exact List.Perm.refl _

theorem takesHandle (h : JpegInv c s ph) (hpc : s.mgr = .takesHandle n) {rest : List SessionId}
    (hfirst : s.handleQ (c.queues n.jobId.session) = id :: rest) :
    JpegInv c { s with
      handleQ := Function.update s.handleQ (c.queues n.jobId.session) rest, mgr := .takesBuffer n id }
      (Function.update ph id (.chosen n)) := by
  have hhand : s.mgr.hand = some n := by rw [hpc]; rfl
  have hcharge : s.mgr.charge = none := by rw [hpc]; rfl
  generalize hq : c.queues n.jobId.session = q at hfirst ⊢
  have hmem : id ∈ s.handleQ q := by rw [hfirst]; exact List.mem_cons_self
  have hidq : c.queues id = q := h.member q id hmem
  obtain ⟨hm, hcb, homx, hdata, hh, hin, hret, henc, hab⟩ := h.slots id
  obtain ⟨hactive, hfree⟩ := hh.mp (hidq ▸ hmem)
  rw [hfree] at hcb homx
  have hnodup := h.nodup q
  rw [hfirst, List.nodup_cons] at hnodup
  have hself : SlotOk c { s with handleQ := Function.update s.handleQ q rest, mgr := .takesBuffer n id } id
      (.chosen n) := by
    refine ⟨rfl, hcb, homx, nofun, ⟨fun hin' => ?_, nofun⟩, fun hinactive => ?_, nofun, nofun, hab⟩
    · grind
    · rw [hactive] at hinactive
      cases hinactive
  have hlocal : Local s { s with handleQ := Function.update s.handleQ q rest, mgr := .takesBuffer n id } id := by
    refine .of_charge (fun _ _ => rfl) (fun _ _ => rfl) (by rw [hcharge]; nofun) (fun id' hc => ?_) fun id' _ => ?_
    · exact (Option.some.inj hc).symm
    · rw [hpc]
      exact ⟨nofun, nofun⟩
  refine ⟨hlocal.slots h.slots hself (fun id' he => ?_) (fun _ hnum => hnum) (fun _ _ _ _ hun => hun), ?_, ?_, ?_, ?_,
    nofun, h.noAborter⟩
  · grind
  · intro q'
    dsimp only
    by_cases hq' : q' = q
    · rw [hq', Function.update_self]
      exact hnodup.2
    · rw [Function.update_of_ne hq']
      exact h.nodup q'
  · intro q' id' hid'
    dsimp only at hid'
    by_cases hq' : q' = q
    · rw [hq', Function.update_self] at hid'
      rw [hq']
      refine h.member q id' ?_
      rw [hfirst]
      exact List.mem_cons_of_mem _ hid'
    · rw [Function.update_of_ne hq'] at hid'
      exact h.member q' id' hid'
  · refine JobsInv.choose (j := ⟨s.todo, some n, s.ongoing, s.freed, s.called, s.failed, s.aborted, s.accepted⟩)
      (h.jobsOf _ hhand) rfl hfree fun id' => h.untaken hhand hcharge
  · refine hlocal.bufs h.bufs rfl fun b => ?_
    unfold Holds Returning
    rw [Function.update_self, hfree, hpc]
    simp [Phase.bound]

theorem takesBuffer_fixed (h : JpegInv c s ph) (hpc : s.mgr = .takesBuffer n id)
    (hcb : (s.sess id).cb ≠ .finishes .enqueuesBuffer) :
    JpegInv c { s.modify id fun x => { x with autoOutBuf := false } with mgr := .enqueues n id }
      (Function.update ph id (.buffered n)) := by
  obtain ⟨hm, hcbok, homx, -, -, -, -, -, hab⟩ := h.slots id
  have hphase := phase_of_takesBuffer (hpc ▸ hm)
  rw [hphase] at hcbok homx
  have hlocal : Local s { s.modify id fun x => { x with autoOutBuf := false } with mgr := .enqueues n id } id :=
    .of_at (fun id' he => Function.update_of_ne he ..) (fun _ _ => rfl) (by rw [hpc]; rfl)
      (fun id' hc => (Option.some.inj hc).symm) nofun
  refine h.advance (by rw [hphase]; nofun) nofun hlocal rfl ?_ ?_ nofun nofun nofun ?_ rfl rfl (fun _ hnum => hnum)
    (fun _ _ _ _ hun => hun) ?_ (fun b => ?_) rfl
  · rw [modify_self]
    exact hcbok.imp_right fun hor => hor.resolve_left hcb
  · exact homx
  · rw [modify_self]
    exact hab
  · exact h.jobs.buffer (show s.mgr.hand = some n by rw [hpc]; rfl) hphase rfl rfl
  · unfold Holds Returning
    rw [modify_self, hphase, hpc]
    simp [Phase.bound, hcb]

theorem takesBuffer_auto (h : JpegInv c s ph) (hpc : s.mgr = .takesBuffer n id)
    (hcb : (s.sess id).cb ≠ .finishes .enqueuesBuffer) {b : Nat} {rest : List Nat}
    (hfirst : s.outBufQ (c.queues id) = b :: rest) :
    JpegInv c { s.modify id fun x => { x with autoOutBuf := true } with
      outBufQ := Function.update s.outBufQ (c.queues id) rest
      mgr := .enqueues { n with dstIndex := (b - 1 : Nat) } id }
      (Function.update ph id (.buffered { n with dstIndex := (b - 1 : Nat) })) := by
  obtain ⟨hm, hcbok, homx, hdata, hh, hin, -, -, hab⟩ := h.slots id
  have hphase := phase_of_takesBuffer (hpc ▸ hm)
  rw [hphase] at hcbok homx hh hin
  have hb := h.bufs.range (c.queues id) b (by rw [hfirst]; exact List.mem_cons_self)
  generalize hn' : ({ n with dstIndex := (b - 1 : Nat) } : JobNode) = n'
  have hdst : n'.dstIndex + 1 = b := by
    rw [← hn']
    have hlow := hb.1
    change ((b - 1 : Nat) : Int) + 1 = b
    omega
  generalize hs' : ({ s.modify id fun x => { x with autoOutBuf := true } with
    outBufQ := Function.update s.outBufQ (c.queues id) rest, mgr := .enqueues n' id } : MmJpeg) = s'
  have hsess : s'.sess id = { s.sess id with autoOutBuf := true } := by
    rw [← hs']
    exact Function.update_self ..
  have hmgr : s'.mgr = .enqueues n' id := by rw [← hs']
  have hlocal : Local s s' id := by
    rw [← hs']
    exact .of_at (fun id' he => Function.update_of_ne he ..) (fun _ _ => rfl) (by rw [hpc]; rfl)
      (fun id' hc => (Option.some.inj hc).symm) nofun
  have hself : SlotOk c s' id (.buffered n') := by
    rw [← hs']
    refine ⟨rfl, ?_, ?_, nofun, ⟨fun hmem => (nomatch (hh.mp hmem).2), nofun⟩, fun hno => (nomatch hin hno), nofun,
      nofun, ?_⟩
    · rw [modify_self]
      exact hcbok.imp_right fun hor => hor.resolve_left hcb
    · exact homx
    · rw [modify_self]
      exact hab
  refine h.local hlocal hself (by rw [← hs']; rfl) ?_ ?_ ?_ ?_ (fun _ _ => awake_of_update nofun) (by rw [← hs']; rfl)
  · rw [← hs']
    exact fun _ hnum => hnum
  · rw [← hs']
    exact fun _ _ _ _ hun => hun
  · rw [← hs', ← hn']
    exact h.jobs.buffer (show s.mgr.hand = some n by rw [hpc]; rfl) hphase rfl rfl
  · refine h.bufs.take (b := b) hfirst (by rw [← hs']) (fun b' => ?_) (fun b' => ?_)
      (fun id' b' he => hlocal.holds he b')
    · unfold Holds Returning
      rw [hsess, Function.update_self, hmgr]
      simp only [Phase.bound, Option.some.injEq, exists_eq_left', hcb, reduceCtorEq, or_self, false_and, or_false,
        true_and]
      omega
    · unfold Holds Returning
      rw [hphase, hpc]
      simp [Phase.bound, hcb]

theorem enqueues (h : JpegInv c s ph) (hpc : s.mgr = .enqueues n id) (hnew : ∀ m ∈ s.ongoing, m.jobId ≠ n.jobId) :
    JpegInv c { s with ongoing := s.ongoing ++ [n], mgr := .setsJob n id } (Function.update ph id (.queued n)) := by
  obtain ⟨hm, hcb, homx, -, -, -, -, -, hab⟩ := h.slots id
  have hphase := phase_of_enqueues (hpc ▸ hm)
  rw [hphase] at hcb homx
  have hlocal : Local s { s with ongoing := s.ongoing ++ [n], mgr := .setsJob n id } id :=
    .of_at (fun _ _ => rfl) (fun _ _ => rfl) (by rw [hpc]; rfl) (fun id' hc => (Option.some.inj hc).symm) nofun
  refine h.proceed (n := n) (by rw [hphase]; rfl) rfl hlocal rfl hcb homx nofun nofun nofun hab rfl rfl rfl
    (fun _ hnum => hnum) (fun _ _ _ _ hun => hun) ?_ rfl
  exact h.jobs.enqueue (show s.mgr.hand = some n by rw [hpc]; rfl) hphase hnew

theorem setsJob (h : JpegInv c s ph) (hpc : s.mgr = .setsJob n id) :
    JpegInv c { s.modify id fun x => { x with
        jobId := n.jobId, srcIndex := n.srcIndex, dstIndex := n.dstIndex, job := some n.num } with
      mgr := .encodes id .begins } (Function.update ph id (.loaded n)) := by
  obtain ⟨hm, hcb, homx, -, -, -, -, -, hab⟩ := h.slots id
  have hphase := phase_of_setsJob (hpc ▸ hm)
  rw [hphase] at hcb homx
  have hlocal : Local s { s.modify id fun x => { x with
        jobId := n.jobId, srcIndex := n.srcIndex, dstIndex := n.dstIndex, job := some n.num } with
      mgr := .encodes id .begins } id :=
    .of_at (fun id' he => Function.update_of_ne he ..) (fun _ _ => rfl) (by rw [hpc]; rfl)
      (fun id' hc => (Option.some.inj hc).symm) nofun
  refine h.proceed (n := n) (by rw [hphase]; rfl) rfl hlocal rfl ?_ homx ?_ nofun nofun ?_ ?_ rfl rfl
    (fun _ hnum => hnum) (fun _ _ _ _ hun => hun) ?_ rfl
  · rw [modify_self]
    exact hcb
  · intro m hm
    cases Option.some.inj hm
    rw [modify_self]
    exact ⟨rfl, rfl, rfl⟩
  · rw [modify_self]
    exact hab
  · rw [modify_self]
  · exact (h.jobsOf _ (by rw [hpc]; rfl)).rephase (congrArg Phase.node hphase).symm
      (congrArg Phase.ongoing hphase).symm (congrArg Phase.gone hphase).symm (congrArg Phase.calls hphase).symm
      (by rw [hphase]; nofun)

theorem loading (h : JpegInv c s ph) {pc : EncodePc} (hpc : s.mgr = .encodes id pc)
    (hloads : (JobMgr.encodes id pc).loads id) {x : OmxSession} {mgr : JobMgr} {next : JobNode → Phase}
    (hnext : next = .loaded ∨ next = .failing) (hmgr : ∀ n, MgrOk mgr id (next n)) (hcharge : mgr.charge = some id)
    (hhand : mgr.hand = none) (hret : ∀ id', mgr ≠ .finishes id' .enqueuesBuffer)
    (hx : x = { s.sess id with abortState := x.abortState, encoding := x.encoding })
    (habort : (s.sess id).abortState = .none → x.abortState = .none)
    (henc : mgr = .encodes id .emptiesMain → x.encoding = true) :
    ∃ ph', JpegInv c { s with sess := Function.update s.sess id x, mgr } ph' := by
  obtain ⟨hm, hcb, homx, hdata, -, -, -, -, hab⟩ := h.slots id
  obtain ⟨n, hphase⟩ := phase_of_loads hm (by rw [hpc]; exact hloads)
  rw [hphase] at hcb homx hdata
  have hself : Function.update s.sess id x id = x := Function.update_self ..
  have hlocal : Local s { s with sess := Function.update s.sess id x, mgr } id :=
    .of_at (fun id' he => Function.update_of_ne he ..) (fun _ _ => rfl) (charge_of_loads (by rw [hpc]; exact hloads))
      (fun id' hc => by rw [hcharge] at hc; exact (Option.some.inj hc).symm) fun id' hc => absurd hc (hret id')
  have hjobs : JobsInv c { s with sess := Function.update s.sess id x, mgr }.jobs (Function.update ph id (next n)) := by
    have hold := h.jobsOf none (by rw [hpc]; rfl)
    rw [← hhand] at hold
    rcases hnext with rfl | rfl <;> exact hold.rephase (congrArg Phase.node hphase).symm
      (congrArg Phase.ongoing hphase).symm (congrArg Phase.gone hphase).symm (congrArg Phase.calls hphase).symm
      (by rw [hphase]; nofun)
  refine ⟨_, h.proceed (n := n) (by rw [hphase]; rfl) ?_ hlocal (hmgr n) ?_ ?_ ?_ (hret id) ?_ ?_ ?_ rfl rfl
    (fun _ hnum => hnum) (fun _ _ _ _ hun => hun) hjobs rfl⟩
  · rcases hnext with rfl | rfl <;> rfl
  all_goals dsimp only; rw [hself]
  · rw [hx]
    rcases hnext with rfl | rfl <;> exact hcb
  · rcases hnext with rfl | rfl <;> exact homx
  · rw [hx]
    rcases hnext with rfl | rfl <;> exact hdata
  · exact henc
  · exact habort hab
  · rw [hx]

theorem begins (h : JpegInv c s ph) (hpc : s.mgr = .encodes id .begins) :
    ∃ ph', JpegInv c { s.modify id fun x => { x with abortState := .none, encoding := false } with
      mgr := .encodes id .configures } ph' :=
  h.loading hpc rfl (.inl rfl) (fun _ => rfl) rfl rfl nofun rfl (fun _ => rfl) nofun

theorem configures (h : JpegInv c s ph) (hpc : s.mgr = .encodes id .configures) :
    ∃ ph', JpegInv c { s with mgr := .encodes id .starts } ph' := by
  have hgoal : ∃ ph', JpegInv c { s with sess := Function.update s.sess id (s.sess id), mgr := .encodes id .starts } ph' :=
    h.loading hpc rfl (.inl rfl) (fun _ => rfl) rfl rfl nofun rfl (fun hab => hab) nofun
  rwa [Function.update_eq_self] at hgoal

theorem starts (h : JpegInv c s ph) (hpc : s.mgr = .encodes id .starts) :
    ∃ ph', JpegInv c { s.modify id fun x => { x with encoding := true } with mgr := .encodes id .emptiesMain } ph' :=
  h.loading hpc rfl (.inl rfl) (fun _ => rfl) rfl rfl nofun rfl (fun hab => hab) (fun _ => rfl)

theorem gives_up (h : JpegInv c s ph) {pc : EncodePc} (hpc : s.mgr = .encodes id pc)
    (hloads : (JobMgr.encodes id pc).loads id) : ∃ ph', JpegInv c { s with mgr := .reports id } ph' := by
  have hgoal : ∃ ph', JpegInv c { s with sess := Function.update s.sess id (s.sess id), mgr := .reports id } ph' :=
    h.loading hpc hloads (.inr rfl) (fun _ => rfl) rfl rfl nofun rfl (fun hab => hab) nofun
  rwa [Function.update_eq_self] at hgoal

theorem unfailed (h : JpegInv c s ph) (hongoing : (ph id).ongoing = some n) (hfails : (ph id).fails = none) :
    n.num ∉ s.failed := by
  intro hin
  have hnode := Phase.node_of_ongoing hongoing
  rcases h.jobs.failed n.num hin with hfreed | ⟨id', m, hm, he⟩
  · exact h.jobs.not_freed_of_ongoing ((h.jobs.ongoing n).mpr ⟨id, hongoing⟩) hfreed
  · have hid := h.jobs.inj id' id m n (Phase.node_of_fails hm) hnode he
    rw [hid, hfails] at hm
    cases hm

theorem emptiesMain (h : JpegInv c s ph) (hpc : s.mgr = .encodes id .emptiesMain) {mgr : JobMgr}
    (hmgr : mgr = .encodes id .emptiesThumb ∨ mgr = .encodes id .fills) :
    ∃ ph', JpegInv c { s with
      pending := Function.update s.pending id (s.pending id ++ (s.sess id).job.toList), mgr := mgr } ph' := by
  obtain ⟨hm, hcb, homx, hdata, -, -, -, henc, hab⟩ := h.slots id
  obtain ⟨n, hphase⟩ := phase_of_loads hm (by rw [hpc]; rfl)
  rw [hphase] at hcb homx hdata
  have hjob := (hdata n rfl).1
  rw [hjob, Option.toList_some]
  have hcharge : mgr.charge = none := by
    rcases hmgr with rfl | rfl <;> rfl
  have hhand : mgr.hand = none := by
    rcases hmgr with rfl | rfl <;> rfl
  have hret : ∀ id', mgr ≠ .finishes id' .enqueuesBuffer := by
    rcases hmgr with rfl | rfl <;> nofun
  have henc' : mgr ≠ .encodes id .emptiesMain := by
    rcases hmgr with rfl | rfl <;> nofun
  have hun : n.num ∉ s.failed := h.unfailed (by rw [hphase]; rfl) (by rw [hphase]; rfl)
  have hlocal : Local s { s with
      pending := Function.update s.pending id (s.pending id ++ [n.num]), mgr := mgr } id :=
    .of_at (fun _ _ => rfl) (fun id' he => Function.update_of_ne he ..) (by rw [hpc]; rfl)
      (fun id' hc => by rw [hcharge] at hc; cases hc) (fun id' hc => absurd hc (hret id'))
  have hjobs : JobsInv c { s with
      pending := Function.update s.pending id (s.pending id ++ [n.num]), mgr := mgr }.jobs
      (Function.update ph id (.submitted n)) := by
    have hold := (h.jobsOf none (by rw [hpc]; rfl)).rephase (p := .submitted n)
      (by rw [hphase]; rfl) (by rw [hphase]; rfl) (by rw [hphase]; rfl) (by rw [hphase]; rfl) (by rw [hphase]; nofun)
    rw [← hhand] at hold
    exact hold
  refine ⟨_, h.proceed (p := .submitted n) (n := n) (by rw [hphase]; rfl) rfl hlocal ?_ hcb ?_ hdata (hret id)
    (fun hc => absurd hc henc') hab rfl rfl rfl (fun _ hnum => hnum) (fun _ _ _ _ hun => hun) hjobs rfl⟩
  · change mgr.charge ≠ some id
    rw [hcharge]
    nofun
  · dsimp only
    rw [Function.update_self]
    refine ⟨List.mem_append_right _ List.mem_cons_self, hun, henc hpc, fun num hnum => ?_⟩
    rcases List.mem_append.mp hnum with hold | hnew
    · exact Or.inl (homx num hold)
    · exact Or.inr (List.mem_singleton.mp hnew)

theorem submits_more (h : JpegInv c s ph) {mgr : JobMgr}
    (hpc : s.mgr = .encodes id .emptiesThumb ∧ mgr = .encodes id .fills ∨
      s.mgr = .encodes id .fills ∧ mgr = .waits) : JpegInv c { s with mgr := mgr } ph := by
  have hwatches : s.mgr.watches = true := by
    rcases hpc with ⟨hpc, -⟩ | ⟨hpc, -⟩ <;> rw [hpc] <;> rfl
  have hawake : s.Awake ph := by
    refine h.awake hwatches fun hm => ?_
    rcases hpc with ⟨hpc, -⟩ | ⟨hpc, -⟩
    · rw [hpc] at hm
      cases hm
    · rw [hpc] at hm
      cases hm
  rcases hpc with ⟨hpc, rfl⟩ | ⟨hpc, rfl⟩
  · exact h.moves hpc rfl rfl nofun nofun rfl (fun _ _ => hawake)
  · exact h.moves hpc rfl rfl nofun nofun rfl (fun _ _ => hawake)

theorem phase_of_pending (h : JpegInv c s ph) {num : Nat} (hmem : num ∈ s.pending id) (hun : num ∉ s.failed) :
    ∃ n, ph id = .submitted n ∧ n.num = num := by
  have homx := (h.slots id).omx
  generalize ph id = p at homx
  cases p with
  | submitted n => exact ⟨n, rfl, ((homx.2.2.2 num hmem).resolve_left hun).symm⟩
  | _ => exact absurd (homx num hmem) hun

theorem refused (h : JpegInv c s ph) {pc : EncodePc} (hpc : s.mgr = .encodes id pc)
    (hlater : pc = .emptiesThumb ∨ pc = .fills) {num : Nat} (hmem : num ∈ s.pending id) (hun : num ∉ s.failed) :
    ∃ ph', JpegInv c { s with failed := s.failed ++ (s.sess id).job.toList, mgr := .reports id } ph' := by
  obtain ⟨n, hphase, rfl⟩ := h.phase_of_pending hmem hun
  obtain ⟨-, hcb, homx, hdata, -, -, -, -, hab⟩ := h.slots id
  rw [hphase] at hcb homx hdata
  rw [(hdata n rfl).1, Option.toList_some]
  have hcharge : s.mgr.charge = none := by
    rw [hpc]
    rcases hlater with rfl | rfl <;> rfl
  have hlocal : Local s { s with failed := s.failed ++ [n.num], mgr := .reports id } id := by
    refine .of_charge (fun _ _ => rfl) (fun _ _ => rfl) (fun id' hc => ?_) (fun id' hc => (Option.some.inj hc).symm)
      fun id' _ => ?_
    · rw [hcharge] at hc
      cases hc
    · rw [hpc]
      exact ⟨nofun, nofun⟩
  refine ⟨_, h.proceed (p := .failing n) (n := n) (by rw [hphase]; rfl) rfl hlocal rfl hcb ?_ hdata nofun nofun hab
    rfl rfl rfl (fun num hnum => List.mem_append_left _ hnum) ?_ ?_ rfl⟩
  · intro num hnum
    rcases homx.2.2.2 num hnum with hold | rfl
    · exact List.mem_append_left _ hold
    · exact List.mem_append_right _ List.mem_cons_self
  · intro id' m he hm hunm hin
    rcases List.mem_append.mp hin with hold | hnew
    · exact hunm hold
    · refine he (h.jobs.inj id' id m n ?_ ?_ (List.mem_singleton.mp hnew))
      · rw [hm]
        rfl
      · rw [hphase]
        rfl
  · exact (h.jobsOf _ (by rw [hpc]; rfl)).fail hphase

theorem reports (h : JpegInv c s ph) (hpc : s.mgr = .reports id) :
    ∃ ph', JpegInv c { s.report id with mgr := .finishes id .removes } ph' := by
  obtain ⟨hm, hcb, homx, hdata, -, -, -, -, hab⟩ := h.slots id
  obtain ⟨n, hphase⟩ := phase_of_reports (hpc ▸ hm)
  rw [hphase] at hcb homx hdata
  unfold MmJpeg.report
  rw [(hdata n rfl).1, Option.toList_some]
  have hlocal : Local s { s with called := s.called ++ [n.num], mgr := .finishes id .removes } id :=
    .of_at (fun _ _ => rfl) (fun _ _ => rfl) (by rw [hpc]; rfl) (fun id' hc => (Option.some.inj hc).symm) nofun
  refine ⟨_, h.proceed (p := .mgrCalled n) (n := n) (by rw [hphase]; rfl) rfl hlocal rfl hcb homx hdata nofun nofun hab
    rfl rfl rfl (fun _ hnum => hnum) (fun _ _ _ _ hun => hun) ?_ rfl⟩
  exact (h.jobsOf _ (by rw [hpc]; rfl)).report (by rw [hphase]; rfl) (by rw [hphase]; rfl) rfl rfl
    (by rw [hphase]; exact fun _ hm => hm)

end JpegInv

end DeviceHal.Camera
