import DeviceHal.Camera.CmdThread
import DeviceHal.Lib.Run

namespace DeviceHal.Camera

open Lib

namespace QCameraCmdThread

variable {Work : Type} {R : Routine Work} {s s' : QCameraCmdThread Work}

/-- Every call that waited returned when its command was finished. `sync_sem` holds one signal where the
call in hand has its command signalled, and none otherwise. -/
structure HandshakeRight (s : QCameraCmdThread Work) : Prop where
  returns : ∀ r ∈ s.returns, r.2 = true
  syncSem_eq : s.syncSem = s.owed

/-- The routine posts for synchronous commands only, and no caller returns between the post and the end
of the case. -/
def InTurn (s : QCameraCmdThread Work) : CmdOp → Prop
  | .routineStep => ∀ cmd rest, s.routine = .processes cmd (.postSyncSem :: rest) → cmd.sync = true
  | .callerReturns => ∀ id cmd rest, s.caller = .waits id → 0 < s.syncSem → s.routine = .processes cmd rest →
    cmd.id ≠ id
  | _ => True

/-- Exactly the command of the call in hand is synchronous, and its signal is still to come. -/
structure Pending (outstanding : Option Nat) (signalled : List Nat) (cmd : CameraCmd) : Prop where
  sync_iff : cmd.sync = true ↔ outstanding = some cmd.id
  unsignalled : cmd.id ∉ signalled

/-- The part of the invariant that does not look at the routine. -/
structure HandshakeBase (s : QCameraCmdThread Work) : Prop where
  returns : ∀ r ∈ s.returns, r.2 = true
  syncSem_eq : s.syncSem = s.owed
  queued : ∀ cmd ∈ s.cmdQueue.nodes, 
    Pending s.outstanding s.signalled cmd ∧ cmd.id < s.nextId ∧ cmd.id ∉ s.finished
  nodup : (s.cmdQueue.nodes.map CameraCmd.id).Nodup
  signalled_lt : ∀ id ∈ s.signalled, id < s.nextId
  finished_lt : ∀ id ∈ s.finished, id < s.nextId
  outstanding_lt : ∀ id, s.outstanding = some id → id < s.nextId

structure HandshakeInv (s : QCameraCmdThread Work) : Prop extends HandshakeBase s where
  worked : ∀ cmd rest, s.routine = .processes cmd rest →
    cmd.id < s.nextId ∧ cmd.id ∉ s.finished ∧ cmd.id ∉ s.cmdQueue.nodes.map CameraCmd.id ∧
      (rest.filter RoutineStep.isPost).length ≤ 1 ∧
        (RoutineStep.postSyncSem ∈ rest → Pending s.outstanding s.signalled cmd)
  done : ∀ id ∈ s.signalled, id ∈ s.finished ∨ ∃ cmd rest, s.routine = .processes cmd rest ∧ cmd.id = id

theorem handshakeInv_new : HandshakeInv ({} : QCameraCmdThread Work) where
  returns _ h := nomatch h
  syncSem_eq := rfl
  queued _ h := nomatch h
  nodup := List.nodup_nil
  signalled_lt _ h := nomatch h
  finished_lt _ h := nomatch h
  outstanding_lt _ h := nomatch h
  worked _ _ h := nomatch h
  done _ h := nomatch h

theorem mem_enqueueCmd {cmd : CameraCmdType} {sync priority nodeOk : Bool} {node : CameraCmd}
    (h : node ∈ (s.enqueueCmd cmd sync priority nodeOk).cmdQueue.nodes) :
    node ∈ s.cmdQueue.nodes ∨ node = ⟨s.nextId, cmd, sync⟩ := by
  unfold enqueueCmd at h
  dsimp only at h
  split at h
  next =>
    grind [QCameraQueue.enqueueWithPriority]
  grind [QCameraQueue.enqueue]

theorem nodup_enqueueCmd (hnodup : (s.cmdQueue.nodes.map CameraCmd.id).Nodup)
    (hfresh : ∀ node ∈ s.cmdQueue.nodes, node.id < s.nextId) (cmd : CameraCmdType) (sync priority nodeOk : Bool) :
    ((s.enqueueCmd cmd sync priority nodeOk).cmdQueue.nodes.map CameraCmd.id).Nodup := by
  have hnew : s.nextId ∉ s.cmdQueue.nodes.map CameraCmd.id := by
    intro hin
    obtain ⟨node, hnode, hid⟩ := List.mem_map.mp hin
    have hlt := hfresh node hnode
    omega
  unfold enqueueCmd
  dsimp only
  split
  next =>
    grind [QCameraQueue.enqueueWithPriority]
  next =>
    unfold QCameraQueue.enqueue
    split
    next =>
      dsimp only
      rw [List.map_append]
      refine List.nodup_append.mpr ⟨hnodup, List.pairwise_singleton _ _, ?_⟩
      intro id hid other hother he
      have hlast : other = s.nextId := List.mem_singleton.mp hother
      exact hnew (hlast ▸ he ▸ hid)
    next => exact hnodup

theorem HandshakeInv.enqueueCmd (h : HandshakeInv s) {cmd : CameraCmdType} {sync priority nodeOk : Bool}
    {caller : Caller} {otherPosts : Nat} (hnext : s' = { s.enqueueCmd cmd sync priority nodeOk with caller, otherPosts })
    (hout : s'.outstanding = s.outstanding ∧ sync = false ∨
      s.outstanding = none ∧ s'.outstanding = if sync then some s.nextId else none) : HandshakeInv s' := by
  have hsignalled : s'.signalled = s.signalled := by rw [hnext]; rfl
  have hnextId : s'.nextId = s.nextId + 1 := by rw [hnext]; rfl
  have hroutine : s'.routine = s.routine := by rw [hnext]; rfl
  have hfinished : s'.finished = s.finished := by rw [hnext]; rfl
  have hqueue : s'.cmdQueue = (s.enqueueCmd cmd sync priority nodeOk).cmdQueue := by rw [hnext]
  have hnew : ∀ id, s'.outstanding = some id → s.outstanding = some id ∨ id = s.nextId ∧ sync = true := by
    intro id hid
    rcases hout with ⟨hsame, -⟩ | ⟨hnone, hsome⟩
    · exact Or.inl (hsame ▸ hid)
    · grind
  have hpending : ∀ node : CameraCmd, Pending s.outstanding s.signalled node → node.id < s.nextId →
      Pending s'.outstanding s'.signalled node := by
    rintro node ⟨hiff, hun⟩ hlt
    refine ⟨?_, hsignalled ▸ hun⟩
    rcases hout with ⟨hsame, -⟩ | ⟨hnone, hsome⟩
    · rw [hsame]
      exact hiff
    · grind
  have howed : s'.owed = s.owed := by
    unfold owed
    rw [hsignalled]
    rcases hout with ⟨hsame, -⟩ | ⟨hnone, hsome⟩
    · rw [hsame]
    · rw [hnone, hsome]
      split
      next id hid =>
        split at hid
        next =>
          cases Option.some.inj hid
          refine if_neg fun hin => ?_
          have hlt := h.signalled_lt _ hin
          omega
        next => cases hid
      next => rfl
  refine ⟨⟨?_, ?_, ?_, ?_, ?_, ?_, ?_⟩, ?_, ?_⟩
  · rw [hnext]
    exact h.returns
  · rw [howed]
    rw [hnext]
    exact h.syncSem_eq
  · intro node hnode
    rw [hqueue] at hnode
    rcases mem_enqueueCmd hnode with hold | hlast
    · obtain ⟨hp, hlt, hunfinished⟩ := h.queued node hold
      grind
    · subst hlast
      refine ⟨⟨?_, ?_⟩, by dsimp only; omega, ?_⟩
      · dsimp only
        rcases hout with ⟨hsame, hasync⟩ | ⟨hnone, hsome⟩
        · rw [hsame, hasync]
          refine ⟨nofun, fun hid => ?_⟩
          have hlt := h.outstanding_lt _ hid
          omega
        simp [hsome]
      · dsimp only
        rw [hsignalled]
        intro hin
        have hlt := h.signalled_lt _ hin
        omega
      · dsimp only
        rw [hfinished]
        intro hin
        have hlt := h.finished_lt _ hin
        omega
  · rw [hqueue]
    exact nodup_enqueueCmd h.nodup (fun node hnode => (h.queued node hnode).2.1) ..
  · intro id hid
    rw [hsignalled] at hid
    have hlt := h.signalled_lt id hid
    omega
  · intro id hid
    rw [hfinished] at hid
    have hlt := h.finished_lt id hid
    omega
  · intro id hid
    rcases hnew id hid with hold | ⟨hlast, -⟩
    · have hlt := h.outstanding_lt id hold
      omega
    · omega
  · intro node rest hproc
    rw [hroutine] at hproc
    obtain ⟨hlt, hunfinished, hapart, hposts, hpend⟩ := h.worked node rest hproc
    refine ⟨by omega, hfinished ▸ hunfinished, ?_, hposts, fun hpost => hpending node (hpend hpost) hlt⟩
    rw [hqueue]
    intro hin
    obtain ⟨other, hother, hid⟩ := List.mem_map.mp hin
    rcases mem_enqueueCmd hother with hold | hlast
    · exact hapart (List.mem_map.mpr ⟨other, hold, hid⟩)
    · rw [hlast] at hid
      dsimp only at hid
      omega
  · intro id hid
    rw [hsignalled] at hid
    rw [hfinished, hroutine]
    exact h.done id hid

theorem HandshakeBase.goOn (h : HandshakeBase s) {cmd : CameraCmd} (hlt : cmd.id < s.nextId)
    (hunfinished : cmd.id ∉ s.finished)
    (hapart : cmd.id ∉ s.cmdQueue.nodes.map CameraCmd.id) {rest : List (RoutineStep Work)}
    (hposts : (rest.filter RoutineStep.isPost).length ≤ 1)
    (hpend : RoutineStep.postSyncSem ∈ rest → Pending s.outstanding s.signalled cmd)
    (hdone : ∀ id ∈ s.signalled, id ∈ s.finished ∨ cmd.id = id) : HandshakeInv (s.goOn cmd rest) := by
  cases rest with
  | nil =>
    refine ⟨⟨h.returns, h.syncSem_eq, ?_, h.nodup, h.signalled_lt, ?_, h.outstanding_lt⟩, ?_, ?_⟩
    · intro node hnode
      obtain ⟨hp, hl, hun⟩ := h.queued node hnode
      refine ⟨hp, hl, fun hin => ?_⟩
      rcases List.mem_append.mp hin with hold | hnew
      · exact hun hold
      · exact hapart (List.mem_map.mpr ⟨node, hnode, List.mem_singleton.mp hnew⟩)
    · intro id hid
      rcases List.mem_append.mp hid with hold | hnew
      · exact h.finished_lt id hold
      · exact (List.mem_singleton.mp hnew).symm ▸ hlt
    · grind [QCameraCmdThread.goOn]
    · intro id hid
      left
      rcases hdone id hid with hfin | he
      · exact List.mem_append_left _ hfin
      · exact List.mem_append_right _ (List.mem_singleton.mpr he.symm)
  | cons st rest =>
    refine ⟨⟨h.returns, h.syncSem_eq, h.queued, h.nodup, h.signalled_lt, h.finished_lt, h.outstanding_lt⟩, ?_, ?_⟩
    · intro other rest' hproc
      obtain ⟨hcmd, hrest⟩ := RoutineAt.processes.inj hproc
      subst hcmd hrest
      exact ⟨hlt, hunfinished, hapart, hposts, hpend⟩
    · intro id hid
      rcases hdone id hid with hfin | he
      · exact Or.inl hfin
      · exact Or.inr ⟨cmd, st :: rest, rfl, he⟩

theorem HandshakeInv.getCmd (h : HandshakeInv s) (hnotified : s.routine = .notified) :
    HandshakeInv (s.getCmd R) := by
  have hidle : ∀ id ∈ s.signalled, id ∈ s.finished := by
    intro id hid
    rcases h.done id hid with hfin | ⟨cmd, rest, hproc, -⟩
    · exact hfin
    · rw [hnotified] at hproc
      cases hproc
  unfold QCameraCmdThread.getCmd
  dsimp only
  split
  next =>
    exact ⟨⟨h.returns, h.syncSem_eq, h.queued, h.nodup, h.signalled_lt, h.finished_lt, h.outstanding_lt⟩, nofun,
      fun id hid => Or.inl (hidle id hid)⟩
  next cmd hcmd =>
    unfold QCameraQueue.dequeue at hcmd ⊢
    split at hcmd
    next hactive =>
      have hnodes : s.cmdQueue.nodes = cmd :: s.cmdQueue.nodes.tail := List.eq_cons_of_mem_head? hcmd
      have hnodup := h.nodup
      rw [hnodes, List.map_cons] at hnodup
      obtain ⟨hapart, hnodup'⟩ := List.nodup_cons.mp hnodup
      obtain ⟨hpend, hlt, hunfinished⟩ := h.queued cmd (by rw [hnodes]; exact List.mem_cons_self)
      have hbase : HandshakeBase { s with cmdQueue := { s.cmdQueue with nodes := s.cmdQueue.nodes.tail } } :=
        ⟨h.returns, h.syncSem_eq, fun node hnode => h.queued node (List.mem_of_mem_tail hnode), hnodup',
          h.signalled_lt, h.finished_lt, h.outstanding_lt⟩
      rw [if_pos hactive]
      exact hbase.goOn hlt hunfinished hapart (R.posts_le ..) (fun _ => hpend) fun id hid => Or.inl (hidle id hid)
    next => cases hcmd

theorem HandshakeInv.doStep (h : HandshakeInv s) {cmd : CameraCmd} {st : RoutineStep Work}
    {rest : List (RoutineStep Work)} (hproc : s.routine = .processes cmd (st :: rest))
    (hsync : st = .postSyncSem → cmd.sync = true) : HandshakeInv ((s.doStep cmd st).goOn cmd rest) := by
  obtain ⟨hlt, hunfinished, hapart, hposts, hpend⟩ := h.worked cmd _ hproc
  have hdone : ∀ id ∈ s.signalled, id ∈ s.finished ∨ cmd.id = id := by
    intro id hid
    rcases h.done id hid with hfin | ⟨other, rest', hproc', he⟩
    · exact Or.inl hfin
    · grind
  cases st with
  | setActive isActive =>
    have hposts' : (rest.filter RoutineStep.isPost).length ≤ 1 := hposts
    have hactive : HandshakeBase (s.doStep cmd (.setActive isActive)) :=
      ⟨h.returns, h.syncSem_eq, h.queued, h.nodup, h.signalled_lt, h.finished_lt, h.outstanding_lt⟩
    exact hactive.goOn hlt hunfinished hapart hposts' (fun hin => hpend (List.mem_cons_of_mem _ hin)) hdone
  | work what =>
    have hposts' : (rest.filter RoutineStep.isPost).length ≤ 1 := hposts
    exact h.toHandshakeBase.goOn hlt hunfinished hapart hposts' (fun hin => hpend (List.mem_cons_of_mem _ hin)) hdone
  | postSyncSem =>
    obtain ⟨hiff, hun⟩ := hpend List.mem_cons_self
    have hout := hiff.mp (hsync rfl)
    rw [List.filter_cons_of_pos rfl, List.length_cons] at hposts
    have hnone : RoutineStep.postSyncSem ∉ rest := by
      intro hin
      have hpos := List.length_pos_of_mem (List.mem_filter (p := RoutineStep.isPost).mpr ⟨hin, rfl⟩)
      omega
    have howed : s.owed = 0 := by
      unfold owed
      rw [hout]
      exact if_neg hun
    have howed' : (s.doStep cmd .postSyncSem).owed = 1 := by
      unfold owed
      rw [show (s.doStep cmd .postSyncSem).outstanding = some cmd.id from hout]
      exact if_pos (List.mem_append_right _ (List.mem_singleton.mpr rfl))
    have hposted : HandshakeBase (s.doStep cmd .postSyncSem) := by
      refine ⟨h.returns, ?_, ?_, h.nodup, ?_, h.finished_lt, h.outstanding_lt⟩
      · have heq := h.syncSem_eq
        rw [howed']
        change s.syncSem + 1 = 1
        omega
      · intro node hnode
        obtain ⟨hp, hl, hun'⟩ := h.queued node hnode
        refine ⟨⟨hp.sync_iff, fun hin => ?_⟩, hl, hun'⟩
        rcases List.mem_append.mp hin with hold | hnew
        · exact hp.unsignalled hold
        · exact hapart (List.mem_map.mpr ⟨node, hnode, List.mem_singleton.mp hnew⟩)
      · intro id hid
        rcases List.mem_append.mp hid with hold | hnew
        · exact h.signalled_lt id hold
        · exact (List.mem_singleton.mp hnew).symm ▸ hlt
    refine hposted.goOn hlt hunfinished hapart (by omega) (fun hin => absurd hin hnone) fun id hid => ?_
    rcases List.mem_append.mp hid with hold | hnew
    · exact hdone id hold
    · exact Or.inr (List.mem_singleton.mp hnew).symm

theorem HandshakeInv.callerReturns (h : HandshakeInv s) {id : Nat} (hwaits : s.caller = .waits id)
    (hsem : 0 < s.syncSem)
    (hturn : ∀ cmd rest, s.routine = .processes cmd rest → cmd.id ≠ id) :
    HandshakeInv { s with
      syncSem := s.syncSem - 1, caller := .idle, returns := s.returns ++ [(id, decide (id ∈ s.finished))] } := by
  have hout : s.outstanding = some id := by
    unfold outstanding
    rw [hwaits]
  have howed : s.owed = if id ∈ s.signalled then 1 else 0 := by
    unfold owed
    rw [hout]
  have heq := h.syncSem_eq
  have hsignalled : id ∈ s.signalled := by
    by_contra hno
    rw [if_neg hno] at howed
    omega
  rw [if_pos hsignalled] at howed
  have hfinished : id ∈ s.finished := by
    rcases h.done id hsignalled with hfin | ⟨cmd, rest, hproc, he⟩
    · exact hfin
    · exact absurd he (hturn cmd rest hproc)
  -- the commands that are left are not that of the call
  have hpending : ∀ cmd, Pending s.outstanding s.signalled cmd → Pending none s.signalled cmd := by
    rintro cmd ⟨hiff, hun⟩
    refine ⟨⟨fun hsync => ?_, nofun⟩, hun⟩
    have hsame := Option.some.inj (hout.symm.trans (hiff.mp hsync))
    exact absurd (hsame ▸ hsignalled) hun
  refine ⟨⟨?_, ?_, ?_, h.nodup, h.signalled_lt, h.finished_lt, nofun⟩, ?_, h.done⟩
  · intro r hr
    rcases List.mem_append.mp hr with hold | hnew
    · exact h.returns r hold
    grind
  · change s.syncSem - 1 = 0
    omega
  · intro node hnode
    obtain ⟨hp, hl, hun⟩ := h.queued node hnode
    exact ⟨hpending node hp, hl, hun⟩
  · intro cmd rest hproc
    obtain ⟨hlt, hunfinished, hapart, hposts, hpend⟩ := h.worked cmd rest hproc
    exact ⟨hlt, hunfinished, hapart, hposts, fun hpost => hpending cmd (hpend hpost)⟩

theorem HandshakeInv.step (h : HandshakeInv s) {op : CmdOp} (hturn : InTurn s op)
    (hstep : step R s op = some s') : HandshakeInv s' := by
  cases op with
  | sendCmd cmd sync priority nodeOk =>
    rw [QCameraCmdThread.step] at hstep
    split at hstep
    next hidle =>
      refine @HandshakeInv.enqueueCmd _ s s' h cmd sync priority nodeOk (.enqueued s.nextId sync) s.otherPosts
        (Option.some.inj hstep).symm (Or.inr ⟨?_, ?_⟩)
      · unfold outstanding
        rw [hidle]
      · cases Option.some.inj hstep
        rfl
    next => cases hstep
  | callerPosts =>
    rw [QCameraCmdThread.step] at hstep
    split at hstep
    next id sync hcaller =>
      cases Option.some.inj hstep
      have hout : ({ s with cmdSem := s.cmdSem + 1, caller := if sync then .waits id else .idle } :
          QCameraCmdThread Work).outstanding = s.outstanding := by
        unfold outstanding
        rw [hcaller]
        cases sync with
        | true => rfl
        | false => rfl
      refine ⟨⟨h.returns, ?_, ?_, h.nodup, h.signalled_lt, h.finished_lt, ?_⟩, ?_, h.done⟩
      · unfold owed
        rw [hout]
        exact h.syncSem_eq
      · rw [hout]
        exact h.queued
      · rw [hout]
        exact h.outstanding_lt
      · rw [hout]
        exact h.worked
    next => cases hstep
  | callerReturns =>
    rw [QCameraCmdThread.step] at hstep
    split at hstep
    next id hwaits =>
      split at hstep
      next hsem =>
        cases Option.some.inj hstep
        exact h.callerReturns hwaits hsem fun cmd rest => hturn id cmd rest hwaits hsem
      next => cases hstep
    next => cases hstep
  | otherSends nodeOk =>
    refine @HandshakeInv.enqueueCmd _ s s' h .doNextJob false false nodeOk s.caller (s.otherPosts + 1)
      (Option.some.inj hstep).symm (Or.inl ⟨?_, rfl⟩)
    cases Option.some.inj hstep
    rfl
  | otherPosts =>
    rw [QCameraCmdThread.step] at hstep
    split at hstep
    next =>
      cases Option.some.inj hstep
      exact ⟨⟨h.returns, h.syncSem_eq, h.queued, h.nodup, h.signalled_lt, h.finished_lt, h.outstanding_lt⟩, h.worked, h.done⟩
    next => cases hstep
  | routineWakes =>
    rw [QCameraCmdThread.step] at hstep
    split at hstep
    next hwaits =>
      split at hstep
      next =>
        cases Option.some.inj hstep
        refine ⟨⟨h.returns, h.syncSem_eq, h.queued, h.nodup, h.signalled_lt, h.finished_lt, h.outstanding_lt⟩, nofun, ?_⟩
        intro id hid
        rcases h.done id hid with hfin | ⟨cmd, rest, hproc, -⟩
        · exact Or.inl hfin
        · rw [hwaits] at hproc
          cases hproc
      next => cases hstep
    next => cases hstep
  | routineGets =>
    rw [QCameraCmdThread.step] at hstep
    split at hstep
    next hnotified =>
      cases Option.some.inj hstep
      exact h.getCmd hnotified
    next => cases hstep
  | routineStep =>
    rw [QCameraCmdThread.step] at hstep
    split at hstep
    next cmd st rest hproc =>
      cases Option.some.inj hstep
      refine h.doStep hproc fun hpost => ?_
      subst hpost
      exact hturn cmd rest hproc
    next => cases hstep

theorem HandshakeInv.breaks (h : HandshakeInv s) {op : CmdOp} (hturn : ¬InTurn s op) :
    ∃ t, QCameraCmdThread.step R s op = some t ∧ ¬HandshakeRight t := by
  cases op with
  | sendCmd cmd sync priority nodeOk => exact absurd trivial hturn
  | callerPosts => exact absurd trivial hturn
  | otherSends nodeOk => exact absurd trivial hturn
  | otherPosts => exact absurd trivial hturn
  | routineWakes => exact absurd trivial hturn
  | routineGets => exact absurd trivial hturn
  | callerReturns =>
    simp only [InTurn, Classical.not_forall, not_not] at hturn
    obtain ⟨id, cmd, rest, hwaits, hsem, hproc, he⟩ := hturn
    refine ⟨{ s with
      syncSem := s.syncSem - 1, caller := .idle, returns := s.returns ++ [(id, decide (id ∈ s.finished))] },
      ?_, fun hright => ?_⟩
    · simp only [QCameraCmdThread.step, hwaits, if_pos hsem]
    · have hlast := hright.returns _ (List.mem_append_right _ (List.mem_singleton.mpr rfl))
      have hfinished : id ∈ s.finished := of_decide_eq_true hlast
      exact (h.worked cmd rest hproc).2.1 (he ▸ hfinished)
  | routineStep =>
    simp only [InTurn, Classical.not_forall] at hturn
    obtain ⟨cmd, rest, hproc, hasync⟩ := hturn
    obtain ⟨-, -, -, -, hpend⟩ := h.worked cmd _ hproc
    refine ⟨(s.doStep cmd .postSyncSem).goOn cmd rest, ?_, fun hright => ?_⟩
    · simp only [QCameraCmdThread.step, hproc]
    · have hother : s.outstanding ≠ some cmd.id := fun hout => hasync ((hpend List.mem_cons_self).sync_iff.mpr hout)
      have howed : (s.doStep cmd .postSyncSem).owed = s.owed := by
        have hposted : (s.doStep cmd .postSyncSem).signalled = s.signalled ++ [cmd.id] := rfl
        have hsame : (s.doStep cmd .postSyncSem).outstanding = s.outstanding := rfl
        unfold owed
        rw [hsame, hposted]
        cases hout : s.outstanding with
        | none => rfl
        | some id =>
          grind
      have hsame : (s.doStep cmd .postSyncSem).syncSem = (s.doStep cmd .postSyncSem).owed := by
        have heq := hright.syncSem_eq
        cases rest with
        | nil => exact heq
        | cons st rest => exact heq
      rw [howed, ← h.syncSem_eq] at hsame
      exact Nat.succ_ne_self _ hsame

theorem HandshakeInv.right (h : HandshakeInv s) : HandshakeRight s := ⟨h.returns, h.syncSem_eq⟩

/-- Synchronous calls return when their command is finished, all along a run of either thread, exactly if
the thread posts for synchronous commands only and no call returns before the end of its case. -/
theorem handshakeRight_iff_inTurn (dataProcOps composeMpoOps : List CmdOp) :
    (Always (step dataProcessRoutine) HandshakeRight {} dataProcOps ↔
      OpsMeet (step dataProcessRoutine) InTurn {} dataProcOps) ∧
    (Always (step composeMpoRoutine) HandshakeRight {} composeMpoOps ↔
      OpsMeet (step composeMpoRoutine) InTurn {} composeMpoOps) := by
  have hall : ∀ {Work : Type} (R : Routine Work) (ops : List CmdOp),
      Always (step R) HandshakeRight {} ops ↔ OpsMeet (step R) InTurn {} ops := by
    intro Work R ops
    exact @always_iff_of_keeps _ _ (step R) (fun _ _ => True) HandshakeInv HandshakeRight InTurn
      (fun s h => h.right) (fun s op t h _ hturn hstep => h.step hturn hstep)
      (fun s op h _ hturn => h.breaks hturn) _ _ handshakeInv_new (opsMeet_true _ _)
  exact ⟨hall _ _, hall _ _⟩

/-- `START_DATA_PROC` is sent as the muxer sends it, then `STOP_DATA_PROC` as its destructor does. -/
def startThenStop : List CmdOp :=
  [.sendCmd .startDataProc false false true, .callerPosts, .routineWakes, .routineGets, .routineStep, .routineStep,
    .sendCmd .stopDataProc true false true, .callerPosts, .callerReturns]

/-- The second call returns before the routine has seen its command. -/
theorem startThenStop_early : ¬Always (step composeMpoRoutine) (fun s => ∀ r ∈ s.returns, r.2 = true) {}
    startThenStop := by
  intro h
  have hrun : ∃ s, runOps (step composeMpoRoutine) {} startThenStop = some s ∧ s.returns = [(1, false)] :=
    ⟨_, rfl, rfl⟩
  obtain ⟨s, hs, hreturns⟩ := hrun
  have hlast := h.last hs (1, false) (by rw [hreturns]; exact List.mem_cons_self)
  cases hlast

end QCameraCmdThread

end DeviceHal.Camera
