import Mathlib.Data.List.Basic

namespace DeviceHal.Camera

/-- A queue that can be switched off. -/
structure QCameraQueue (α : Type) where
  nodes : List α := []
  active : Bool := true

namespace QCameraQueue

variable {α : Type}

def isEmpty (q : QCameraQueue α) : Bool := q.nodes.isEmpty

/-- `nodeOk` is whether the node could be allocated. -/
def enqueue (data : α) (nodeOk : Bool) (q : QCameraQueue α) : Bool × QCameraQueue α :=
  if nodeOk && q.active then (true, { q with nodes := q.nodes ++ [data] }) else (false, q)

def dequeue (q : QCameraQueue α) : Option α × QCameraQueue α :=
  if q.active then (q.nodes.head?, { q with nodes := q.nodes.tail }) else (none, q)

/-- The nodes that are released, and the queue without them. -/
def flush (q : QCameraQueue α) : List α × QCameraQueue α :=
  if q.active then (q.nodes, { nodes := [], active := false }) else ([], q)

def init (q : QCameraQueue α) : QCameraQueue α := { q with active := true }

end QCameraQueue

inductive CamSyncType where
  | main
  | aux
deriving DecidableEq

/-- An image handed to the muxer. `releaseCb` and `releaseData` are whether the pointers are set.
History: its number. -/
structure JpegInfo where
  id : Nat
  frameIdx : UInt32
  releaseCb : Bool
  releaseData : Bool
deriving DecidableEq

/-- Where a call of `storeJpeg` is once it has seen whether MPO is enabled. -/
inductive StorePc where
  | enqueue
  | trigger
  | release
deriving DecidableEq

structure StoreCall where
  jpeg : JpegInfo
  camType : CamSyncType
  pc : StorePc

inductive ComposeCmd where
  | startDataProc
  | stopDataProc
  | doNextJob
deriving DecidableEq

/-- Where the composition thread is. -/
inductive ComposePc where
  | getCmd
  | mainEmpty
  | auxEmpty
  | dequeueMain
  | dequeueAux
  | releaseMain
  | releaseAux
deriving DecidableEq

/-- The composition thread with the local variables of a job. -/
structure ComposeTh where
  isActive : Bool := false
  pc : ComposePc := .getCmd
  mainJpegNode : Option JpegInfo := none
  auxJpegNode : Option JpegInfo := none

/-- The muxer, with the calls of `storeJpeg` and the commands of the composition thread that are under
way. History: the images handed to `storeJpeg`, the pairs handed to `composeMpo`, the images that a
flush took out of a queue and those for which `release_cb` was called. -/
structure Muxer where
  mpoEnabled : Bool := true
  mainQ : QCameraQueue JpegInfo := {}
  auxQ : QCameraQueue JpegInfo := {}
  calls : List StoreCall := []
  cmds : List ComposeCmd := []
  th : ComposeTh := {}
  images : List JpegInfo := []
  composed : List (JpegInfo × JpegInfo) := []
  flushed : List JpegInfo := []
  released : List JpegInfo := []

/-- The images for which the callback is called. -/
def calledBack (js : List JpegInfo) : List JpegInfo := js.filter fun j => j.releaseCb

namespace Muxer

def callRelease (js : List JpegInfo) (m : Muxer) : Muxer :=
  { m with released := m.released ++ calledBack js }

/-- Without MPO the image is released at once. `allocOk` is whether the node could be allocated. -/
def storeJpeg (camType : CamSyncType) (frameIdx : UInt32) (releaseCb releaseData allocOk : Bool)
    (m : Muxer) : Muxer :=
  let jpeg : JpegInfo := ⟨m.images.length, frameIdx, releaseCb, releaseData⟩
  let m := { m with images := m.images ++ [jpeg] }
  if !m.mpoEnabled then { m with calls := m.calls ++ [⟨jpeg, camType, .release⟩] }
  else if allocOk then { m with calls := m.calls ++ [⟨jpeg, camType, .enqueue⟩] }
  else m

def queue (camType : CamSyncType) (m : Muxer) : QCameraQueue JpegInfo :=
  match camType with
  | .main => m.mainQ
  | .aux => m.auxQ

def setQueue (camType : CamSyncType) (q : QCameraQueue JpegInfo) (m : Muxer) : Muxer :=
  match camType with
  | .main => { m with mainQ := q }
  | .aux => { m with auxQ := q }

/-- The next step of a call of `storeJpeg`. `ok` is whether the memory for the queue's node or the
command could be allocated. -/
def callStep (i : Nat) (ok : Bool) (m : Muxer) : Muxer :=
  match m.calls[i]? with
  | none => m
  | some c =>
    match c.pc with
    | .enqueue =>
      let r := (m.queue c.camType).enqueue c.jpeg ok
      let pc := if r.1 then StorePc.trigger else .release
      { m.setQueue c.camType r.2 with calls := m.calls.set i { c with pc } }
    | .trigger =>
      let m := { m with calls := m.calls.eraseIdx i }
      if ok && !(m.queue c.camType).isEmpty then { m with cmds := m.cmds ++ [.doNextJob] } else m
    | .release => { m with calls := m.calls.eraseIdx i }.callRelease [c.jpeg]

/-- The next step of the composition thread. The locals keep what they have until they are
overwritten, also when the nodes are freed. -/
def composeStep (m : Muxer) : Muxer :=
  match m.th.pc with
  | .getCmd =>
    match m.cmds with
    | [] => m
    | cmd :: cmds =>
      let m := { m with cmds }
      match cmd with
      | .startDataProc => { m with th := { m.th with isActive := true } }
      | .stopDataProc => { m with th := { m.th with isActive := false } }
      | .doNextJob =>
        if m.th.isActive then
          { m with th := { m.th with pc := .mainEmpty, mainJpegNode := none, auxJpegNode := none } }
        else m
  | .mainEmpty =>
    { m with th := { m.th with pc := if m.mainQ.isEmpty then .getCmd else .auxEmpty } }
  | .auxEmpty =>
    { m with th := { m.th with pc := if m.auxQ.isEmpty then .getCmd else .dequeueMain } }
  | .dequeueMain =>
    let r := m.mainQ.dequeue
    let pc := if r.1.isSome then ComposePc.dequeueAux else .releaseMain
    { m with mainQ := r.2, th := { m.th with pc, mainJpegNode := r.1 } }
  | .dequeueAux =>
    let r := m.auxQ.dequeue
    -- `composeMpo` gets the two nodes
    let composed := match m.th.mainJpegNode, r.1 with
      | some main, some aux => m.composed ++ [(main, aux)]
      | _, _ => m.composed
    { m with auxQ := r.2, composed, th := { m.th with pc := .releaseMain, auxJpegNode := r.1 } }
  | .releaseMain =>
    { m with th := { m.th with pc := .releaseAux } }.callRelease m.th.mainJpegNode.toList
  | .releaseAux =>
    { m with th := { m.th with pc := .mainEmpty } }.callRelease m.th.auxJpegNode.toList

/-- `releaseJpegInfo` calls nothing without data. -/
def flush (camType : CamSyncType) (m : Muxer) : Muxer :=
  let r := (m.queue camType).flush
  { m.setQueue camType r.2 with flushed := m.flushed ++ r.1 }.callRelease
    (r.1.filter fun j => j.releaseData)

end Muxer

/-- What the threads of the muxer do. A `stop_preview` flushes the two queues one after the other, a
`take_picture` sets whether MPO is enabled, initialises the queues and sends a command. -/
inductive MuxerOp where
  | storeJpeg (camType : CamSyncType) (frameIdx : UInt32) (releaseCb releaseData allocOk : Bool)
  | callStep (i : Nat) (ok : Bool)
  | composeStep
  | flush (camType : CamSyncType)
  | init (camType : CamSyncType)
  | setMpoEnabled (mpoEnabled : Bool)
  | sendCmd (cmd : ComposeCmd)

namespace Muxer

def step (m : Muxer) : MuxerOp → Option Muxer
  | .storeJpeg camType frameIdx releaseCb releaseData allocOk =>
    some (m.storeJpeg camType frameIdx releaseCb releaseData allocOk)
  | .callStep i ok => some (m.callStep i ok)
  | .composeStep => some m.composeStep
  | .flush camType => some (m.flush camType)
  | .init camType => some (m.setQueue camType (m.queue camType).init)
  | .setMpoEnabled mpoEnabled => some { m with mpoEnabled }
  | .sendCmd cmd => some { m with cmds := m.cmds ++ [cmd] }

/-- Starts the thread and stores images, each with its camera and frame, until all are accepted and
requested. -/
def storeAll (images : List (CamSyncType × UInt32)) : List MuxerOp :=
  [.sendCmd .startDataProc, .composeStep] ++ images.flatMap fun image =>
    [.storeJpeg image.1 image.2 true true true, .callStep 0 true, .callStep 0 true]

variable {m t : Muxer}

@[simp] theorem queue_setQueue (camType : CamSyncType) (q : QCameraQueue JpegInfo) (m : Muxer) :
    (m.setQueue camType q).queue camType = q := by
  cases camType <;> rfl

theorem queue_setQueue_of_ne {camType camType' : CamSyncType} (h : camType' ≠ camType)
    (q : QCameraQueue JpegInfo) (m : Muxer) :
    (m.setQueue camType q).queue camType' = m.queue camType' := by
  cases camType <;> cases camType' <;> first | rfl | exact absurd rfl h

@[simp] theorem setQueue_th (camType : CamSyncType) (q : QCameraQueue JpegInfo) (m : Muxer) :
    (m.setQueue camType q).th = m.th := by
  cases camType <;> rfl

@[simp] theorem setQueue_composed (camType : CamSyncType) (q : QCameraQueue JpegInfo) (m : Muxer) :
    (m.setQueue camType q).composed = m.composed := by
  cases camType <;> rfl

@[simp] theorem setQueue_images (camType : CamSyncType) (q : QCameraQueue JpegInfo) (m : Muxer) :
    (m.setQueue camType q).images = m.images := by
  cases camType <;> rfl

theorem setQueue_self (camType : CamSyncType) (m : Muxer) :
    m.setQueue camType (m.queue camType) = m := by
  cases camType <;> rfl

/-- The call that is under way after a call of `storeJpeg` has seen whether MPO is enabled. -/
def storedCall (camType : CamSyncType) (jpeg : JpegInfo) (mpoEnabled allocOk : Bool) :
    List StoreCall :=
  if !mpoEnabled then [⟨jpeg, camType, .release⟩]
  else if allocOk then [⟨jpeg, camType, .enqueue⟩] else []

theorem storeJpeg_eq (camType : CamSyncType) (frameIdx : UInt32)
    (releaseCb releaseData allocOk : Bool) (m : Muxer) :
    m.storeJpeg camType frameIdx releaseCb releaseData allocOk =
      { m with
        images := m.images ++ [⟨m.images.length, frameIdx, releaseCb, releaseData⟩]
        calls := m.calls ++ storedCall camType
          ⟨m.images.length, frameIdx, releaseCb, releaseData⟩ m.mpoEnabled allocOk } := by
  grind [storeJpeg, storedCall]

theorem flush_of_inactive {camType : CamSyncType} (h : (m.queue camType).active = false) :
    m.flush camType = m := by
  simp [flush, QCameraQueue.flush, h, setQueue_self, callRelease, calledBack]

theorem flush_of_active {camType : CamSyncType} (h : (m.queue camType).active = true) :
    m.flush camType =
      { m.setQueue camType { nodes := [], active := false } with
        flushed := m.flushed ++ (m.queue camType).nodes }.callRelease
          ((m.queue camType).nodes.filter fun j => j.releaseData) := by
  simp only [flush, QCameraQueue.flush, h, if_true]

/-- What a step of a call of `storeJpeg` does. -/
inductive CallStep (m : Muxer) (i : Nat) (ok : Bool) (t : Muxer) : Prop
  | absent (hc : m.calls[i]? = none) (ht : t = m)
  | accept (c : StoreCall) (hc : m.calls[i]? = some c) (hpc : c.pc = .enqueue)
      (hactive : (ok && (m.queue c.camType).active) = true)
      (ht : t = { m.setQueue c.camType { m.queue c.camType with
        nodes := (m.queue c.camType).nodes ++ [c.jpeg] } with
          calls := m.calls.set i { c with pc := .trigger } })
  | refuse (c : StoreCall) (hc : m.calls[i]? = some c) (hpc : c.pc = .enqueue)
      (hactive : (ok && (m.queue c.camType).active) = false)
      (ht : t = { m with calls := m.calls.set i { c with pc := .release } })
  | trigger (c : StoreCall) (hc : m.calls[i]? = some c) (hpc : c.pc = .trigger)
      (ht : t = { m with
        calls := m.calls.eraseIdx i
        cmds := if ok && !(m.queue c.camType).isEmpty then m.cmds ++ [.doNextJob] else m.cmds })
  | release (c : StoreCall) (hc : m.calls[i]? = some c) (hpc : c.pc = .release)
      (ht : t = { m with calls := m.calls.eraseIdx i }.callRelease [c.jpeg])

theorem callStep_spec (m : Muxer) (i : Nat) (ok : Bool) : CallStep m i ok (m.callStep i ok) := by
  cases hc : m.calls[i]? with
  | none => exact .absent hc (by simp only [callStep, hc])
  | some c =>
    cases hpc : c.pc with
    | enqueue =>
      cases hactive : ok && (m.queue c.camType).active with
      | true =>
        refine .accept c hc hpc hactive ?_
        simp only [callStep, hc, hpc, QCameraQueue.enqueue, hactive, if_true]
      | false =>
        refine .refuse c hc hpc hactive ?_
        simp only [callStep, hc, hpc, QCameraQueue.enqueue, hactive, Bool.false_eq_true, if_false,
          setQueue_self]
    | trigger =>
      refine .trigger c hc hpc ?_
      simp only [callStep, hc, hpc]
      have hqueue : Muxer.queue c.camType { m with calls := m.calls.eraseIdx i } =
          m.queue c.camType := by
        cases c.camType <;> rfl
      rw [hqueue]
      split <;> rfl
    | release => exact .release c hc hpc (by simp only [callStep, hc, hpc])

/-- What a step of the composition thread does. -/
inductive ComposeStep (m t : Muxer) : Prop
  | wait (hpc : m.th.pc = .getCmd) (hcmds : m.cmds = []) (ht : t = m)
  | setActive (cmd : ComposeCmd) (cmds : List ComposeCmd) (hpc : m.th.pc = .getCmd)
      (hcmds : m.cmds = cmd :: cmds) (hcmd : cmd ≠ .doNextJob)
      (ht : t = { m with cmds, th := { m.th with isActive := cmd == .startDataProc } })
  | skip (cmds : List ComposeCmd) (hpc : m.th.pc = .getCmd) (hcmds : m.cmds = .doNextJob :: cmds)
      (hactive : m.th.isActive = false) (ht : t = { m with cmds })
  | start (cmds : List ComposeCmd) (hpc : m.th.pc = .getCmd) (hcmds : m.cmds = .doNextJob :: cmds)
      (hactive : m.th.isActive = true)
      (ht : t = { m with
        cmds
        th := { m.th with pc := .mainEmpty, mainJpegNode := none, auxJpegNode := none } })
  | mainEmpty (hpc : m.th.pc = .mainEmpty)
      (ht : t = { m with th := { m.th with
        pc := if m.mainQ.isEmpty then .getCmd else .auxEmpty } })
  | auxEmpty (hpc : m.th.pc = .auxEmpty)
      (ht : t = { m with th := { m.th with
        pc := if m.auxQ.isEmpty then .getCmd else .dequeueMain } })
  | takeMain (j : JpegInfo) (rest : List JpegInfo) (hpc : m.th.pc = .dequeueMain)
      (hactive : m.mainQ.active = true) (hnodes : m.mainQ.nodes = j :: rest)
      (ht : t = { m with
        mainQ := { m.mainQ with nodes := rest }
        th := { m.th with pc := .dequeueAux, mainJpegNode := some j } })
  | missMain (hpc : m.th.pc = .dequeueMain) (hnone : m.mainQ.active = true → m.mainQ.nodes = [])
      (ht : t = { m with th := { m.th with pc := .releaseMain, mainJpegNode := none } })
  | takeAux (j : JpegInfo) (rest : List JpegInfo) (hpc : m.th.pc = .dequeueAux)
      (hactive : m.auxQ.active = true) (hnodes : m.auxQ.nodes = j :: rest)
      (ht : t = { m with
        auxQ := { m.auxQ with nodes := rest }
        composed := m.composed ++ (m.th.mainJpegNode.map fun main => (main, j)).toList
        th := { m.th with pc := .releaseMain, auxJpegNode := some j } })
  | missAux (hpc : m.th.pc = .dequeueAux) (hnone : m.auxQ.active = true → m.auxQ.nodes = [])
      (ht : t = { m with th := { m.th with pc := .releaseMain, auxJpegNode := none } })
  | releaseMain (hpc : m.th.pc = .releaseMain)
      (ht : t = { m with th := { m.th with pc := .releaseAux } }.callRelease
        m.th.mainJpegNode.toList)
  | releaseAux (hpc : m.th.pc = .releaseAux)
      (ht : t = { m with th := { m.th with pc := .mainEmpty } }.callRelease
        m.th.auxJpegNode.toList)

theorem dequeue_of_none {q : QCameraQueue JpegInfo} (h : q.active = true → q.nodes = []) :
    q.dequeue = (none, q) := by
  unfold QCameraQueue.dequeue
  split
  next hactive =>
    have hnodes : q.nodes = [] := h hactive
    cases q
    simp_all
  next => rfl

theorem composeStep_spec (m : Muxer) : ComposeStep m m.composeStep := by
  cases hpc : m.th.pc with
  | getCmd =>
    cases hcmds : m.cmds with
    | nil => exact .wait hpc hcmds (by simp only [composeStep, hpc, hcmds])
    | cons cmd cmds =>
      cases cmd with
      | startDataProc =>
        refine .setActive _ cmds hpc hcmds (by decide) ?_
        simp only [composeStep, hpc, hcmds]
        rfl
      | stopDataProc =>
        refine .setActive _ cmds hpc hcmds (by decide) ?_
        simp only [composeStep, hpc, hcmds]
        rfl
      | doNextJob =>
        cases hactive : m.th.isActive with
        | true =>
          refine .start cmds hpc hcmds hactive ?_
          simp only [composeStep, hpc, hcmds, hactive, if_true]
        | false =>
          refine .skip cmds hpc hcmds hactive ?_
          simp only [composeStep, hpc, hcmds, hactive, Bool.false_eq_true, if_false]
  | mainEmpty => exact .mainEmpty hpc (by simp only [composeStep, hpc])
  | auxEmpty => exact .auxEmpty hpc (by simp only [composeStep, hpc])
  | dequeueMain =>
    by_cases hnone : m.mainQ.active = true → m.mainQ.nodes = []
    · refine .missMain hpc hnone ?_
      simp only [composeStep, hpc, dequeue_of_none hnone]
      rfl
    · obtain ⟨hactive, hnodes⟩ := Classical.not_imp.mp hnone
      obtain ⟨j, rest, hnodes⟩ := List.exists_cons_of_ne_nil hnodes
      refine .takeMain j rest hpc hactive hnodes ?_
      simp only [composeStep, hpc, QCameraQueue.dequeue, hactive, hnodes, if_true]
      rfl
  | dequeueAux =>
    by_cases hnone : m.auxQ.active = true → m.auxQ.nodes = []
    · refine .missAux hpc hnone ?_
      simp only [composeStep, hpc, dequeue_of_none hnone]
      cases m.th.mainJpegNode <;> rfl
    · obtain ⟨hactive, hnodes⟩ := Classical.not_imp.mp hnone
      obtain ⟨j, rest, hnodes⟩ := List.exists_cons_of_ne_nil hnodes
      refine .takeAux j rest hpc hactive hnodes ?_
      simp only [composeStep, hpc, QCameraQueue.dequeue, hactive, hnodes, if_true]
      cases m.th.mainJpegNode with
      | none =>
        simp
      | some main => rfl
  | releaseMain => exact .releaseMain hpc (by simp only [composeStep, hpc])
  | releaseAux => exact .releaseAux hpc (by simp only [composeStep, hpc])

end Muxer

end DeviceHal.Camera
