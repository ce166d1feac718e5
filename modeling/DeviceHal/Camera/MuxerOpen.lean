import DeviceHal.Lib.Run
import Mathlib.Logic.Function.Basic

namespace DeviceHal.Camera

open DeviceHal.Lib

inductive CamMode where
  | primary
  | secondary
deriving DecidableEq, Repr

/-- A physical camera descriptor. `hwi` and `dev` are of the hardware interface object. -/
structure PhysicalCamera where
  isMain : Bool
  mode : CamMode
  hwi : Option Nat := none
  dev : Option Nat := none

/-- A logical camera descriptor. `priv` is whether its `dev.priv` is set. -/
structure LogicalCamera where
  deviceVersion : Nat
  pId : List Nat
  bSyncOn : Bool := false
  priv : Bool := false

/-- The camera tables of the muxer. `opened` are the hardware interface objects whose camera is
open, with the physical camera. -/
structure MuxerCameras where
  nLogicalCameras : Nat
  logicalCamera : Option (List LogicalCamera)
  phyCamera : Nat → PhysicalCamera
  opened : List (Nat × Nat) := []
  nextHwi : Nat := 0

/-- What `new`, `setRelatedCamSyncInfo` and `openCamera` give for a physical camera. -/
structure HwiEnv where
  alloc : Bool := true
  syncInfo : Int := 0
  openRc : Int := 0

def noInit : Int := -19

def enodev : Int := -19

def noMemory : Int := -12

def badValue : Int := -22

def unknownError : Int := -2147483648

def cameraDeviceApiVersion1 : Nat := 0x100

namespace MuxerCameras

/-- What `mm_camera` answers only goes to the caller, which is the destructor. -/
def closeCamera (hw : Nat) (closeRc : Int) (m : MuxerCameras) : Int × MuxerCameras :=
  if m.opened.any fun o => o.1 = hw then
    (closeRc, { m with opened := m.opened.filter fun o => o.1 ≠ hw })
  else (0, m)

def deleteHwi (hw : Nat) (closeRc : Int) (m : MuxerCameras) : MuxerCameras :=
  (m.closeCamera hw closeRc).2

def setPhysical (phyId : Nat) (hwi : Option Nat) (m : MuxerCameras) : MuxerCameras :=
  { m with phyCamera :=
      Function.update m.phyCamera phyId { m.phyCamera phyId with hwi, dev := hwi } }

def openPhysical (phyId : Nat) (env : HwiEnv) (m : MuxerCameras) : Int × MuxerCameras :=
  if ¬ env.alloc then (noMemory, m)
  else
    let hw := m.nextHwi
    let m := { m with nextHwi := hw + 1 }
    if env.syncInfo ≠ 0 then (env.syncInfo, m.deleteHwi hw 0)
    else if env.openRc ≠ 0 then (env.openRc, m.deleteHwi hw 0)
    else (0, { m with opened := (hw, phyId) :: m.opened }.setPhysical phyId (some hw))

def openAll (env : Nat → HwiEnv) : Nat → List Nat → MuxerCameras → Int × MuxerCameras
  | _, [], m => (0, m)
  | i, phyId :: ids, m =>
    let r := m.openPhysical phyId (env i)
    if r.1 ≠ 0 then r else openAll env (i + 1) ids r.2

/-- The checks in front of the first physical camera. -/
def checkCamera (cameraId : Int) (m : MuxerCameras) : Except Int (Nat × LogicalCamera) :=
  if cameraId < 0 ∨ cameraId ≥ m.nLogicalCameras then .error enodev
  else
    match m.logicalCamera.map fun cams => cams[cameraId.toNat]? with
    | none => .error noInit
    | some none => .error enodev
    | some (some cam) =>
      if cam.deviceVersion ≠ cameraDeviceApiVersion1 then .error badValue
      else if ¬ (m.phyCamera (cam.pId.headD 0)).isMain then .error unknownError
      else .ok (cameraId.toNat, cam)

def setLogical (k : Nat) (cam : LogicalCamera) (m : MuxerCameras) : MuxerCameras :=
  { m with logicalCamera := m.logicalCamera.map fun cams => cams.set k cam }

def cameraDeviceOpen (cameraId : Int) (env : Nat → HwiEnv) (m : MuxerCameras) :
    Int × MuxerCameras :=
  match m.checkCamera cameraId with
  | .error rc => (rc, m)
  | .ok (k, cam) =>
    let r := m.openAll env 0 cam.pId
    if r.1 ≠ 0 then r else (r.1, r.2.setLogical k { cam with priv := true })

/-- The sessions are unlinked one by one. The result is where this ends the call. -/
def unlinkAll (bundleFails : Nat → Bool) (m : MuxerCameras) : Nat → List Nat → Option Int
  | _, [] => none
  | i, phyId :: ids =>
    if (m.phyCamera phyId).hwi = none then some enodev
    else if (m.phyCamera phyId).mode = .secondary ∧ bundleFails i then none
    else unlinkAll bundleFails m (i + 1) ids

/-- `none` is a null device that is read. -/
def closeAll (closeRc : Nat → Int) : Nat → List Nat → MuxerCameras → Option MuxerCameras
  | _, [], m => some m
  | i, phyId :: ids, m =>
    match (m.phyCamera phyId).dev with
    | none => none
    | some hw => closeAll closeRc (i + 1) ids ((m.deleteHwi hw (closeRc i)).setPhysical phyId none)

/-- The logical camera of a device that was handed out. -/
def getLogicalCamera (hwDev : Option Nat) (m : MuxerCameras) : Option (Nat × LogicalCamera) :=
  hwDev.bind fun k => (m.logicalCamera.bind fun cams => cams[k]?).bind fun cam =>
    if cam.priv then some (k, cam) else none

def closeCameraDevice (hwDev : Option Nat) (bundleFails : Nat → Bool) (closeRc : Nat → Int)
    (m : MuxerCameras) : Option (Int × MuxerCameras) :=
  match m.getLogicalCamera hwDev with
  | none => some (enodev, m)
  | some (k, cam) =>
    match if cam.bSyncOn ∧ cam.pId.length > 1 then m.unlinkAll bundleFails 0 cam.pId else none with
    | some rc => some (rc, m)
    | none =>
      (closeAll closeRc 0 cam.pId (m.setLogical k { cam with bSyncOn := false })).map fun m => (0, m)

end MuxerCameras

inductive MuxerCameraOp where
  | cameraDeviceOpen (cameraId : Int) (env : Nat → HwiEnv)
  | closeCameraDevice (hwDev : Option Nat) (bundleFails : Nat → Bool) (closeRc : Nat → Int)

namespace MuxerCameras

def cameraStep (m : MuxerCameras) : MuxerCameraOp → Option MuxerCameras
  | .cameraDeviceOpen cameraId env => some (m.cameraDeviceOpen cameraId env).2
  | .closeCameraDevice hwDev bundleFails closeRc =>
    (m.closeCameraDevice hwDev bundleFails closeRc).map Prod.snd

/-- The tables after the setup, when no physical camera is open. -/
def allClosed (m : MuxerCameras) : MuxerCameras :=
  { m with
    phyCamera := fun p => { m.phyCamera p with hwi := none, dev := none }
    opened := []
    nextHwi := 0 }

def Closed (p : Nat) (m : MuxerCameras) : Prop := ∀ hw, (hw, p) ∉ m.opened

/-- An open that returns an error leaves every camera closed that was closed, with no object in its
descriptor. -/
def AllOrNothing (m : MuxerCameras) : MuxerCameraOp → Prop
  | .cameraDeviceOpen cameraId env =>
    (m.cameraDeviceOpen cameraId env).1 ≠ 0 → ∀ p, m.Closed p →
      (m.cameraDeviceOpen cameraId env).2.Closed p ∧
        ((m.cameraDeviceOpen cameraId env).2.phyCamera p).hwi = none ∧
        ((m.cameraDeviceOpen cameraId env).2.phyCamera p).dev = none
  | .closeCameraDevice _ _ _ => True

end MuxerCameras

def HwiEnv.Fails (env : HwiEnv) : Prop := env.alloc = false ∨ env.syncInfo ≠ 0 ∨ env.openRc ≠ 0

instance (env : HwiEnv) : Decidable env.Fails := inferInstanceAs (Decidable (_ ∨ _))

namespace MuxerCameras

/-- The physical cameras in front of the first one that fails. -/
def beforeFailure (env : Nat → HwiEnv) : Nat → List Nat → List Nat
  | _, [] => []
  | i, phyId :: ids => if (env i).Fails then [] else phyId :: beforeFailure env (i + 1) ids

/-- If a physical camera fails, each one in front of the first that fails was open before. -/
def FailsFirst (m : MuxerCameras) : MuxerCameraOp → Prop
  | .cameraDeviceOpen cameraId env =>
    ∀ k cam, m.checkCamera cameraId = .ok (k, cam) → (∃ i < cam.pId.length, (env i).Fails) →
      ∀ p ∈ beforeFailure env 0 cam.pId, ¬ m.Closed p
  | .closeCameraDevice _ _ _ => True

variable {m : MuxerCameras} {p phyId hw : Nat}

/-- Objects are distinct, and a descriptor only names an object that is open for its camera. -/
structure OpenInv (m : MuxerCameras) : Prop where
  fresh : ∀ o ∈ m.opened, o.1 < m.nextHwi
  distinct : ∀ hw p q, (hw, p) ∈ m.opened → (hw, q) ∈ m.opened → p = q
  hwi : ∀ p hw, (m.phyCamera p).hwi = some hw → (hw, p) ∈ m.opened
  dev : ∀ p hw, (m.phyCamera p).dev = some hw → (hw, p) ∈ m.opened

theorem allClosed_inv (m : MuxerCameras) : m.allClosed.OpenInv where
  fresh := by simp [allClosed]
  distinct := by simp [allClosed]
  hwi := by simp [allClosed]
  dev := by simp [allClosed]

theorem OpenInv.none_of_closed (hm : m.OpenInv) (hp : m.Closed p) :
    (m.phyCamera p).hwi = none ∧ (m.phyCamera p).dev = none := by
  constructor
  · cases h : (m.phyCamera p).hwi with
    | none => rfl
    | some hw => exact absurd (hm.hwi p hw h) (hp hw)
  · cases h : (m.phyCamera p).dev with
    | none => rfl
    | some hw => exact absurd (hm.dev p hw h) (hp hw)

theorem deleteHwi_eq (closeRc : Int) (m : MuxerCameras) :
    m.deleteHwi hw closeRc = { m with opened := m.opened.filter fun o => o.1 ≠ hw } := by
  unfold deleteHwi closeCamera
  split
  · rfl
  · next h =>
    have hkeep : m.opened.filter (fun o => o.1 ≠ hw) = m.opened := by
      refine List.filter_eq_self.mpr fun o ho => ?_
      simp only [List.any_eq_true, not_exists, not_and] at h
      simpa using h o ho
    rw [hkeep]

theorem openPhysical_fails (hm : m.OpenInv) {env : HwiEnv} (hfail : env.Fails) (phyId : Nat) :
    (m.openPhysical phyId env).1 ≠ 0 ∧
      ((m.openPhysical phyId env).2 = m ∨
        (m.openPhysical phyId env).2 = { m with nextHwi := m.nextHwi + 1 }) := by
  have hkeep : m.opened.filter (fun o => o.1 ≠ m.nextHwi) = m.opened := by
    refine List.filter_eq_self.mpr fun o ho => ?_
    have hlt := hm.fresh o ho
    simp only [ne_eq, decide_not, Bool.not_eq_eq_eq_not, Bool.not_true, decide_eq_false_iff_not]
    omega
  unfold openPhysical
  split
  · exact ⟨by simp [noMemory], Or.inl rfl⟩
  · next halloc =>
    simp only [deleteHwi_eq, hkeep]
    split
    · next hsync => exact ⟨hsync, Or.inr rfl⟩
    · next hsync =>
      split
      · next hopen => exact ⟨hopen, Or.inr rfl⟩
      · next hopen =>
        rcases hfail with h | h | h
        · exact absurd (by simp [h]) halloc
        · exact absurd h hsync
        · exact absurd h hopen

theorem openPhysical_opens {env : HwiEnv} (hopens : ¬ env.Fails) (phyId : Nat) (m : MuxerCameras) :
    m.openPhysical phyId env =
      (0, { m with opened := (m.nextHwi, phyId) :: m.opened, nextHwi := m.nextHwi + 1 }.setPhysical
        phyId (some m.nextHwi)) := by
  simp only [HwiEnv.Fails, not_or, ne_eq, not_not] at hopens
  grind [openPhysical]

theorem OpenInv.next (hm : m.OpenInv) : OpenInv { m with nextHwi := m.nextHwi + 1 } where
  fresh o ho := Nat.lt_succ_of_lt (hm.fresh o ho)
  distinct := hm.distinct
  hwi := hm.hwi
  dev := hm.dev

theorem setPhysical_self (phyId : Nat) (hwi : Option Nat) (m : MuxerCameras) :
    ((m.setPhysical phyId hwi).phyCamera phyId).hwi = hwi ∧
      ((m.setPhysical phyId hwi).phyCamera phyId).dev = hwi := by
  simp [setPhysical]

theorem setPhysical_other (hne : p ≠ phyId) (hwi : Option Nat) (m : MuxerCameras) :
    (m.setPhysical phyId hwi).phyCamera p = m.phyCamera p := by
  simp [setPhysical, hne]

theorem OpenInv.opens (hm : m.OpenInv) (phyId : Nat) :
    OpenInv ({ m with opened := (m.nextHwi, phyId) :: m.opened, nextHwi := m.nextHwi + 1 }.setPhysical
      phyId (some m.nextHwi)) where
  fresh o ho := by
    rcases List.mem_cons.mp ho with rfl | ho
    · exact Nat.lt_succ_self m.nextHwi
    · exact Nat.lt_succ_of_lt (hm.fresh o ho)
  distinct hw p q hp hq := by
    rcases List.mem_cons.mp hp with hp | hp <;> rcases List.mem_cons.mp hq with hq | hq
    · cases hp
      cases hq
      rfl
    · cases hp
      exact absurd (hm.fresh _ hq) (Nat.lt_irrefl _)
    · cases hq
      exact absurd (hm.fresh _ hp) (Nat.lt_irrefl _)
    · exact hm.distinct hw p q hp hq
  hwi p hw h := by
    by_cases hp : p = phyId
    · subst hp
      rw [(setPhysical_self p _ _).1] at h
      cases h
      exact List.mem_cons_self
    · rw [setPhysical_other hp] at h
      exact List.mem_cons_of_mem _ (hm.hwi p hw h)
  dev p hw h := by
    by_cases hp : p = phyId
    · subst hp
      rw [(setPhysical_self p _ _).2] at h
      cases h
      exact List.mem_cons_self
    · rw [setPhysical_other hp] at h
      exact List.mem_cons_of_mem _ (hm.dev p hw h)

theorem OpenInv.closes (hm : m.OpenInv) (hdev : (m.phyCamera phyId).dev = some hw) (closeRc : Int) :
    OpenInv ((m.deleteHwi hw closeRc).setPhysical phyId none) := by
  have hopen := hm.dev phyId hw hdev
  rw [deleteHwi_eq]
  -- the object that is deleted is no other camera's
  have hstays : ∀ p other, p ≠ phyId → (other, p) ∈ m.opened →
      (other, p) ∈ m.opened.filter fun o => o.1 ≠ hw := by
    intro p other hp hmem
    refine List.mem_filter.mpr ⟨hmem, ?_⟩
    have hne : other ≠ hw := by
      rintro rfl
      exact hp (hm.distinct other p phyId hmem hopen)
    simpa using hne
  constructor
  · intro o ho
    exact hm.fresh o (List.mem_filter.mp ho).1
  · intro other p q hp hq
    exact hm.distinct other p q (List.mem_filter.mp hp).1 (List.mem_filter.mp hq).1
  · intro p other h
    by_cases hp : p = phyId
    · subst hp
      rw [(setPhysical_self p _ _).1] at h
      cases h
    · rw [setPhysical_other hp] at h
      exact hstays p other hp (hm.hwi p other h)
  · intro p other h
    by_cases hp : p = phyId
    · subst hp
      rw [(setPhysical_self p _ _).2] at h
      cases h
    · rw [setPhysical_other hp] at h
      exact hstays p other hp (hm.dev p other h)

theorem closed_opens_iff :
    ({ m with opened := (m.nextHwi, phyId) :: m.opened, nextHwi := m.nextHwi + 1 }.setPhysical
      phyId (some m.nextHwi)).Closed p ↔ m.Closed p ∧ p ≠ phyId := by
  simp only [Closed, setPhysical, List.mem_cons, Prod.mk.injEq, not_or, not_and]
  grind

theorem openAll_spec (env : Nat → HwiEnv) (ids : List Nat) (i : Nat) (hm : m.OpenInv) :
    OpenInv (m.openAll env i ids).2 ∧
      ((m.openAll env i ids).1 ≠ 0 ↔ ∃ j < ids.length, (env (i + j)).Fails) ∧
      (∀ p, (m.openAll env i ids).2.Closed p ↔ m.Closed p ∧ p ∉ beforeFailure env i ids) ∧
      ∀ p, p ∉ beforeFailure env i ids →
        (m.openAll env i ids).2.phyCamera p = m.phyCamera p := by
  induction ids generalizing i m with
  | nil => simpa [openAll, beforeFailure] using hm
  | cons phyId ids ih =>
    by_cases hfail : (env i).Fails
    · obtain ⟨hrc, hstate⟩ := openPhysical_fails hm hfail phyId
      have hall : m.openAll env i (phyId :: ids) = m.openPhysical phyId (env i) := by
        simp only [openAll, if_pos hrc]
      have hsome : ∃ j < (phyId :: ids).length, (env (i + j)).Fails :=
        ⟨0, Nat.succ_pos _, hfail⟩
      simp only [hall, beforeFailure, if_pos hfail, List.not_mem_nil, not_false_eq_true, and_true,
        true_implies]
      refine ⟨?_, iff_of_true hrc hsome, ?_, ?_⟩
      · rcases hstate with h | h <;> rw [h]
        · exact hm
        · exact hm.next
      · rcases hstate with h | h <;> rw [h] <;> exact fun p => Iff.rfl
      · rcases hstate with h | h <;> rw [h] <;> exact fun p => rfl
    · have hone := openPhysical_opens hfail phyId m
      have hall : m.openAll env i (phyId :: ids) =
          (m.openPhysical phyId (env i)).2.openAll env (i + 1) ids := by
        simp only [openAll, hone, ne_eq, not_true, if_false]
      obtain ⟨hinv, hrc, hclosed, hphy⟩ := ih (i + 1) (hm.opens phyId)
      rw [hall, hone]
      simp only [beforeFailure, if_neg hfail, List.mem_cons, not_or]
      refine ⟨hinv, hrc.trans ?_, fun p => (hclosed p).trans ?_, fun p hp => ?_⟩
      · constructor
        · rintro ⟨j, hj, hf⟩
          exact ⟨j + 1, Nat.succ_lt_succ hj, by rwa [Nat.add_right_comm] at hf⟩
        · rintro ⟨_ | j, hj, hf⟩
          · exact absurd hf hfail
          grind
      · rw [closed_opens_iff, and_assoc]
      · rw [hphy p hp.2, setPhysical_other hp.1]

theorem checkCamera_error {cameraId rc : Int} (h : m.checkCamera cameraId = .error rc)
    (env : Nat → HwiEnv) : m.cameraDeviceOpen cameraId env = (rc, m) := by
  simp only [cameraDeviceOpen, h]

theorem checkCamera_ok {cameraId : Int} {k : Nat} {cam : LogicalCamera}
    (h : m.checkCamera cameraId = .ok (k, cam)) (env : Nat → HwiEnv) :
    (m.cameraDeviceOpen cameraId env).1 = (m.openAll env 0 cam.pId).1 ∧
      (m.cameraDeviceOpen cameraId env).2.phyCamera = (m.openAll env 0 cam.pId).2.phyCamera ∧
      (m.cameraDeviceOpen cameraId env).2.opened = (m.openAll env 0 cam.pId).2.opened ∧
      (m.cameraDeviceOpen cameraId env).2.nextHwi = (m.openAll env 0 cam.pId).2.nextHwi := by
  simp only [cameraDeviceOpen, h]
  split <;> exact ⟨rfl, rfl, rfl, rfl⟩

variable {t : MuxerCameras}

theorem OpenInv.congr (hm : m.OpenInv) (hphy : t.phyCamera = m.phyCamera)
    (hopened : t.opened = m.opened) (hnext : t.nextHwi = m.nextHwi) : t.OpenInv := by
  obtain ⟨hfresh, hdistinct, hhwi, hdev⟩ := hm
  constructor
  · rwa [hopened, hnext]
  · rwa [hopened]
  · rwa [hopened, hphy]
  · rwa [hopened, hphy]

theorem OpenInv.closeAll (closeRc : Nat → Int) (ids : List Nat) (i : Nat) (hm : m.OpenInv)
    (h : closeAll closeRc i ids m = some t) : t.OpenInv := by
  induction ids generalizing i m with
  | nil =>
    cases h
    exact hm
  | cons phyId ids ih =>
    cases hdev : (m.phyCamera phyId).dev with
    | none => simp [MuxerCameras.closeAll, hdev] at h
    | some hw =>
      simp only [MuxerCameras.closeAll, hdev] at h
      exact ih (i + 1) (hm.closes hdev (closeRc i)) h

theorem OpenInv.cameraStep (hm : m.OpenInv) {op : MuxerCameraOp}
    (h : m.cameraStep op = some t) : t.OpenInv := by
  cases op with
  | cameraDeviceOpen cameraId env =>
    cases h
    cases hcheck : m.checkCamera cameraId with
    | error rc => rwa [checkCamera_error hcheck]
    | ok found =>
      obtain ⟨-, hphy, hopened, hnext⟩ := checkCamera_ok hcheck env
      exact (openAll_spec env found.2.pId 0 hm).1.congr hphy hopened hnext
  | closeCameraDevice hwDev bundleFails closeRc =>
    obtain ⟨⟨rc, t'⟩, hclose, rfl⟩ := Option.map_eq_some_iff.mp h
    unfold closeCameraDevice at hclose
    split at hclose
    · cases hclose
      exact hm
    · split at hclose
      · cases hclose
        exact hm
      · obtain ⟨u, hu, heq⟩ := Option.map_eq_some_iff.mp hclose
        cases heq
        have hset : ∀ k cam, (m.setLogical k cam).OpenInv := fun _ _ => hm.congr rfl rfl rfl
        exact OpenInv.closeAll closeRc _ 0 (hset _ _) hu

theorem OpenInv.allOrNothing_iff (hm : m.OpenInv) (op : MuxerCameraOp) :
    m.AllOrNothing op ↔ m.FailsFirst op := by
  cases op with
  | closeCameraDevice hwDev bundleFails closeRc => exact Iff.rfl
  | cameraDeviceOpen cameraId env =>
    simp only [AllOrNothing, FailsFirst]
    cases hcheck : m.checkCamera cameraId with
    | error rc =>
      rw [checkCamera_error hcheck]
      exact iff_of_true (fun _ p hp => ⟨hp, hm.none_of_closed hp⟩) fun k cam h => nomatch h
    | ok found =>
      obtain ⟨k, cam⟩ := found
      obtain ⟨hrc, hphy, hopened, -⟩ := checkCamera_ok hcheck env
      obtain ⟨-, hfails, hclosed, hsame⟩ := openAll_spec env cam.pId 0 hm
      have hclosed' : ∀ p, (m.cameraDeviceOpen cameraId env).2.Closed p ↔
          m.Closed p ∧ p ∉ beforeFailure env 0 cam.pId := by
        intro p
        rw [← hclosed p]
        unfold Closed
        rw [hopened]
      rw [hrc, hfails]
      simp only [Nat.zero_add]
      constructor
      · grind
      · intro h hsome p hp
        have hnot : p ∉ beforeFailure env 0 cam.pId := fun hmem => h k cam rfl hsome p hmem hp
        rw [hphy, hsame p hnot]
        exact ⟨(hclosed' p).mpr ⟨hp, hnot⟩, hm.none_of_closed hp⟩

/-- In a run from closed cameras, every failed open undoes all it did exactly if it only ever fails
where nothing is open that was closed. -/
theorem opens_allOrNothing_iff (m : MuxerCameras) (ops : List MuxerCameraOp) :
    OpsMeet cameraStep AllOrNothing m.allClosed ops ↔
      OpsMeet cameraStep FailsFirst m.allClosed ops :=
  opsMeet_iff_of_keeps (fun _ _ _ hs _ _ hstep => hs.cameraStep hstep)
    (fun _ op hs _ => hs.allOrNothing_iff op) (allClosed_inv m) (opsMeet_true m.allClosed ops)

/-- A main and an auxiliary camera with one facing. -/
def mainAndAux : MuxerCameras where
  nLogicalCameras := 1
  logicalCamera := some [{ deviceVersion := cameraDeviceApiVersion1, pId := [0, 1] }]
  phyCamera p := { isMain := p = 0, mode := if p = 0 then .primary else .secondary }

/-- The auxiliary camera does not open, and the main one stays open. -/
theorem aux_failure_leaks_main :
    ¬ OpsMeet cameraStep AllOrNothing mainAndAux.allClosed
      [.cameraDeviceOpen 0 fun i => { openRc := if i = 1 then -1 else 0 }] := by
  rintro ⟨h, -⟩
  have hmain := (h (by decide) 0 (fun hw => by simp [allClosed])).1
  exact hmain 0 (by decide)

end MuxerCameras

end DeviceHal.Camera
