import DeviceHal.Lib.Run
import Mathlib.Logic.Function.Basic

namespace DeviceHal.Camera

open Lib

/-- A camera object, as far as opens and closes read it. -/
structure CamObj where
  myHdl : UInt32
  refCount : Int
deriving DecidableEq

/-- The cameras that were found. The table has room for all of them. -/
structure CamModules where
  numCam : Nat
  maxNumSensors : Nat
  fits : numCam ≤ maxNumSensors

/-- `g_cam_ctrl` with the objects at their addresses. An object in `opening` belongs to an open that is
in `mm_camera_open`, between its two locked sections. `held` are the handles of the successful opens
that were not closed yet. -/
structure CamCtrl where
  historyCount : UInt16
  camObj : UInt8 → Option Nat := fun _ => none
  objs : Nat → Option CamObj := fun _ => none
  opening : Nat → Option UInt8 := fun _ => none
  fresh : Nat := 0
  held : List UInt32 := []

/-- The locked sections of `camera_open` and `mm_camera_intf_close`. -/
inductive CamSection where
  | openFirst (cameraIdx : UInt8) (malloc : Bool)
  | openSecond (obj : Nat) (opened : Bool)
  | close (cameraHandle : UInt32)
deriving DecidableEq

def getIndexByHandler (handler : UInt32) : UInt8 := (handler &&& 0xff).toUInt8

/-- `mm_camera_util_generate_handler`: the count, which is never 0, and the handle. -/
def generateHandler (historyCount : UInt16) (index : UInt8) : UInt16 × UInt32 :=
  let count := if historyCount + 1 = 0 then historyCount + 2 else historyCount + 1
  (count, count.toUInt32 <<< 8 ||| index.toUInt32)

namespace CamCtrl

variable {m : CamModules} {s t : CamCtrl}

/-- `mm_camera_util_get_camera_by_handler`: the address and the object there. -/
def getCameraByHandler (m : CamModules) (s : CamCtrl) (camHandle : UInt32) : Option (Nat × CamObj) :=
  if (getIndexByHandler camHandle).toNat < m.maxNumSensors then do
    let a ← s.camObj (getIndexByHandler camHandle)
    let o ← s.objs a
    if camHandle = o.myHdl then some (a, o) else none
  else none

/-- The part of `camera_open` up to the device open. A caller that finds an object has its handle. -/
def openFirst (m : CamModules) (s : CamCtrl) (idx : UInt8) (malloc : Bool) : CamCtrl :=
  if idx.toNat ≥ m.numCam then s
  else
    match s.camObj idx with
    | some a =>
      match s.objs a with
      | some o =>
        { s with
          objs := Function.update s.objs a (some { o with refCount := o.refCount + 1 })
          held := s.held ++ [o.myHdl] }
      | none => s
    | none =>
      if malloc then
        let (historyCount, hdl) := generateHandler s.historyCount idx
        { s with
          historyCount := historyCount
          objs := Function.update s.objs s.fresh (some ⟨hdl, 1⟩)
          opening := Function.update s.opening s.fresh (some idx)
          fresh := s.fresh + 1 }
      else s

def openSecond (s : CamCtrl) (a : Nat) (opened : Bool) : CamCtrl :=
  match s.opening a, s.objs a with
  | some idx, some o =>
    if opened then
      { s with
        camObj := Function.update s.camObj idx (some a)
        opening := Function.update s.opening a none
        held := s.held ++ [o.myHdl] }
    else
      { s with
        camObj := Function.update s.camObj idx none
        objs := Function.update s.objs a none
        opening := Function.update s.opening a none }
  | _, _ => s

/-- `mm_camera_intf_close`, with what its caller holds after it. -/
def close (m : CamModules) (s : CamCtrl) (cameraHandle : UInt32) : CamCtrl :=
  match s.getCameraByHandler m cameraHandle with
  | some (a, o) =>
    if o.refCount - 1 > 0 then
      { s with
        objs := Function.update s.objs a (some { o with refCount := o.refCount - 1 })
        held := s.held.erase cameraHandle }
    else
      { s with
        camObj := Function.update s.camObj (getIndexByHandler cameraHandle) none
        objs := Function.update s.objs a none
        held := s.held.erase cameraHandle }
  | none => { s with held := s.held.erase cameraHandle }

def step (m : CamModules) (s : CamCtrl) : CamSection → Option CamCtrl
  | .openFirst idx malloc => some (s.openFirst m idx malloc)
  | .openSecond a opened => some (s.openSecond a opened)
  | .close hdl => some (s.close m hdl)

/-- A caller goes on with its own open, and closes what it opened. -/
def Admits (s : CamCtrl) : CamSection → Prop
  | .openFirst _ _ => True
  | .openSecond a _ => (s.opening a).isSome
  | .close hdl => hdl ∈ s.held

instance (s : CamCtrl) : ∀ op, Decidable (s.Admits op)
  | .openFirst _ _ => isTrue trivial
  | .openSecond a _ => inferInstanceAs (Decidable ((s.opening a).isSome = true))
  | .close hdl => inferInstanceAs (Decidable (hdl ∈ s.held))

/-- Handles find their objects, and objects are there as long as they are opened or held. -/
structure OpensRight (m : CamModules) (s : CamCtrl) : Prop where
  found : ∀ hdl ∈ s.held, (s.getCameraByHandler m hdl).isSome
  oneObject : ∀ a b o p, s.objs a = some o → s.objs b = some p →
    getIndexByHandler o.myHdl = getIndexByHandler p.myHdl → a = b
  counted : ∀ a o, s.objs a = some o → s.opening a = none → o.refCount = s.held.count o.myHdl
  destroyed : ∀ a o, s.objs a = some o → s.opening a = none → 0 < s.held.count o.myHdl

/-- No object is made while another open of the camera is between its sections. -/
def Alone (m : CamModules) (s : CamCtrl) : CamSection → Prop
  | .openFirst idx malloc =>
    idx.toNat < m.numCam → s.camObj idx = none → malloc = true → ∀ a, s.opening a ≠ some idx
  | _ => True

theorem index_generateHandler (historyCount : UInt16) (index : UInt8) :
    getIndexByHandler (generateHandler historyCount index).2 = index := by
  unfold getIndexByHandler generateHandler
  generalize (if historyCount + 1 = 0 then historyCount + 2 else historyCount + 1) = count
  apply UInt8.eq_of_toBitVec_eq
  ext i hi
  have hmask : (255#8)[i] = true := by
    rw [show 255#8 = BitVec.allOnes 8 from rfl, BitVec.getElem_allOnes]
  simp [hmask]

/-- The objects are the ones that are being opened and the ones in the table, one for each index. -/
structure Inv (m : CamModules) (s : CamCtrl) : Prop where
  fresh : ∀ a, s.fresh ≤ a → s.objs a = none ∧ s.opening a = none
  kept : ∀ a o, s.objs a = some o → s.opening a = some (getIndexByHandler o.myHdl) ∨
    s.opening a = none ∧ s.camObj (getIndexByHandler o.myHdl) = some a ∧ o.refCount = s.held.count o.myHdl
  opens : ∀ a i, s.opening a = some i → i.toNat < m.numCam ∧ s.camObj i = none ∧
    (∃ o, s.objs a = some o ∧ getIndexByHandler o.myHdl = i ∧ o.refCount = 1) ∧ ∀ b, s.opening b = some i → b = a
  table : ∀ i a, s.camObj i = some a → i.toNat < m.numCam ∧ s.opening a = none ∧
    ∃ o, s.objs a = some o ∧ getIndexByHandler o.myHdl = i ∧ 0 < s.held.count o.myHdl
  held : ∀ hdl ∈ s.held, ∃ a o, s.camObj (getIndexByHandler hdl) = some a ∧ s.objs a = some o ∧ o.myHdl = hdl

theorem Inv.opensRight (h : s.Inv m) : s.OpensRight m := by
  refine ⟨fun hdl hmem => ?_, fun a b o p ha hb he => ?_, fun a o ha hno => ?_, fun a o ha hno => ?_⟩
  · obtain ⟨a, o, hslot, ho, rfl⟩ := h.held hdl hmem
    have hlt := Nat.lt_of_lt_of_le (h.table _ a hslot).1 m.fits
    simp [getCameraByHandler, hlt, hslot, ho]
  · rcases h.kept a o ha with hopening | ⟨-, hslot, -⟩ <;> rcases h.kept b p hb with hopening' | ⟨-, hslot', -⟩
    · exact (h.opens b _ hopening').2.2.2 a (he ▸ hopening)
    · exact absurd (h.opens a _ hopening).2.1 (by rw [he, hslot']; exact Option.some_ne_none b)
    · exact absurd (h.opens b _ hopening').2.1 (by rw [← he, hslot]; exact Option.some_ne_none a)
    · exact Option.some.inj (hslot.symm.trans (he ▸ hslot'))
  · rcases h.kept a o ha with hopening | ⟨-, -, hcount⟩
    · exact absurd (hno.symm.trans hopening) (Option.some_ne_none _).symm
    · exact hcount
  · rcases h.kept a o ha with hopening | ⟨-, hslot, -⟩
    · exact absurd (hno.symm.trans hopening) (Option.some_ne_none _).symm
    · obtain ⟨-, -, o', ho', -, hpos⟩ := h.table _ a hslot
      exact Option.some.inj (ha.symm.trans ho') ▸ hpos

theorem Inv.openFirst (h : s.Inv m) {idx : UInt8} {malloc : Bool} (hgood : Alone m s (.openFirst idx malloc)) :
    (s.openFirst m idx malloc).Inv m := by
  unfold CamCtrl.openFirst
  split
  next => exact h
  next hlt =>
    split
    next a hslot =>
      obtain ⟨-, hno, o, ho, hidx, hcount⟩ := h.table idx a hslot
      rw [ho]
      dsimp only
      constructor
      case fresh => grind [h.fresh]
      case kept => grind [h.kept, List.count_singleton]
      case opens =>
        intro b i hb
        obtain ⟨hi, hclosed, ⟨p, hp, hpi, hpr⟩, halone⟩ := h.opens b i hb
        exact ⟨hi, hclosed, ⟨p, by grind, hpi, hpr⟩, halone⟩
      case table =>
        intro i b hb
        obtain ⟨hi, hopened, p, hp, hpi, hpos⟩ := h.table i b hb
        grind
      case held => grind [h.held]
    next hslot =>
      split
      next hm =>
        have hindex := index_generateHandler s.historyCount idx
        generalize generateHandler s.historyCount idx = g at hindex
        obtain ⟨count, hdl⟩ := g
        dsimp only at hindex ⊢
        have hfree := hgood (by omega) hslot hm
        have hnot : hdl ∉ s.held := by
          intro hmem
          obtain ⟨a, o, hs, -⟩ := h.held hdl hmem
          rw [hindex, hslot] at hs
          cases hs
        constructor
        case fresh => grind [h.fresh]
        case kept => grind [h.kept, h.fresh]
        case opens =>
          intro b i hb
          dsimp only at hb
          rcases eq_or_ne b s.fresh with hfresh | hne
          · rw [hfresh, Function.update_self] at hb
            cases hb
            refine ⟨by omega, hslot, ⟨⟨hdl, 1⟩, by grind, hindex, rfl⟩, fun c hc => ?_⟩
            grind
          · rw [Function.update_of_ne hne] at hb
            obtain ⟨hi, hclosed, ⟨p, hp, hpi, hpr⟩, halone⟩ := h.opens b i hb
            grind
        case table =>
          intro i b hb
          obtain ⟨hi, hopened, p, hp, hpi, hpos⟩ := h.table i b hb
          grind [h.fresh]
        case held => grind [h.held, h.fresh]
      next => exact h

theorem Inv.openSecond (h : s.Inv m) (a : Nat) (opened : Bool) : (s.openSecond a opened).Inv m := by
  unfold CamCtrl.openSecond
  split
  next idx o hopening ho =>
    obtain ⟨hlt, hslot, ⟨o', ho', hidx, hone⟩, halone⟩ := h.opens a idx hopening
    cases Option.some.inj (ho.symm.trans ho')
    have hnot : o.myHdl ∉ s.held := by
      intro hmem
      obtain ⟨b, p, hs, -⟩ := h.held _ hmem
      rw [hidx, hslot] at hs
      cases hs
    have hzero : s.held.count o.myHdl = 0 := List.count_eq_zero.mpr hnot
    split
    next =>
      constructor
      case fresh => grind [h.fresh]
      case kept => grind [h.kept, List.count_singleton]
      case opens =>
        intro b i hb
        obtain ⟨hi, hclosed, ⟨p, hp, hpi, hpr⟩, hb1⟩ := h.opens b i (by grind)
        grind
      case table =>
        intro i b hb
        rcases eq_or_ne i idx with rfl | hne
        · grind
        · obtain ⟨hi, hopened, p, hp, hpi, hpos⟩ := h.table i b (by grind)
          grind
      case held => grind [h.held]
    next =>
      constructor
      case fresh => grind [h.fresh]
      case kept => grind [h.kept]
      case opens =>
        intro b i hb
        obtain ⟨hi, hclosed, ⟨p, hp, hpi, hpr⟩, hb1⟩ := h.opens b i (by grind)
        grind
      case table =>
        intro i b hb
        obtain ⟨hi, hopened, p, hp, hpi, hpos⟩ := h.table i b (by grind)
        grind
      case held => grind [h.held]
  next => exact h

theorem Inv.close (h : s.Inv m) {hdl : UInt32} (hheld : hdl ∈ s.held) : (s.close m hdl).Inv m := by
  obtain ⟨a, o, hslot, ho, rfl⟩ := h.held hdl hheld
  have hlt := Nat.lt_of_lt_of_le (h.table _ a hslot).1 m.fits
  have hfound : s.getCameraByHandler m o.myHdl = some (a, o) := by
    simp [getCameraByHandler, hlt, hslot, ho]
  unfold CamCtrl.close
  rw [hfound]
  dsimp only
  obtain ⟨hi, hopened, p, hp, -, hpos⟩ := h.table _ a hslot
  obtain ⟨-, -, hcount⟩ := (h.kept a o ho).resolve_left (by rw [hopened]; exact (Option.some_ne_none _).symm)
  split
  next hmore =>
    have hold : a < s.fresh := Nat.lt_of_not_le fun hle => by rw [(h.fresh a hle).1] at ho; cases ho
    constructor
    case fresh =>
      intro b hb
      have hne : b ≠ a := by rintro rfl; exact absurd hb (Nat.not_le.mpr hold)
      exact ⟨(Function.update_of_ne hne _ _).trans (h.fresh b hb).1, (h.fresh b hb).2⟩
    case kept =>
      intro b q hb
      dsimp only at hb ⊢
      rcases eq_or_ne b a with rfl | hne
      · grind
      · rw [Function.update_of_ne hne] at hb
        grind [h.kept b q hb]
    case opens =>
      intro b i hb
      obtain ⟨hi, hclosed, ⟨p, hp, hpi, hpr⟩, hb1⟩ := h.opens b i hb
      have hne : b ≠ a := by rintro rfl; exact absurd (hb.symm.trans hopened) (Option.some_ne_none i)
      exact ⟨hi, hclosed, ⟨p, (Function.update_of_ne hne _ _).trans hp, hpi, hpr⟩, hb1⟩
    case table =>
      intro i b hb
      obtain ⟨hi, hopened, p, hp, hpi, hpos⟩ := h.table i b hb
      rcases eq_or_ne b a with rfl | hne
      · grind
      · refine ⟨hi, hopened, p, ?_, hpi, ?_⟩
        · exact (Function.update_of_ne hne _ _).trans hp
        · rw [List.count_erase_of_ne]
          · exact hpos
          · grind
    case held =>
      intro hdl hmem
      obtain ⟨b, q, hs, hq, rfl⟩ := h.held hdl (List.mem_of_mem_erase hmem)
      rcases eq_or_ne b a with rfl | hne
      · cases Option.some.inj (ho.symm.trans hq)
        exact ⟨b, _, hs, Function.update_self .., rfl⟩
      · exact ⟨b, q, hs, (Function.update_of_ne hne _ _).trans hq, rfl⟩
  next hlast =>
    constructor
    case fresh => grind [h.fresh]
    case kept => grind [h.kept]
    case opens =>
      intro b i hb
      obtain ⟨hi, hclosed, ⟨p, hp, hpi, hpr⟩, hb1⟩ := h.opens b i hb
      grind
    case table =>
      intro i b hb
      obtain ⟨hi, hopened, p, hp, hpi, hpos⟩ := h.table i b (by grind)
      grind
    case held =>
      intro hdl hmem
      have hne : hdl ≠ o.myHdl := by
        rintro rfl
        have hcount' := List.count_pos_iff.mpr hmem
        rw [List.count_erase_self] at hcount'
        omega
      grind [h.held hdl (List.mem_of_mem_erase hmem)]

theorem inv_idle (m : CamModules) (historyCount : UInt16) :
    Inv m { historyCount := historyCount } :=
  ⟨fun _ _ => ⟨rfl, rfl⟩, nofun, nofun, nofun, nofun⟩

theorem Inv.step (h : s.Inv m) {op : CamSection} (hadmits : s.Admits op) (hgood : s.Alone m op) :
    ∃ t, s.step m op = some t ∧ t.Inv m := by
  cases op with
  | openFirst idx malloc => exact ⟨_, rfl, h.openFirst hgood⟩
  | openSecond a opened => exact ⟨_, rfl, h.openSecond a opened⟩
  | close hdl => exact ⟨_, rfl, h.close hadmits⟩

theorem Inv.breaks (h : s.Inv m) {op : CamSection} (hbad : ¬s.Alone m op) :
    ∃ t, s.step m op = some t ∧ ¬t.OpensRight m := by
  cases op with
  | openSecond a opened => exact absurd trivial hbad
  | close hdl => exact absurd trivial hbad
  | openFirst idx malloc =>
    refine ⟨_, rfl, fun hright => ?_⟩
    simp only [Alone, Classical.not_imp, not_forall, not_not] at hbad
    obtain ⟨hlt, hslot, hm, a, hopening⟩ := hbad
    obtain ⟨-, -, ⟨o, ho, hidx, -⟩, -⟩ := h.opens a idx hopening
    have hindex := index_generateHandler s.historyCount idx
    have hne : a ≠ s.fresh := by
      rintro rfl
      exact absurd ((h.fresh _ (Nat.le_refl _)).1.symm.trans ho) (Option.some_ne_none o).symm
    have hmade : s.openFirst m idx malloc =
        { s with
          historyCount := (generateHandler s.historyCount idx).1
          objs := Function.update s.objs s.fresh (some ⟨(generateHandler s.historyCount idx).2, 1⟩)
          opening := Function.update s.opening s.fresh (some idx)
          fresh := s.fresh + 1 } := by
      unfold CamCtrl.openFirst
      rw [if_neg (Nat.not_le.mpr hlt), hslot, if_pos hm]
    rw [hmade] at hright
    exact hne (hright.oneObject a s.fresh o _ ((Function.update_of_ne hne _ _).trans ho)
      (Function.update_self ..) (hidx.trans hindex.symm))

/-- Opens and closes go right exactly if no camera is opened anew while an open of it is under way. -/
theorem always_opensRight_iff (m : CamModules) (historyCount : UInt16) (ops : List CamSection)
    (h : OpsMeet (step m) Admits { historyCount := historyCount } ops) :
    Always (step m) (OpensRight m) { historyCount := historyCount } ops ↔
      OpsMeet (step m) (Alone m) { historyCount := historyCount } ops :=
  always_iff (fun _ => Inv.opensRight) (fun _ _ hi hok hgood => hi.step hok hgood)
    (fun _ _ hi _ hbad => hi.breaks hbad) (inv_idle m historyCount) h

def rearAndFront : CamModules := ⟨2, 5, by decide⟩

theorem always_opensRight_shared :
    Always (step rearAndFront) (OpensRight rearAndFront) { historyCount := 0 }
      [.openFirst 0 true, .openSecond 0 true, .openFirst 0 true, .close 256, .close 256] ↔
    OpsMeet (step rearAndFront) (Alone rearAndFront) { historyCount := 0 }
      [.openFirst 0 true, .openSecond 0 true, .openFirst 0 true, .close 256, .close 256] :=
  always_opensRight_iff rearAndFront 0 _ (by decide)

/-- The failed open of one caller empties the place of the camera that another one has opened. -/
theorem failed_open_loses_camera : ¬∀ (m : CamModules) (historyCount : UInt16) (ops : List CamSection),
    OpsMeet (step m) Admits { historyCount := historyCount } ops →
    Always (step m) (OpensRight m) { historyCount := historyCount } ops := by
  intro h
  have always := h rearAndFront 0
    [.openFirst 0 true, .openFirst 0 true, .openSecond 0 true, .openSecond 1 false] (by decide)
  exact absurd ((always.last rfl).found 256 (by decide)) (by decide)

end CamCtrl

end DeviceHal.Camera
