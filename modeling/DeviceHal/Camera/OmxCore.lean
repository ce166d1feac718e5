import DeviceHal.Lib.Run
import Mathlib.Data.List.Nodup

namespace DeviceHal.Camera

open Lib

abbrev omxCompMaxInstances : Nat := 3

/-- A library that was loaded, with the number of the `dlopen` that loaded it. -/
structure OmxLib where
  libName : String
  number : Nat
deriving DecidableEq

/-- The dynamic loader: what is loaded, and what was done so far. -/
structure OmxLoader where
  loaded : List OmxLib := []
  opens : Nat := 0
  closes : List OmxLib := []
  /-- The functions that were called, by their library and whether it was loaded. -/
  calls : List (OmxLib × Bool) := []

namespace OmxLoader

def dlopen (l : OmxLoader) (libName : String) (succeeds : Bool) : Option OmxLib × OmxLoader :=
  if succeeds then
    (some ⟨libName, l.opens⟩,
      { l with loaded := ⟨libName, l.opens⟩ :: l.loaded, opens := l.opens + 1 })
  else (none, l)

def dlclose (l : OmxLoader) : Option OmxLib → OmxLoader
  | some lib => { l with loaded := l.loaded.filter (· ≠ lib), closes := lib :: l.closes }
  | none => l

/-- Calls a function of a library. `none` is the call of a null pointer. -/
def call (l : OmxLoader) (function : Option OmxLib) : Option OmxLoader :=
  function.map fun lib => { l with calls := (lib, lib ∈ l.loaded) :: l.calls }

end OmxLoader

/-- A function pointer is the library it was resolved from. -/
structure OmxCoreComponent where
  compName : String
  libName : String
  handle : List (Option Nat) := List.replicate omxCompMaxInstances none
  isOpen : Bool := false
  libHandle : Option OmxLib := none
  getInstance : Option OmxLib := none
  createCompFunc : Option OmxLib := none
deriving DecidableEq

inductive OmxErrorType where
  | none
  | badParameter
  | invalidComponent
deriving DecidableEq

/-- What the system and the library answer during one `OMX_GetHandle`. -/
structure OmxAnswers where
  dlopen : Bool
  createCompFunc : Bool
  getInstance : Bool
  pObj : Bool
  pComp : Option Nat
deriving DecidableEq

namespace OmxCoreComponent

def getFreeInstIdx (c : OmxCoreComponent) : Option Nat := c.handle.findIdx? (· = none)

def isCompActive (c : OmxCoreComponent) : Bool := c.handle.any (· ≠ none)

/-- Loads the library of a component that is not open: whether to go on, whether to close it on an
error, the component and the loader. -/
def load (c : OmxCoreComponent) (l : OmxLoader) (a : OmxAnswers) :
    Bool × Bool × OmxCoreComponent × OmxLoader :=
  if c.isOpen = false then
    match l.dlopen c.libName a.dlopen with
    | (none, l) => (false, false, { c with libHandle := none }, l)
    | (some lib, l) =>
      (a.createCompFunc && a.getInstance, true,
        { c with
          libHandle := some lib
          isOpen := true
          createCompFunc := if a.createCompFunc then some lib else none
          getInstance := if a.getInstance then some lib else none }, l)
  else (true, false, c, l)

/-- Creates the object and the component: the handle, `none` on an error. -/
def create (c : OmxCoreComponent) (l : OmxLoader) (a : OmxAnswers) :
    Option (Option Nat × OmxLoader) := do
  let l ← l.call c.getInstance
  if a.pObj = false then some (none, l)
  else
    let l ← l.call c.createCompFunc
    some (a.pComp, l)

def error (c : OmxCoreComponent) (l : OmxLoader) (closeHandle : Bool) :
    OmxErrorType × OmxCoreComponent × OmxLoader :=
  if closeHandle then (.invalidComponent, { c with libHandle := none }, l.dlclose c.libHandle)
  else (.invalidComponent, c, l)

/-- `OMX_GetHandle` for the component that was found. -/
def newHandle (c : OmxCoreComponent) (l : OmxLoader) (a : OmxAnswers) :
    Option (OmxErrorType × OmxCoreComponent × OmxLoader) :=
  match c.getFreeInstIdx with
  | none => some (c.error l false)
  | some instIdx =>
    let (goOn, closeHandle, c, l) := c.load l a
    if goOn = false then some (c.error l closeHandle)
    else
      (c.create l a).map fun (pComp, l) =>
        match pComp with
        | some p => (.none, { c with handle := c.handle.set instIdx (some p) }, l)
        | none => c.error l closeHandle

/-- `OMX_FreeHandle` for the instance that was found. -/
def dropHandle (c : OmxCoreComponent) (l : OmxLoader) (instIdx : Nat) :
    OmxCoreComponent × OmxLoader :=
  let c := { c with handle := c.handle.set instIdx none }
  if c.isCompActive = false then
    ({ c with libHandle := none, getInstance := none, createCompFunc := none, isOpen := false },
      l.dlclose c.libHandle)
  else (c, l)

end OmxCoreComponent

/-- The components of `g_omxcore`, and the loader. -/
structure OmxCore where
  component : List OmxCoreComponent
  loader : OmxLoader

namespace OmxCore

/-- What `OMX_Init` makes. -/
def init : OmxCore where
  component :=
    [ { compName := "OMX.qcom.image.jpeg.encoder", libName := "libqomx_jpegenc.so" },
      { compName := "OMX.qcom.image.jpeg.decoder", libName := "libqomx_jpegdec.so" },
      { compName := "OMX.qcom.image.jpeg.encoder_pipeline", libName := "libqomx_jpegenc_pipe.so" } ]
  loader := {}

def getCompFromList (s : OmxCore) (componentName : Option String) : Option Nat := do
  let compName ← componentName
  s.component.findIdx? (·.compName = compName)

def omxGetHandle (s : OmxCore) (handleIsNull : Bool) (componentName : Option String)
    (a : OmxAnswers) : Option (OmxErrorType × OmxCore) :=
  if handleIsNull then some (.badParameter, s)
  else
    match s.getCompFromList componentName with
    | none => some (.invalidComponent, s)
    | some compIdx => do
      let c ← s.component[compIdx]?
      let (rc, c, loader) ← c.newHandle s.loader a
      some (rc, { component := s.component.set compIdx c, loader := loader })

/-- The first component and instance with the handle. -/
def getIdxFromHandle (s : OmxCore) (hComp : Nat) : Option (Nat × Nat) := do
  let compIdx ← s.component.findIdx? fun c => c.handle.any (· = some hComp)
  let c ← s.component[compIdx]?
  let instIdx ← c.handle.findIdx? (· = some hComp)
  some (compIdx, instIdx)

/-- `deInit` is whether `ComponentDeInit` succeeds. -/
def omxFreeHandle (s : OmxCore) (hComp : Option Nat) (deInit : Bool) : OmxErrorType × OmxCore :=
  match hComp with
  | none => (.badParameter, s)
  | some hComp =>
    match s.getIdxFromHandle hComp with
    | none => (.invalidComponent, s)
    | some (compIdx, instIdx) =>
      if deInit = false then (.invalidComponent, s)
      else
        match s.component[compIdx]? with
        | none => (.invalidComponent, s)
        | some c =>
          let dropped := c.dropHandle s.loader instIdx
          (.none, { component := s.component.set compIdx dropped.1, loader := dropped.2 })

end OmxCore

inductive OmxOp where
  | getHandle (handleIsNull : Bool) (componentName : Option String) (a : OmxAnswers)
  | freeHandle (hComp : Option Nat) (deInit : Bool)
deriving DecidableEq

/-- The core, and the components before and after each `OMX_GetHandle` that failed. -/
structure OmxRun where
  core : OmxCore
  failures : List (List OmxCoreComponent × List OmxCoreComponent)

namespace OmxRun

def start : OmxRun := ⟨.init, []⟩

/-- `none` is the call of a null pointer. -/
def step (s : OmxRun) : OmxOp → Option OmxRun
  | .getHandle handleIsNull componentName a =>
    (s.core.omxGetHandle handleIsNull componentName a).map fun r =>
      { core := r.2
        failures :=
          if r.1 = .none then s.failures
          else (s.core.component, r.2.component) :: s.failures }
  | .freeHandle hComp deInit => some { s with core := (s.core.omxFreeHandle hComp deInit).2 }

structure TableRight (s : OmxRun) : Prop where
  opened : ∀ c ∈ s.core.component,
    c.isOpen = true ↔ ∃ lib ∈ s.core.loader.loaded, c.libHandle = some lib
  used : ∀ c ∈ s.core.component,
    (∃ lib ∈ s.core.loader.loaded, lib.libName = c.libName) ↔ ∃ h ∈ c.handle, h ≠ none
  calls : ∀ call ∈ s.core.loader.calls, call.2 = true
  closes : ∀ lib, s.core.loader.closes.count lib ≤ 1
  failures : ∀ f ∈ s.failures, f.1 = f.2

/-- Where the call loads a library, it creates an instance as well. -/
def CreatesLoaded (s : OmxRun) : OmxOp → Prop
  | .getHandle false componentName a => ∀ compIdx, s.core.getCompFromList componentName = some compIdx →
    ∀ c ∈ s.core.component[compIdx]?, c.isOpen = false → a.dlopen = true →
      a.createCompFunc = true ∧ a.getInstance = true ∧ a.pObj = true ∧ a.pComp ≠ none
  | _ => True

/-- The loader's books: each load has its own number, and no library is closed twice. -/
structure LoaderInv (l : OmxLoader) : Prop where
  fresh : ∀ lib ∈ l.loaded, lib.number < l.opens
  closed : ∀ lib ∈ l.closes, lib.number < l.opens ∧ lib ∉ l.loaded
  once : l.closes.Nodup
  calls : ∀ call ∈ l.calls, call.2 = true

/-- The component is not open. -/
structure Shut (loaded : List OmxLib) (c : OmxCoreComponent) : Prop where
  isOpen : c.isOpen = false
  libHandle : c.libHandle = none
  empty : ∀ h ∈ c.handle, h = none
  unloaded : ∀ lib ∈ loaded, lib.libName ≠ c.libName

/-- The component is open, with this library. -/
structure Opened (loaded : List OmxLib) (c : OmxCoreComponent) (lib : OmxLib) : Prop where
  isOpen : c.isOpen = true
  libHandle : c.libHandle = some lib
  getInstance : c.getInstance = some lib
  createCompFunc : c.createCompFunc = some lib
  used : ∃ h ∈ c.handle, h ≠ none
  mem : lib ∈ loaded
  libName : lib.libName = c.libName
  only : ∀ x ∈ loaded, x.libName = c.libName → x = lib

def Consistent (loaded : List OmxLib) (c : OmxCoreComponent) : Prop :=
  Shut loaded c ∨ ∃ lib, Opened loaded c lib

section loader

variable {l : OmxLoader} {lib : OmxLib} {c : OmxCoreComponent} {a : OmxAnswers}
  {loaded loaded' : List OmxLib}

theorem Consistent.frame (h : Consistent loaded c)
    (same : ∀ x, x.libName = c.libName → (x ∈ loaded' ↔ x ∈ loaded)) : Consistent loaded' c := by
  rcases h with h | ⟨lib, h⟩
  · exact Or.inl { h with unloaded := fun x hx heq => h.unloaded x ((same x heq).mp hx) heq }
  · refine Or.inr ⟨lib, { h with mem := (same lib h.libName).mpr h.mem, only := ?_ }⟩
    exact fun x hx heq => h.only x ((same x heq).mp hx) heq

theorem Consistent.opened (h : Consistent loaded c) :
    c.isOpen = true ↔ ∃ lib ∈ loaded, c.libHandle = some lib := by
  rcases h with h | ⟨lib, h⟩
  · simp [h.isOpen, h.libHandle]
  · exact iff_of_true h.isOpen ⟨lib, h.mem, h.libHandle⟩

theorem Consistent.used (h : Consistent loaded c) :
    (∃ lib ∈ loaded, lib.libName = c.libName) ↔ ∃ h ∈ c.handle, h ≠ none := by
  rcases h with h | ⟨lib, h⟩
  · refine iff_of_false ?_ ?_
    · rintro ⟨x, hx, heq⟩
      exact h.unloaded x hx heq
    · rintro ⟨x, hx, hne⟩
      exact hne (h.empty x hx)
  · exact iff_of_true ⟨lib, h.mem, h.libName⟩ h.used

theorem LoaderInv.dlopen (h : LoaderInv l) (libName : String) :
    LoaderInv (l.dlopen libName true).2 := by
  refine ⟨fun x hx => ?_, fun x hx => ?_, h.once, h.calls⟩
  · rcases List.mem_cons.mp hx with rfl | hx
    · exact Nat.lt_succ_self _
    · exact Nat.lt_succ_of_lt (h.fresh x hx)
  · obtain ⟨hlt, hnot⟩ := h.closed x hx
    refine ⟨Nat.lt_succ_of_lt hlt, fun hin => ?_⟩
    rcases List.mem_cons.mp hin with rfl | hin
    · exact Nat.lt_irrefl _ hlt
    · exact hnot hin

theorem LoaderInv.dlclose (h : LoaderInv l) (hmem : lib ∈ l.loaded) :
    LoaderInv (l.dlclose (some lib)) := by
  refine ⟨fun x hx => h.fresh x (List.mem_of_mem_filter hx), fun x hx => ?_, ?_, h.calls⟩
  · rcases List.mem_cons.mp hx with rfl | hx
    · exact ⟨h.fresh x hmem, by simp [OmxLoader.dlclose]⟩
    · exact ⟨(h.closed x hx).1, fun hin => (h.closed x hx).2 (List.mem_of_mem_filter hin)⟩
  · exact List.nodup_cons.mpr ⟨fun hin => (h.closed lib hin).2 hmem, h.once⟩

theorem LoaderInv.call (h : LoaderInv l) (hmem : lib ∈ l.loaded) :
    ∃ l', l.call (some lib) = some l' ∧ LoaderInv l' ∧ l'.loaded = l.loaded := by
  refine ⟨_, rfl, ⟨h.fresh, h.closed, h.once, fun x hx => ?_⟩, rfl⟩
  rcases List.mem_cons.mp hx with rfl | hx
  · simpa using hmem
  · exact h.calls x hx

theorem LoaderInv.create (h : LoaderInv l) (hmem : lib ∈ l.loaded) (hget : c.getInstance = some lib)
    (hcreate : c.createCompFunc = some lib) : ∃ l', c.create l a =
      some (if a.pObj = true then a.pComp else none, l') ∧ LoaderInv l' ∧ l'.loaded = l.loaded := by
  obtain ⟨l₁, hcall, hinv, hsame⟩ := h.call hmem
  unfold OmxCoreComponent.create
  rw [hget, hcall]
  cases hobj : a.pObj with
  | false => exact ⟨l₁, by simp, hinv, hsame⟩
  | true =>
    obtain ⟨l₂, hcall₂, hinv₂, hsame₂⟩ := hinv.call (hsame ▸ hmem)
    grind

end loader

/-- What a call leaves of a component and the loader. -/
structure Kept (c : OmxCoreComponent) (l : OmxLoader) (c' : OmxCoreComponent) (l' : OmxLoader) :
    Prop where
  size : c'.handle.length = c.handle.length
  libName : c'.libName = c.libName
  consistent : Consistent l'.loaded c'
  loader : LoaderInv l'
  frame : ∀ x, x.libName ≠ c.libName → (x ∈ l'.loaded ↔ x ∈ l.loaded)

section component

variable {c : OmxCoreComponent} {l : OmxLoader} {lib : OmxLib} {a : OmxAnswers}

theorem Opened.setHandle (h : Opened l.loaded c lib) {l' : OmxLoader} (hl : l'.loaded = l.loaded)
    {i : Nat} (hi : i < c.handle.length) (p : Nat) :
    Opened l'.loaded { c with handle := c.handle.set i (some p) } lib where
  isOpen := h.isOpen
  libHandle := h.libHandle
  getInstance := h.getInstance
  createCompFunc := h.createCompFunc
  used := ⟨some p, List.mem_set hi _, Option.some_ne_none p⟩
  mem := hl ▸ h.mem
  libName := h.libName
  only := hl ▸ h.only

theorem freeInst_lt {i : Nat} (hi : c.getFreeInstIdx = some i) : i < c.handle.length :=
  (List.findIdx?_eq_some_iff_getElem.mp hi).1

theorem newHandle_opened (h : Opened l.loaded c lib) (hl : LoaderInv l) :
    ∃ rc c' l', c.newHandle l a = some (rc, c', l') ∧ Kept c l c' l' ∧ (rc ≠ .none → c' = c) := by
  have hsame : Kept c l c l := ⟨rfl, rfl, Or.inr ⟨lib, h⟩, hl, fun _ _ => Iff.rfl⟩
  unfold OmxCoreComponent.newHandle
  cases hidx : c.getFreeInstIdx with
  | none => exact ⟨_, _, _, rfl, hsame, fun _ => rfl⟩
  | some i =>
    have hload : c.load l a = (true, false, c, l) := if_neg (by simp [h.isOpen])
    obtain ⟨l', hcreate, hinv, hloaded⟩ := hl.create h.mem (a := a) h.getInstance h.createCompFunc
    simp only [hload, hcreate, Option.map_some, Bool.true_eq_false, if_false]
    have hframe : ∀ x : OmxLib, x.libName ≠ c.libName → (x ∈ l'.loaded ↔ x ∈ l.loaded) :=
      fun x _ => by rw [hloaded]
    split
    next p _ =>
      refine ⟨_, _, _, rfl, ⟨List.length_set, rfl, Or.inr ⟨lib, ?_⟩, hinv, hframe⟩, by simp⟩
      exact h.setHandle hloaded (freeInst_lt hidx) p
    next =>
      exact ⟨_, _, _, rfl, ⟨rfl, rfl, Or.inr ⟨lib, hloaded ▸ h⟩, hinv, hframe⟩, fun _ => rfl⟩

theorem newHandle_unloaded (h : Shut l.loaded c) (hl : LoaderInv l) (hopen : a.dlopen = false) :
    ∃ rc c' l', c.newHandle l a = some (rc, c', l') ∧ Kept c l c' l' ∧ (rc ≠ .none → c' = c) := by
  have hsame : Kept c l c l := ⟨rfl, rfl, Or.inl h, hl, fun _ _ => Iff.rfl⟩
  unfold OmxCoreComponent.newHandle
  cases hidx : c.getFreeInstIdx with
  | none => exact ⟨_, _, _, rfl, hsame, fun _ => rfl⟩
  | some i =>
    have hload : c.load l a = (false, false, c, l) := by
      rw [OmxCoreComponent.load, if_pos h.isOpen, hopen]
      simp only [OmxLoader.dlopen, Bool.false_eq_true, if_false]
      rw [← h.libHandle]
    simp only [hload, if_true]
    exact ⟨_, _, _, rfl, hsame, fun _ => rfl⟩

theorem load_shut (h : Shut l.loaded c) (hopen : a.dlopen = true) :
    c.load l a = (a.createCompFunc && a.getInstance, true,
      { c with
        libHandle := some ⟨c.libName, l.opens⟩
        isOpen := true
        createCompFunc := if a.createCompFunc then some ⟨c.libName, l.opens⟩ else none
        getInstance := if a.getInstance then some ⟨c.libName, l.opens⟩ else none },
      (l.dlopen c.libName true).2) := by
  rw [OmxCoreComponent.load, if_pos h.isOpen, hopen]
  rfl

theorem newHandle_loaded (h : Shut l.loaded c) (hl : LoaderInv l) (hopen : a.dlopen = true)
    (hc : a.createCompFunc = true) (hg : a.getInstance = true) (hobj : a.pObj = true) {p : Nat}
    (hcomp : a.pComp = some p) :
    ∃ rc c' l', c.newHandle l a = some (rc, c', l') ∧ Kept c l c' l' ∧ (rc ≠ .none → c' = c) := by
  unfold OmxCoreComponent.newHandle
  cases hidx : c.getFreeInstIdx with
  | none => exact ⟨_, _, _, rfl, ⟨rfl, rfl, Or.inl h, hl, fun _ _ => Iff.rfl⟩, fun _ => rfl⟩
  | some i =>
    have hmem : ⟨c.libName, l.opens⟩ ∈ (l.dlopen c.libName true).2.loaded := List.mem_cons_self
    have hloaded : ∀ x, x ∈ (l.dlopen c.libName true).2.loaded ↔
        x = ⟨c.libName, l.opens⟩ ∨ x ∈ l.loaded := fun x => List.mem_cons
    have hinv := hl.dlopen c.libName
    simp only [load_shut h hopen, hc, hg, Bool.and_self, Bool.true_eq_false, if_false, if_true]
    generalize (l.dlopen c.libName true).2 = l₁ at hmem hloaded hinv
    obtain ⟨l₂, hcreate, hinv₂, hsame⟩ := hinv.create hmem (a := a)
      (c := { c with
        libHandle := some ⟨c.libName, l.opens⟩
        isOpen := true
        createCompFunc := some ⟨c.libName, l.opens⟩
        getInstance := some ⟨c.libName, l.opens⟩ }) rfl rfl
    rw [hobj, if_pos rfl, hcomp] at hcreate
    simp only [hcreate, Option.map_some]
    have hopened : Opened l₁.loaded { c with
        handle := c.handle.set i (some p)
        libHandle := some ⟨c.libName, l.opens⟩
        isOpen := true
        createCompFunc := some ⟨c.libName, l.opens⟩
        getInstance := some ⟨c.libName, l.opens⟩ } ⟨c.libName, l.opens⟩ := by
      refine ⟨rfl, rfl, rfl, rfl, ⟨some p, List.mem_set (freeInst_lt hidx) _, by simp⟩, hmem, rfl, ?_⟩
      intro x hx heq
      exact ((hloaded x).mp hx).resolve_right fun hin => h.unloaded x hin heq
    refine ⟨_, _, _, rfl, ⟨List.length_set, rfl, Or.inr ⟨_, hsame ▸ hopened⟩, hinv₂, ?_⟩, by simp⟩
    grind

theorem newHandle_stale (h : Shut l.loaded c) (hl : LoaderInv l) (hsize : 0 < c.handle.length)
    (hopen : a.dlopen = true) (hfails : ¬(a.createCompFunc = true ∧ a.getInstance = true ∧
      a.pObj = true ∧ a.pComp ≠ none)) :
    ∃ rc c' l', c.newHandle l a = some (rc, c', l') ∧ c'.isOpen = true ∧ c'.libHandle = none := by
  obtain ⟨i, hidx⟩ : ∃ i, c.getFreeInstIdx = some i := by
    refine Option.isSome_iff_exists.mp ?_
    have hsome : ∃ x ∈ c.handle, x = none :=
      ⟨c.handle[0], List.getElem_mem hsize, h.empty _ (List.getElem_mem hsize)⟩
    simpa [OmxCoreComponent.getFreeInstIdx, List.findIdx?_isSome] using hsome
  unfold OmxCoreComponent.newHandle
  simp only [hidx, load_shut h hopen]
  by_cases hsyms : a.createCompFunc = true ∧ a.getInstance = true
  · have hmem : ⟨c.libName, l.opens⟩ ∈ (l.dlopen c.libName true).2.loaded := List.mem_cons_self
    obtain ⟨l₂, hcreate, -, -⟩ := (hl.dlopen c.libName).create hmem (a := a)
      (c := { c with
        libHandle := some ⟨c.libName, l.opens⟩
        isOpen := true
        createCompFunc := some ⟨c.libName, l.opens⟩
        getInstance := some ⟨c.libName, l.opens⟩ }) rfl rfl
    have hnone : (if a.pObj = true then a.pComp else none) = none := by
      split
      next hobj => grind
      next => rfl
    rw [hnone] at hcreate
    simp only [hsyms.1, hsyms.2, Bool.and_self, Bool.true_eq_false, if_false, if_true, hcreate,
      Option.map_some]
    exact ⟨_, _, _, rfl, rfl, rfl⟩
  · have hstop : (a.createCompFunc && a.getInstance) = false := by
      simpa using hsyms
    simp only [hstop, if_true]
    exact ⟨_, _, _, rfl, rfl, rfl⟩

theorem dropHandle_kept (h : Opened l.loaded c lib) (hl : LoaderInv l) (i : Nat) :
    Kept c l (c.dropHandle l i).1 (c.dropHandle l i).2 := by
  unfold OmxCoreComponent.dropHandle
  dsimp only
  split
  next hactive =>
    have hempty : ∀ x ∈ c.handle.set i none, x = none := by
      simpa [OmxCoreComponent.isCompActive] using hactive
    rw [h.libHandle]
    refine ⟨List.length_set, rfl, Or.inl ⟨rfl, rfl, hempty, fun x hx heq => ?_⟩,
      hl.dlclose h.mem, fun x hne => ?_⟩
    · obtain ⟨hin, hother⟩ := List.mem_filter.mp hx
      exact of_decide_eq_true hother (h.only x hin heq)
    · have hx : x ≠ lib := fun heq => hne (heq ▸ h.libName)
      simp [OmxLoader.dlclose, hx]
  next hactive =>
    have hused : ∃ x ∈ c.handle.set i none, x ≠ none := by
      simpa [OmxCoreComponent.isCompActive] using hactive
    exact ⟨List.length_set, rfl, Or.inr ⟨lib, { h with used := hused }⟩, hl, fun _ _ => Iff.rfl⟩

end component

/-- Every component agrees with the loader, and no two components have one library. -/
structure Inv (s : OmxRun) : Prop where
  names : (s.core.component.map (·.libName)).Nodup
  size : ∀ c ∈ s.core.component, 0 < c.handle.length
  consistent : ∀ c ∈ s.core.component, Consistent s.core.loader.loaded c
  loader : LoaderInv s.core.loader
  failures : ∀ f ∈ s.failures, f.1 = f.2

section run

variable {s : OmxRun}

theorem start_inv : Inv start where
  names := by decide
  size := by decide
  consistent c hc := by
    refine Or.inl ⟨?_, ?_, ?_, ?_⟩
    · revert c
      decide
    · revert c
      decide
    · revert c
      decide
    · intro lib hlib
      exact absurd hlib List.not_mem_nil
  loader := ⟨by decide, by decide, by decide, by decide⟩
  failures := by decide

theorem Inv.right (h : Inv s) : TableRight s where
  opened c hc := (h.consistent c hc).opened
  used c hc := (h.consistent c hc).used
  calls := h.loader.calls
  closes lib := List.nodup_iff_count_le_one.mp h.loader.once lib
  failures := h.failures

theorem Inv.set (h : Inv s) {i : Nat} {c c' : OmxCoreComponent} {l' : OmxLoader}
    (hc : s.core.component[i]? = some c) (hkept : Kept c s.core.loader c' l')
    {failures : List (List OmxCoreComponent × List OmxCoreComponent)}
    (hfail : ∀ f ∈ failures, f.1 = f.2) :
    Inv ⟨⟨s.core.component.set i c', l'⟩, failures⟩ := by
  obtain ⟨hi, hget⟩ := List.getElem?_eq_some_iff.mp hc
  have hmap : (s.core.component.set i c').map (·.libName) = s.core.component.map (·.libName) := by
    have hlt : i < (s.core.component.map (·.libName)).length := by rwa [List.length_map]
    have hname : c'.libName = (s.core.component.map (·.libName))[i] := by
      rw [hkept.libName, List.getElem_map, hget]
    rw [List.map_set, hname, List.set_getElem_self]
  have hcases : ∀ x ∈ s.core.component.set i c',
      x = c' ∨ x ∈ s.core.component ∧ x.libName ≠ c.libName := by
    intro x hx
    obtain ⟨j, hj⟩ := List.mem_iff_getElem?.mp hx
    by_cases hij : i = j
    · grind
    · rw [List.getElem?_set_ne hij] at hj
      obtain ⟨hjlt, hjget⟩ := List.getElem?_eq_some_iff.mp hj
      refine Or.inr ⟨List.mem_of_getElem? hj, fun heq => hij ?_⟩
      have hnodup := h.names
      have hlen : (s.core.component.map (·.libName)).length = s.core.component.length :=
        List.length_map _
      refine ((@List.Nodup.getElem_inj_iff _ _ hnodup _ (hlen ▸ hi) _ (hlen ▸ hjlt)).mp ?_)
      rw [List.getElem_map, List.getElem_map, hget, hjget, heq]
  refine ⟨hmap ▸ h.names, fun x hx => ?_, fun x hx => ?_, hkept.loader, hfail⟩
  · rcases hcases x hx with rfl | ⟨hx, -⟩
    · rw [hkept.size]
      exact h.size c (List.mem_of_getElem? hc)
    · exact h.size x hx
  · rcases hcases x hx with rfl | ⟨hx, hne⟩
    · exact hkept.consistent
    · exact (h.consistent x hx).frame fun lib hlib => hkept.frame lib (hlib ▸ hne)

theorem Inv.failure (h : Inv s) {component : List OmxCoreComponent}
    (same : component = s.core.component) :
    ∀ f ∈ (s.core.component, component) :: s.failures, f.1 = f.2 := by
  intro f hf
  rcases List.mem_cons.mp hf with rfl | hf
  · exact same.symm
  · exact h.failures f hf

theorem getHandle_cases (s : OmxCore) (handleIsNull : Bool) (componentName : Option String)
    (a : OmxAnswers) :
    ((handleIsNull = true ∨ s.getCompFromList componentName = none) ∧
      ∃ rc, rc ≠ .none ∧ s.omxGetHandle handleIsNull componentName a = some (rc, s)) ∨
      handleIsNull = false ∧ ∃ i c, s.getCompFromList componentName = some i ∧
        s.component[i]? = some c ∧ s.omxGetHandle handleIsNull componentName a =
          (c.newHandle s.loader a).map fun r => (r.1, ⟨s.component.set i r.2.1, r.2.2⟩) := by
  unfold OmxCore.omxGetHandle
  cases handleIsNull with
  | true => exact Or.inl ⟨Or.inl rfl, _, by simp, rfl⟩
  | false =>
    simp only [Bool.false_eq_true, if_false, true_and]
    cases hidx : s.getCompFromList componentName with
    | none => exact Or.inl ⟨Or.inr rfl, _, by simp, rfl⟩
    | some i =>
      obtain ⟨name, -, hfind⟩ := Option.bind_eq_some_iff.mp hidx
      obtain ⟨hi, -⟩ := List.findIdx?_eq_some_iff_getElem.mp hfind
      refine Or.inr ⟨i, s.component[i], rfl, List.getElem?_eq_getElem hi, ?_⟩
      dsimp only
      rw [List.getElem?_eq_getElem hi, Option.bind_eq_bind, Option.bind_some]
      cases (s.component[i]).newHandle s.loader a <;> rfl

theorem Inv.getHandle (h : Inv s) {handleIsNull : Bool} {componentName : Option String}
    {a : OmxAnswers} (good : CreatesLoaded s (.getHandle handleIsNull componentName a)) :
    ∃ t, s.step (.getHandle handleIsNull componentName a) = some t ∧ Inv t := by
  simp only [step]
  rcases getHandle_cases s.core handleIsNull componentName a with
    ⟨-, rc, hrc, hget⟩ | ⟨rfl, i, c, hidx, hc, hget⟩
  · rw [hget]
    refine ⟨_, rfl, h.names, h.size, h.consistent, h.loader, ?_⟩
    simp only [if_neg hrc]
    exact h.failure rfl
  · have hmem := List.mem_of_getElem? hc
    obtain ⟨rc, c', l', hnew, hkept, hfail⟩ : ∃ rc c' l', c.newHandle s.core.loader a =
        some (rc, c', l') ∧ Kept c s.core.loader c' l' ∧ (rc ≠ .none → c' = c) := by
      rcases h.consistent c hmem with hshut | ⟨lib, hopened⟩
      · cases hopen : a.dlopen with
        | false => exact newHandle_unloaded hshut h.loader hopen
        | true =>
          obtain ⟨h1, h2, h3, h4⟩ := good i hidx c hc hshut.isOpen hopen
          obtain ⟨p, hp⟩ := Option.ne_none_iff_exists'.mp h4
          exact newHandle_loaded hshut h.loader hopen h1 h2 h3 hp
      · exact newHandle_opened hopened h.loader
    rw [hget, hnew]
    refine ⟨_, rfl, h.set hc hkept ?_⟩
    by_cases hrc : rc = .none
    · simp only [if_pos hrc]
      exact h.failures
    · simp only [if_neg hrc]
      refine h.failure ?_
      obtain ⟨hi, heq⟩ := List.getElem?_eq_some_iff.mp hc
      rw [hfail hrc, ← heq]
      exact List.set_getElem_self hi

theorem Inv.found (h : Inv s) {hComp i j : Nat}
    (hfound : s.core.getIdxFromHandle hComp = some (i, j)) :
    ∃ c lib, s.core.component[i]? = some c ∧ Opened s.core.loader.loaded c lib := by
  obtain ⟨compIdx, -, hrest⟩ := Option.bind_eq_some_iff.mp hfound
  obtain ⟨c, hc, hrest⟩ := Option.bind_eq_some_iff.mp hrest
  obtain ⟨instIdx, hinst, heq⟩ := Option.bind_eq_some_iff.mp hrest
  cases Option.some.inj heq
  obtain ⟨hj, hhandle, -⟩ := List.findIdx?_eq_some_iff_getElem.mp hinst
  have hsome : c.handle[j] = some hComp := of_decide_eq_true hhandle
  rcases h.consistent c (List.mem_of_getElem? hc) with hshut | ⟨lib, hopened⟩
  · have hnone := hshut.empty _ (List.getElem_mem hj)
    grind
  · exact ⟨c, lib, hc, hopened⟩

theorem Inv.freeHandle (h : Inv s) (hComp : Option Nat) (deInit : Bool) :
    Inv { s with core := (s.core.omxFreeHandle hComp deInit).2 } := by
  unfold OmxCore.omxFreeHandle
  cases hComp with
  | none => exact h
  | some hComp =>
    dsimp only
    cases hfound : s.core.getIdxFromHandle hComp with
    | none => exact h
    | some idx =>
      obtain ⟨i, j⟩ := idx
      obtain ⟨c, lib, hc, hopened⟩ := h.found hfound
      cases deInit with
      | false => exact h
      | true =>
        simp only [Bool.true_eq_false, if_false, hc]
        exact h.set hc (dropHandle_kept hopened h.loader j) h.failures

theorem Inv.breaks (h : Inv s) {op : OmxOp} (bad : ¬CreatesLoaded s op) :
    ∃ t, s.step op = some t ∧ ¬TableRight t := by
  cases op with
  | freeHandle hComp deInit => exact absurd trivial bad
  | getHandle handleIsNull componentName a =>
    rcases getHandle_cases s.core handleIsNull componentName a with
      ⟨hnone, -⟩ | ⟨rfl, i, c, hidx, hc, hget⟩
    · refine absurd ?_ bad
      cases handleIsNull with
      | true => trivial
      | false =>
        intro compIdx hidx
        grind
    · have hmem := List.mem_of_getElem? hc
      simp only [CreatesLoaded, hidx, Option.some.injEq, forall_eq', hc, Option.mem_def] at bad
      simp only [Classical.not_imp] at bad
      obtain ⟨hclosed, hopen, hfails⟩ := bad
      have hshut : Shut s.core.loader.loaded c := by
        refine (h.consistent c hmem).resolve_right ?_
        rintro ⟨lib, hopened⟩
        exact Bool.noConfusion (hclosed.symm.trans hopened.isOpen)
      obtain ⟨rc, c', l', hnew, hstale, hnone⟩ :=
        newHandle_stale hshut h.loader (h.size c hmem) hopen hfails
      simp only [step, hget, hnew, Option.map_some]
      refine ⟨_, rfl, fun hright => ?_⟩
      obtain ⟨hi, -⟩ := List.getElem?_eq_some_iff.mp hc
      have hin : c' ∈ s.core.component.set i c' := List.mem_set hi c'
      obtain ⟨lib, -, hlib⟩ := (hright.opened c' hin).mp hstale
      exact Option.some_ne_none lib (hlib.symm.trans hnone)

end run

/-- The table is right after every call exactly if a library that is loaded always creates the first
instance. -/
theorem componentsRight_iff (ops : List OmxOp) :
    Always step TableRight start ops ↔ OpsMeet step CreatesLoaded start ops := by
  refine @always_iff _ _ step (fun _ _ => True) Inv TableRight CreatesLoaded (fun _ hs => hs.right)
    (fun s op hs _ good => ?_) (fun _ _ hs _ bad => hs.breaks bad) _ _ start_inv (opsMeet_true start ops)
  cases op with
  | getHandle handleIsNull componentName a => exact hs.getHandle good
  | freeHandle hComp deInit => exact ⟨_, rfl, hs.freeHandle hComp deInit⟩

/-- The encoder's library is loaded, and `getInstance` fails. -/
def noInstance : OmxOp := .getHandle false (some "OMX.qcom.image.jpeg.encoder")
  { dlopen := true, createCompFunc := true, getInstance := true, pObj := false, pComp := none }

/-- The next call calls a function of the library that was closed. -/
theorem closed_library_called : ¬Always step TableRight start [noInstance, noInstance] := by
  intro always
  obtain ⟨s, hs, hcall⟩ : ∃ s, runOps step start [noInstance, noInstance] = some s ∧
      ∃ call ∈ s.core.loader.calls, call.2 = false := ⟨_, rfl, by decide⟩
  obtain ⟨call, hmem, hclosed⟩ := hcall
  exact Bool.noConfusion (hclosed.symm.trans ((always.last hs).calls call hmem))

end OmxRun

end DeviceHal.Camera
