import Mathlib.Data.List.Nodup

namespace DeviceHal.Sensors

/-- A module index and the handle that the module gives the sensor. -/
structure FullHandle where
  moduleIndex : Nat
  localHandle : Int
deriving DecidableEq

structure HandleTable where
  globalToFull : Int → Option FullHandle := fun _ => none
  fullToGlobal : FullHandle → Option Int := fun _ => none
  nextGlobalHandle : Int := 1

namespace HandleTable

def assignGlobalHandle (t : HandleTable) (moduleIndex : Nat) (localHandle : Int) : Int × HandleTable :=
  let globalHandle := t.nextGlobalHandle
  let fullHandle : FullHandle := ⟨moduleIndex, localHandle⟩
  (globalHandle,
    { globalToFull := Function.update t.globalToFull globalHandle (some fullHandle)
      fullToGlobal := Function.update t.fullToGlobal fullHandle (some globalHandle)
      nextGlobalHandle := globalHandle + 1 })

def getLocalHandle (t : HandleTable) (globalHandle : Int) : Int :=
  match t.globalToFull globalHandle with
  | some full => full.localHandle
  | none => -1

def getModuleIndex (t : HandleTable) (globalHandle : Int) : Int :=
  match t.globalToFull globalHandle with
  | some full => full.moduleIndex
  | none => -1

def getGlobalHandle (t : HandleTable) (fullHandle : FullHandle) : Int :=
  (t.fullToGlobal fullHandle).getD (-1)

end HandleTable

/-- `SENSORS_DEVICE_API_VERSION_1_3` and `SENSORS_DEVICE_API_VERSION_1_4`. -/
def apiVersion13 : Int := 0x01030001

def apiVersion14 : Int := 0x01040001

/-- A loaded module: the handles of its sensors, and the version of its device if that opens. -/
structure SubModule where
  localHandles : List Int
  nodup : localHandles.Nodup
  opened : Option Int

/-- A device, named by the module that opened it. -/
structure HwDevice where
  module : Nat
  version : Int
deriving DecidableEq

/-- The payload of an event. That of a meta-data event names a sensor itself. -/
inductive EventBody where
  | metaData (what sensor : Int)
  | data (type : Int) (payload : Nat)
deriving DecidableEq

structure SensorsEvent where
  sensor : Int
  timestamp : Int
  body : EventBody
deriving DecidableEq

namespace SensorsEvent

def names (e : SensorsEvent) : Int :=
  match e.body with
  | .metaData _ sensor => sensor
  | .data _ _ => e.sensor

/-- The event with another handle where it names its sensor. -/
def rename (e : SensorsEvent) (handle : Int) : SensorsEvent :=
  match e.body with
  | .metaData what _ => { e with body := .metaData what handle }
  | .data _ _ => { e with sensor := handle }

end SensorsEvent

/-- An entry of `global_sensors_list`, and the sensor it was copied from. -/
structure GlobalSensor where
  source : FullHandle
  handle : Int
deriving DecidableEq

def assignModule (moduleIndex : Nat) : HandleTable → List Int → HandleTable × List GlobalSensor
  | t, [] => (t, [])
  | t, localHandle :: rest =>
    let assigned := t.assignGlobalHandle moduleIndex localHandle
    let r := assignModule moduleIndex assigned.2 rest
    (r.1, ⟨⟨moduleIndex, localHandle⟩, assigned.1⟩ :: r.2)

/-- `lazy_init_sensors_list`, from a module on. -/
def initSensorsList : Nat → HandleTable → List SubModule → HandleTable × List GlobalSensor
  | _, t, [] => (t, [])
  | moduleIndex, t, hwModule :: rest =>
    let first := assignModule moduleIndex t hwModule.localHandles
    let later := initSensorsList (moduleIndex + 1) first.1 rest
    (later.1, first.2 ++ later.2)

/-- `open_sensors`: the devices of `sub_hw_devices`, from a module on. -/
def openSensors : Nat → List SubModule → List HwDevice
  | _, [] => []
  | moduleIndex, hwModule :: rest =>
    match hwModule.opened with
    | some version => ⟨moduleIndex, version⟩ :: openSensors (moduleIndex + 1) rest
    | none => openSensors (moduleIndex + 1) rest

/-- What a call passes on to a device, beside the pointer to the device. -/
inductive SubCall where
  | activate (handle enabled : Int)
  | setDelay (handle ns : Int)
  | batch (handle flags periodNs timeout : Int)
  | flush (handle : Int)
  | injectSensorData (data : SensorsEvent)
deriving DecidableEq

/-- A call of a function of a device; `self` is the device it is given, `none` being the proxy. -/
structure DeviceCall where
  device : Nat
  self : Option Nat
  call : SubCall
deriving DecidableEq

/-- The multi-HAL after its start. -/
structure Multihal where
  table : HandleTable
  globalSensorsList : List GlobalSensor
  subHwDevices : List HwDevice

def multihal (subHwModules : List SubModule) : Multihal :=
  let sensors := initSensorsList 0 {} subHwModules
  ⟨sensors.1, sensors.2, openSensors 0 subHwModules⟩

namespace Multihal

/-- `get_v0_device_by_handle` and `get_v1_device_by_handle`. -/
def getDeviceByHandle (s : Multihal) (globalHandle : Int) : Option HwDevice :=
  let subIndex := s.table.getModuleIndex globalHandle
  if subIndex < 0 ∨ subIndex ≥ s.subHwDevices.length then none else s.subHwDevices[subIndex.toNat]?

def getDeviceVersionByHandle (s : Multihal) (handle : Int) : Int :=
  match s.getDeviceByHandle handle with
  | some v0 => v0.version
  | none => -1

/-- `halIsAPILevelCompliant`; `halIsCompliant` asks for 1.3. -/
def halIsAPILevelCompliant (s : Multihal) (handle level : Int) : Bool :=
  let version := s.getDeviceVersionByHandle handle
  version ≠ -1 && decide (version ≥ level)

def halIsCompliant (s : Multihal) (handle : Int) : Bool := s.halIsAPILevelCompliant handle apiVersion13

/-- What the five functions have in common: the device that gets the call, or nothing where they
return `-EINVAL`. -/
def forward (s : Multihal) (handle : Int) (compliant : Bool) (call : HwDevice → Int → DeviceCall) :
    Option DeviceCall :=
  let localHandle := s.table.getLocalHandle handle
  match s.getDeviceByHandle handle with
  | some dev => if compliant ∧ localHandle ≥ 0 then some (call dev localHandle) else none
  | none => none

def activate (s : Multihal) (handle enabled : Int) : Option DeviceCall :=
  s.forward handle (s.halIsCompliant handle) fun v0 localHandle =>
    ⟨v0.module, some v0.module, .activate localHandle enabled⟩

def setDelay (s : Multihal) (handle ns : Int) : Option DeviceCall :=
  s.forward handle (s.halIsCompliant handle) fun v0 localHandle =>
    ⟨v0.module, some v0.module, .setDelay localHandle ns⟩

def batch (s : Multihal) (handle flags periodNs timeout : Int) : Option DeviceCall :=
  s.forward handle (s.halIsCompliant handle) fun v1 localHandle =>
    ⟨v1.module, some v1.module, .batch localHandle flags periodNs timeout⟩

def flush (s : Multihal) (handle : Int) : Option DeviceCall :=
  s.forward handle (s.halIsCompliant handle) fun v1 localHandle =>
    ⟨v1.module, some v1.module, .flush localHandle⟩

/-- The event goes to the device as it came, together with the proxy device. -/
def injectSensorData (s : Multihal) (data : SensorsEvent) : Option DeviceCall :=
  s.forward data.sensor (s.halIsAPILevelCompliant data.sensor apiVersion14) fun v1 _ =>
    ⟨v1.module, none, .injectSensorData data⟩

end Multihal

/-- `copy_event_remap_handle`. -/
def copyEventRemapHandle (t : HandleTable) (src : SensorsEvent) (subIndex : Nat) : SensorsEvent :=
  match src.body with
  | .metaData what sensor => { src with body := .metaData what (t.getGlobalHandle ⟨subIndex, sensor⟩) }
  | .data _ _ => { src with sensor := t.getGlobalHandle ⟨subIndex, src.sensor⟩ }

/-- What `poll` makes of an event that it has read from a queue. -/
def deliver (t : HandleTable) (subIndex : Nat) (src : SensorsEvent) : Option SensorsEvent :=
  let data := copyEventRemapHandle t src subIndex
  if data.sensor = -1 then none else some data

/-- The table holds the entries of the list, one global handle for each sensor. -/
structure HandleTable.Lists (t : HandleTable) (sensors : List GlobalSensor) : Prop where
  full : ∀ p ∈ sensors, t.globalToFull p.handle = some p.source
  global : ∀ p ∈ sensors, t.fullToGlobal p.source = some p.handle
  onlyGlobal : ∀ full handle, t.fullToGlobal full = some handle → ⟨full, handle⟩ ∈ sensors
  positive : ∀ p ∈ sensors, 1 ≤ p.handle
  fresh : ∀ p ∈ sensors, p.handle < t.nextGlobalHandle
  next : 1 ≤ t.nextGlobalHandle

namespace HandleTable

theorem lists_nil : ({} : HandleTable).Lists [] where
  full _ h := nomatch h
  global _ h := nomatch h
  onlyGlobal _ _ h := nomatch h
  positive _ h := nomatch h
  fresh _ h := nomatch h
  next := Int.le_refl 1

variable {t : HandleTable} {sensors : List GlobalSensor}

theorem Lists.assign (h : t.Lists sensors) {moduleIndex : Nat} {localHandle : Int}
    (hnew : ∀ p ∈ sensors, p.source ≠ ⟨moduleIndex, localHandle⟩) :
    (t.assignGlobalHandle moduleIndex localHandle).2.Lists
      (sensors ++ [⟨⟨moduleIndex, localHandle⟩, (t.assignGlobalHandle moduleIndex localHandle).1⟩]) := by
  have hnext := h.next
  refine ⟨?_, ?_, ?_, ?_, ?_, ?_⟩
  · intro p hp
    rcases List.mem_append.mp hp with hold | hlast
    · have hlt := h.fresh p hold
      exact (Function.update_of_ne (by omega) ..).trans (h.full p hold)
    · cases List.mem_singleton.mp hlast
      exact Function.update_self ..
  · intro p hp
    rcases List.mem_append.mp hp with hold | hlast
    · exact (Function.update_of_ne (hnew p hold) ..).trans (h.global p hold)
    · cases List.mem_singleton.mp hlast
      exact Function.update_self ..
  · intro full handle hfull
    by_cases he : full = ⟨moduleIndex, localHandle⟩
    · subst he
      have hself := (Function.update_self ..).symm.trans hfull
      cases Option.some.inj hself
      exact List.mem_append_right _ (List.mem_singleton.mpr rfl)
    · have hold := (Function.update_of_ne he ..).symm.trans hfull
      exact List.mem_append_left _ (h.onlyGlobal full handle hold)
  · intro p hp
    rcases List.mem_append.mp hp with hold | hlast
    · exact h.positive p hold
    · cases List.mem_singleton.mp hlast
      exact hnext
  · intro p hp
    change p.handle < t.nextGlobalHandle + 1
    rcases List.mem_append.mp hp with hold | hlast
    · have hlt := h.fresh p hold
      omega
    · cases List.mem_singleton.mp hlast
      change t.nextGlobalHandle < _
      omega
  · change 1 ≤ t.nextGlobalHandle + 1
    omega

theorem Lists.assignModule {moduleIndex : Nat} {localHandles : List Int} : ∀ {t : HandleTable}
    {sensors : List GlobalSensor}, t.Lists sensors → localHandles.Nodup →
    (∀ p ∈ sensors, ∀ l ∈ localHandles, p.source ≠ ⟨moduleIndex, l⟩) →
    (assignModule moduleIndex t localHandles).1.Lists
      (sensors ++ (assignModule moduleIndex t localHandles).2) := by
  induction localHandles with
  | nil =>
    intro t sensors h _ _
    rw [Sensors.assignModule, List.append_nil]
    exact h
  | cons localHandle rest ih =>
    intro t sensors h hnodup hnew
    obtain ⟨hnotin, hnodup'⟩ := List.nodup_cons.mp hnodup
    have hfirst := h.assign fun p hp => hnew p hp localHandle List.mem_cons_self
    have hnew' : ∀ p ∈ sensors ++ [⟨⟨moduleIndex, localHandle⟩, (t.assignGlobalHandle moduleIndex localHandle).1⟩],
        ∀ l ∈ rest, p.source ≠ ⟨moduleIndex, l⟩ := by
      intro p hp l hl
      rcases List.mem_append.mp hp with hold | hlast
      · exact hnew p hold l (List.mem_cons_of_mem _ hl)
      · grind
    have hrest := ih hfirst hnodup' hnew'
    rw [List.append_assoc] at hrest
    exact hrest

theorem source_of_mem_assignModule {moduleIndex : Nat} {localHandles : List Int} : ∀ {t : HandleTable}
    {full : FullHandle}, (∃ p ∈ (Sensors.assignModule moduleIndex t localHandles).2, p.source = full) ↔
      full.moduleIndex = moduleIndex ∧ full.localHandle ∈ localHandles := by
  induction localHandles with
  | nil =>
    intro t full
    simp [Sensors.assignModule]
  | cons localHandle rest ih =>
    intro t full
    have hrest := @ih (t.assignGlobalHandle moduleIndex localHandle).2 full
    simp only [Sensors.assignModule, List.mem_cons, exists_eq_or_imp, hrest]
    constructor
    · grind
    · rintro ⟨rfl, hl | hl⟩
      · left
        rw [← hl]
      · exact Or.inr ⟨rfl, hl⟩

theorem Lists.initSensorsList {modules : List SubModule} : ∀ {moduleIndex : Nat} {t : HandleTable}
    {sensors : List GlobalSensor}, t.Lists sensors → (∀ p ∈ sensors, p.source.moduleIndex < moduleIndex) →
    (initSensorsList moduleIndex t modules).1.Lists
      (sensors ++ (initSensorsList moduleIndex t modules).2) := by
  induction modules with
  | nil =>
    intro moduleIndex t sensors h _
    rw [Sensors.initSensorsList, List.append_nil]
    exact h
  | cons hwModule rest ih =>
    intro moduleIndex t sensors h hearlier
    have hfirst : (Sensors.assignModule moduleIndex t hwModule.localHandles).1.Lists
        (sensors ++ (Sensors.assignModule moduleIndex t hwModule.localHandles).2) := by
      refine h.assignModule hwModule.nodup fun p hp l hl he => ?_
      have hlt := hearlier p hp
      rw [he] at hlt
      exact Nat.lt_irrefl _ hlt
    have hearlier' : ∀ p ∈ sensors ++ (Sensors.assignModule moduleIndex t hwModule.localHandles).2,
        p.source.moduleIndex < moduleIndex + 1 := by
      intro p hp
      rcases List.mem_append.mp hp with hold | hnew
      · exact Nat.lt_succ_of_lt (hearlier p hold)
      · have hsource := source_of_mem_assignModule.mp ⟨p, hnew, rfl⟩
        omega
    have hrest := ih hfirst hearlier'
    rw [List.append_assoc] at hrest
    exact hrest

theorem source_of_mem_initSensorsList {modules : List SubModule} : ∀ {moduleIndex : Nat} {t : HandleTable}
    {full : FullHandle}, (∃ p ∈ (Sensors.initSensorsList moduleIndex t modules).2, p.source = full) ↔
      ∃ k hwModule, modules[k]? = some hwModule ∧ full.moduleIndex = moduleIndex + k ∧
        full.localHandle ∈ hwModule.localHandles := by
  induction modules with
  | nil =>
    intro moduleIndex t full
    simp [Sensors.initSensorsList]
  | cons hwModule rest ih =>
    intro moduleIndex t full
    have hfirst := @source_of_mem_assignModule moduleIndex hwModule.localHandles t full
    have hrest := @ih (moduleIndex + 1) (Sensors.assignModule moduleIndex t hwModule.localHandles).1 full
    simp only [Sensors.initSensorsList, List.mem_append, or_and_right, exists_or, hfirst, hrest]
    constructor
    · rintro (⟨hm, hl⟩ | ⟨k, other, hk, hm, hl⟩)
      · exact ⟨0, hwModule, rfl, hm, hl⟩
      · exact ⟨k + 1, other, hk, by omega, hl⟩
    · rintro ⟨k, other, hk, hm, hl⟩
      cases k with
      | zero =>
        cases Option.some.inj hk
        exact Or.inl ⟨hm, hl⟩
      | succ k => exact Or.inr ⟨k, other, hk, by omega, hl⟩

end HandleTable

end DeviceHal.Sensors
