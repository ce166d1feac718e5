import DeviceHal.Sensors.Multihal

namespace DeviceHal.Sensors

/-- How many modules before a module opened their device. -/
def openedBefore (subHwModules : List SubModule) (moduleIndex : Nat) : Nat :=
  ((subHwModules.take moduleIndex).filter fun hwModule => hwModule.opened.isSome).length

/-- The version of a module's device, if it is open. -/
def deviceVersion (subHwModules : List SubModule) (moduleIndex : Nat) : Option Int :=
  subHwModules[moduleIndex]?.bind SubModule.opened

def sensorsOf (subHwModules : List SubModule) (moduleIndex : Nat) : List Int :=
  (subHwModules[moduleIndex]?.map SubModule.localHandles).getD []

theorem openedBefore_cons (hwModule : SubModule) (modules : List SubModule) (k : Nat) :
    openedBefore (hwModule :: modules) (k + 1) =
      (if hwModule.opened.isSome then 1 else 0) + openedBefore modules k := by
  unfold openedBefore
  grind

theorem getElem?_openSensors {modules : List SubModule} : ∀ {moduleIndex place : Nat} {dev : HwDevice},
    (openSensors moduleIndex modules)[place]? = some dev ↔ ∃ k, dev.module = moduleIndex + k ∧
      deviceVersion modules k = some dev.version ∧ openedBefore modules k = place := by
  induction modules with
  | nil =>
    intro moduleIndex place dev
    simp [openSensors, deviceVersion]
  | cons hwModule rest ih =>
    intro moduleIndex place dev
    have hzero : deviceVersion (hwModule :: rest) 0 = hwModule.opened := rfl
    have hsucc : ∀ k, deviceVersion (hwModule :: rest) (k + 1) = deviceVersion rest k := fun k => rfl
    cases hopen : hwModule.opened with
    | none =>
      simp only [openSensors, hopen]
      refine ih.trans ?_
      constructor
      · grind [openedBefore_cons]
      · rintro ⟨k, hm, hv, hplace⟩
        cases k with
        | zero =>
          rw [hzero, hopen] at hv
          cases hv
        | succ k =>
          grind [openedBefore_cons]
    | some version =>
      simp only [openSensors, hopen]
      cases place with
      | zero =>
        constructor
        · intro hdev
          cases Option.some.inj hdev
          exact ⟨0, rfl, hopen, rfl⟩
        · rintro ⟨k, hm, hv, hplace⟩
          cases k with
          | zero =>
            have hversion := hopen.symm.trans (hzero.symm.trans hv)
            obtain ⟨m, v⟩ := dev
            grind
          | succ k =>
            rw [openedBefore_cons, hopen] at hplace
            simp at hplace
      | succ place =>
        rw [List.getElem?_cons_succ]
        refine ih.trans ?_
        constructor
        · grind [openedBefore_cons, Nat.add_comm]
        · rintro ⟨k, hm, hv, hplace⟩
          cases k with
          | zero => cases hplace
          | succ k =>
            grind [openedBefore_cons]

namespace Multihal

/-- A request for one sensor, and the level that its device has to comply with. -/
inductive Request where
  | activate (enabled : Int)
  | setDelay (ns : Int)
  | batch (flags periodNs timeout : Int)
  | flush
  | injectSensorData (data : SensorsEvent)

namespace Request

def level : Request → Int
  | injectSensorData _ => apiVersion14
  | _ => apiVersion13

/-- The call of the multi-HAL with a global handle. -/
def run (s : Multihal) (globalHandle : Int) : Request → Option DeviceCall
  | activate enabled => s.activate globalHandle enabled
  | setDelay ns => s.setDelay globalHandle ns
  | batch flags periodNs timeout => s.batch globalHandle flags periodNs timeout
  | flush => s.flush globalHandle
  | injectSensorData data => s.injectSensorData { data with sensor := globalHandle }

def subCall (localHandle : Int) : Request → SubCall
  | activate enabled => .activate localHandle enabled
  | setDelay ns => .setDelay localHandle ns
  | batch flags periodNs timeout => .batch localHandle flags periodNs timeout
  | flush => .flush localHandle
  | injectSensorData data => .injectSensorData { data with sensor := localHandle }

def isInject : Request → Bool
  | injectSensorData _ => true
  | _ => false

end Request

/-- A version complies with the level of a request. -/
def Complies (request : Request) (version : Int) : Prop := request.level ≤ version

instance (request : Request) (version : Int) : Decidable (Complies request version) :=
  inferInstanceAs (Decidable (request.level ≤ version))

/-- Where a request belongs: the device of the sensor's module, if it is open and compliant. -/
def routed (subHwModules : List SubModule) (source : FullHandle) (request : Request) : Option DeviceCall :=
  match deviceVersion subHwModules source.moduleIndex with
  | some version =>
    if Complies request version then
      some ⟨source.moduleIndex, some source.moduleIndex, request.subCall source.localHandle⟩
    else none
  | none => none

variable {subHwModules : List SubModule}

theorem lists_multihal (subHwModules : List SubModule) :
    (multihal subHwModules).table.Lists (multihal subHwModules).globalSensorsList := by
  have hnone : ∀ p ∈ ([] : List GlobalSensor), p.source.moduleIndex < 0 := nofun
  exact HandleTable.lists_nil.initSensorsList hnone

variable {full : FullHandle}

theorem known_iff : (∃ handle, (multihal subHwModules).table.fullToGlobal full = some handle) ↔
      full.localHandle ∈ sensorsOf subHwModules full.moduleIndex := by
  have h := lists_multihal subHwModules
  have hmem : (∃ p ∈ (multihal subHwModules).globalSensorsList, p.source = full) ↔ _ :=
    HandleTable.source_of_mem_initSensorsList
  have hsensors : full.localHandle ∈ sensorsOf subHwModules full.moduleIndex ↔
      ∃ k hwModule, subHwModules[k]? = some hwModule ∧ full.moduleIndex = 0 + k ∧
        full.localHandle ∈ hwModule.localHandles := by
    unfold sensorsOf
    constructor
    · grind
    · grind
  rw [hsensors, ← hmem]
  constructor
  · rintro ⟨handle, hfull⟩
    exact ⟨_, h.onlyGlobal full handle hfull, rfl⟩
  · rintro ⟨p, hp, rfl⟩
    exact ⟨p.handle, h.global p hp⟩

variable {p : GlobalSensor}

theorem getDeviceByHandle_of_mem (hp : p ∈ (multihal subHwModules).globalSensorsList) :
    (multihal subHwModules).getDeviceByHandle p.handle =
      (openSensors 0 subHwModules)[p.source.moduleIndex]? := by
  have hfull := (lists_multihal subHwModules).full p hp
  unfold getDeviceByHandle HandleTable.getModuleIndex
  rw [hfull]
  dsimp only
  have hdevices : (multihal subHwModules).subHwDevices = openSensors 0 subHwModules := rfl
  grind

theorem getLocalHandle_of_mem (hp : p ∈ (multihal subHwModules).globalSensorsList) :
    (multihal subHwModules).table.getLocalHandle p.handle = p.source.localHandle := by
  have hfull := (lists_multihal subHwModules).full p hp
  unfold HandleTable.getLocalHandle
  rw [hfull]

theorem halIsAPILevelCompliant_of_mem (hp : p ∈ (multihal subHwModules).globalSensorsList)
    {dev : HwDevice} (hdev : (openSensors 0 subHwModules)[p.source.moduleIndex]? = some dev)
    (request : Request) :
    (multihal subHwModules).halIsAPILevelCompliant p.handle request.level = true ↔
      Complies request dev.version := by
  have hlevel : 0 ≤ request.level := by
    cases request with
    | injectSensorData data => exact (by decide : (0 : Int) ≤ apiVersion14)
    | _ => exact (by decide : (0 : Int) ≤ apiVersion13)
  unfold halIsAPILevelCompliant getDeviceVersionByHandle
  rw [getDeviceByHandle_of_mem hp, hdev]
  unfold Complies
  grind

theorem run_of_mem (hp : p ∈ (multihal subHwModules).globalSensorsList) (request : Request) :
    request.run (multihal subHwModules) p.handle =
      match (openSensors 0 subHwModules)[p.source.moduleIndex]? with
      | some dev =>
        if Complies request dev.version ∧ p.source.localHandle ≥ 0 then
          some (if request.isInject then ⟨dev.module, none, request.subCall p.handle⟩
            else ⟨dev.module, some dev.module, request.subCall p.source.localHandle⟩)
        else none
      | none => none := by
  cases hdev : (openSensors 0 subHwModules)[p.source.moduleIndex]? with
  | none =>
    have hnone := (getDeviceByHandle_of_mem hp).trans hdev
    cases request <;>
      simp [Request.run, activate, setDelay, batch, flush, injectSensorData, forward, hnone]
  | some dev =>
    have hsome := (getDeviceByHandle_of_mem hp).trans hdev
    have hlocal := getLocalHandle_of_mem hp
    have hlevel := halIsAPILevelCompliant_of_mem hp hdev request
    cases request <;>
      simp only [Request.run, activate, setDelay, batch, flush, injectSensorData, forward, hsome, hlocal,
        halIsCompliant, ← hlevel, Request.level, Request.isInject, Request.subCall, if_true, Bool.false_eq_true,
        if_false]

/-- The device of a sensor's module has to take a request: then all earlier modules have to be open, the
local handle must not be negative, and nothing may be injected. It has not: then no module in its place
may take it. -/
def RoutesWell (subHwModules : List SubModule) (source : FullHandle) (request : Request) : Prop :=
  ((∃ version, deviceVersion subHwModules source.moduleIndex = some version ∧ Complies request version) →
    openedBefore subHwModules source.moduleIndex = source.moduleIndex ∧ 0 ≤ source.localHandle ∧
      request.isInject = false) ∧
  ((¬∃ version, deviceVersion subHwModules source.moduleIndex = some version ∧ Complies request version) →
    ∀ other version, deviceVersion subHwModules other = some version →
      openedBefore subHwModules other = source.moduleIndex → Complies request version → source.localHandle < 0)

theorem run_eq_routed_iff (hp : p ∈ (multihal subHwModules).globalSensorsList) (request : Request) :
    request.run (multihal subHwModules) p.handle = routed subHwModules p.source request ↔
      RoutesWell subHwModules p.source request := by
  rw [run_of_mem hp]
  by_cases hanswers : ∃ version, deviceVersion subHwModules p.source.moduleIndex = some version ∧
      Complies request version
  · obtain ⟨version, hversion, hcomplies⟩ := hanswers
    have hrouted : routed subHwModules p.source request =
        some ⟨p.source.moduleIndex, some p.source.moduleIndex, request.subCall p.source.localHandle⟩ := by
      unfold routed
      rw [hversion]
      exact if_pos hcomplies
    rw [hrouted]
    have hwell : RoutesWell subHwModules p.source request ↔
        openedBefore subHwModules p.source.moduleIndex = p.source.moduleIndex ∧ 0 ≤ p.source.localHandle ∧
          request.isInject = false := by
      refine ⟨fun h => h.1 ⟨version, hversion, hcomplies⟩, fun h => ⟨fun _ => h, fun hno => ?_⟩⟩
      exact absurd ⟨version, hversion, hcomplies⟩ hno
    rw [hwell]
    constructor
    · intro hrun
      split at hrun
      next dev hdev =>
        split at hrun
        next htakes =>
          split at hrun
          next =>
            grind
          next hinject =>
            obtain ⟨k, hmodule, -, hplace⟩ := getElem?_openSensors.mp hdev
            grind
        next => cases hrun
      next => cases hrun
    · rintro ⟨hplace, hlocal, hinject⟩
      have hdev : (openSensors 0 subHwModules)[p.source.moduleIndex]? = some ⟨p.source.moduleIndex, version⟩ :=
        getElem?_openSensors.mpr ⟨p.source.moduleIndex, (Nat.zero_add _).symm, hversion, hplace⟩
      grind
  · have hrouted : routed subHwModules p.source request = none := by
      unfold routed
      split
      next version hversion => grind
      next => rfl
    rw [hrouted]
    constructor
    · intro hrun
      refine ⟨fun h => absurd h hanswers, fun _ other version hversion hplace hcomplies => ?_⟩
      have hdev : (openSensors 0 subHwModules)[p.source.moduleIndex]? = some ⟨other, version⟩ :=
        getElem?_openSensors.mpr ⟨other, (Nat.zero_add _).symm, hversion, hplace⟩
      grind
    · rintro ⟨-, hwell⟩
      split
      next dev hdev =>
        obtain ⟨k, hmodule, hversion, hplace⟩ := getElem?_openSensors.mp hdev
        grind
      next => rfl

/-- Where an event belongs: upstream under the handle that was published for its sensor. -/
def upstream (subHwModules : List SubModule) (moduleIndex : Nat) (e : SensorsEvent) : Option SensorsEvent :=
  ((multihal subHwModules).globalSensorsList.find? fun p => p.source = ⟨moduleIndex, e.names⟩).map
    fun p => e.rename p.handle

/-- The event of a sensor of the module comes from a module behind open ones only. Another handle is
not that of a sensor of the module in whose place the device is. A meta-data event of a sensor must
not have -1 as its own sensor, and one of no sensor must. -/
def DeliversWell (subHwModules : List SubModule) (moduleIndex : Nat) (e : SensorsEvent) : Prop :=
  match e.body with
  | .data _ _ =>
    (e.sensor ∈ sensorsOf subHwModules moduleIndex → openedBefore subHwModules moduleIndex = moduleIndex) ∧
      (e.sensor ∉ sensorsOf subHwModules moduleIndex →
        e.sensor ∉ sensorsOf subHwModules (openedBefore subHwModules moduleIndex))
  | .metaData _ sensor =>
    (sensor ∈ sensorsOf subHwModules moduleIndex →
      openedBefore subHwModules moduleIndex = moduleIndex ∧ e.sensor ≠ -1) ∧
      (sensor ∉ sensorsOf subHwModules moduleIndex → e.sensor = -1)

theorem upstream_of_known {moduleIndex : Nat} {e : SensorsEvent} {handle : Int}
    (h : (multihal subHwModules).table.fullToGlobal ⟨moduleIndex, e.names⟩ = some handle) :
    upstream subHwModules moduleIndex e = some (e.rename handle) := by
  have hlists := lists_multihal subHwModules
  have hin := hlists.onlyGlobal _ _ h
  unfold upstream
  cases hfind : (multihal subHwModules).globalSensorsList.find? fun p => p.source = ⟨moduleIndex, e.names⟩ with
  | none =>
    have hno := List.find?_eq_none.mp hfind _ hin
    simp at hno
  | some p =>
    have hsource : p.source = ⟨moduleIndex, e.names⟩ := by simpa using List.find?_some hfind
    have hglobal := hlists.global p (List.mem_of_find?_eq_some hfind)
    grind

theorem upstream_of_unknown {moduleIndex : Nat} {e : SensorsEvent}
    (h : e.names ∉ sensorsOf subHwModules moduleIndex) : upstream subHwModules moduleIndex e = none := by
  have hlists := lists_multihal subHwModules
  unfold upstream
  rw [Option.map_eq_none_iff, List.find?_eq_none]
  intro p hp hsource
  have hsource' : p.source = ⟨moduleIndex, e.names⟩ := by simpa using hsource
  refine h ((@known_iff subHwModules ⟨moduleIndex, e.names⟩).mp ⟨p.handle, ?_⟩)
  rw [← hsource']
  exact hlists.global p hp

theorem fullToGlobal_inj {full full' : FullHandle} {handle : Int}
    (h : (multihal subHwModules).table.fullToGlobal full = some handle)
    (h' : (multihal subHwModules).table.fullToGlobal full' = some handle) : full = full' := by
  have hlists := lists_multihal subHwModules
  have hfull := hlists.full _ (hlists.onlyGlobal _ _ h)
  have hfull' := hlists.full _ (hlists.onlyGlobal _ _ h')
  exact Option.some.inj (hfull.symm.trans hfull')

theorem getGlobalHandle_of_unknown
    (h : full.localHandle ∉ sensorsOf subHwModules full.moduleIndex) :
    (multihal subHwModules).table.getGlobalHandle full = -1 := by
  unfold HandleTable.getGlobalHandle
  cases hfull : (multihal subHwModules).table.fullToGlobal full with
  | none => rfl
  | some handle => exact absurd (known_iff.mp ⟨handle, hfull⟩) h

theorem getGlobalHandle_eq_iff {handle : Int}
    (h : (multihal subHwModules).table.fullToGlobal full = some handle) (full' : FullHandle) :
    (multihal subHwModules).table.getGlobalHandle full' = handle ↔ full' = full := by
  have hpos := (lists_multihal subHwModules).positive _ ((lists_multihal subHwModules).onlyGlobal _ _ h)
  unfold HandleTable.getGlobalHandle
  constructor
  · intro hget
    cases hfull : (multihal subHwModules).table.fullToGlobal full' with
    | none =>
      grind
    | some other =>
      rw [hfull] at hget
      cases (show other = handle from hget)
      exact fullToGlobal_inj hfull h
  · intro he
    rw [he, h]
    rfl

theorem getGlobalHandle_eq_neg_one_iff : (multihal subHwModules).table.getGlobalHandle full = -1 ↔
      full.localHandle ∉ sensorsOf subHwModules full.moduleIndex := by
  constructor
  · intro hget hknown
    obtain ⟨handle, hfull⟩ := known_iff.mpr hknown
    have hpos := (lists_multihal subHwModules).positive _ ((lists_multihal subHwModules).onlyGlobal _ _ hfull)
    have hsame := (getGlobalHandle_eq_iff hfull full).mpr rfl
    change 1 ≤ handle at hpos
    omega
  · exact getGlobalHandle_of_unknown

theorem deliver_eq_upstream_iff (moduleIndex : Nat) (e : SensorsEvent) :
    deliver (multihal subHwModules).table (openedBefore subHwModules moduleIndex) e =
        upstream subHwModules moduleIndex e ↔ DeliversWell subHwModules moduleIndex e := by
  obtain ⟨own, timestamp, body⟩ := e
  cases body with
  | data type payload =>
    change (if (multihal subHwModules).table.getGlobalHandle ⟨openedBefore subHwModules moduleIndex, own⟩ = -1
      then none else _) = _ ↔ (own ∈ _ → _) ∧ (own ∉ _ → _)
    by_cases hknown : own ∈ sensorsOf subHwModules moduleIndex
    · obtain ⟨handle, hfull⟩ := (@known_iff subHwModules ⟨moduleIndex, own⟩).mpr hknown
      rw [upstream_of_known (e := ⟨own, timestamp, .data type payload⟩) hfull]
      have hplace : (multihal subHwModules).table.getGlobalHandle
          ⟨openedBefore subHwModules moduleIndex, own⟩ = handle ↔
            openedBefore subHwModules moduleIndex = moduleIndex := by
        rw [getGlobalHandle_eq_iff hfull]
        simp
      constructor
      · intro hsame
        split at hsame
        next => cases hsame
        next =>
          have hsensor := congrArg SensorsEvent.sensor (Option.some.inj hsame)
          exact ⟨fun _ => hplace.mp hsensor, fun hno => absurd hknown hno⟩
      · rintro ⟨hwell, -⟩
        have hget := hplace.mpr (hwell hknown)
        have hne := @getGlobalHandle_eq_neg_one_iff subHwModules
          ⟨openedBefore subHwModules moduleIndex, own⟩
        grind [copyEventRemapHandle, SensorsEvent.rename]
    · rw [upstream_of_unknown (e := ⟨own, timestamp, .data type payload⟩) hknown]
      have hnone : (if (multihal subHwModules).table.getGlobalHandle
          ⟨openedBefore subHwModules moduleIndex, own⟩ = -1 then none
          else some (copyEventRemapHandle (multihal subHwModules).table ⟨own, timestamp, .data type payload⟩
            (openedBefore subHwModules moduleIndex))) = none ↔
          own ∉ sensorsOf subHwModules (openedBefore subHwModules moduleIndex) := by
        rw [← @getGlobalHandle_eq_neg_one_iff subHwModules ⟨openedBefore subHwModules moduleIndex, own⟩]
        split
        next h => exact ⟨fun _ => h, fun _ => rfl⟩
        next h => exact ⟨nofun, fun h' => absurd h' h⟩
      grind
  | metaData what sensor =>
    change (if own = -1 then none else some (SensorsEvent.mk own timestamp (.metaData what
      ((multihal subHwModules).table.getGlobalHandle ⟨openedBefore subHwModules moduleIndex, sensor⟩)))) = _ ↔
        (sensor ∈ _ → _ ∧ own ≠ -1) ∧ (sensor ∉ _ → own = -1)
    by_cases hknown : sensor ∈ sensorsOf subHwModules moduleIndex
    · obtain ⟨handle, hfull⟩ := (@known_iff subHwModules ⟨moduleIndex, sensor⟩).mpr hknown
      rw [upstream_of_known (e := ⟨own, timestamp, .metaData what sensor⟩) hfull]
      have hplace : (multihal subHwModules).table.getGlobalHandle
          ⟨openedBefore subHwModules moduleIndex, sensor⟩ = handle ↔
            openedBefore subHwModules moduleIndex = moduleIndex := by
        rw [getGlobalHandle_eq_iff hfull]
        simp
      constructor
      · intro hsame
        split at hsame
        next => cases hsame
        next hown =>
          have hbody := congrArg SensorsEvent.body (Option.some.inj hsame)
          have hget := (EventBody.metaData.inj hbody).2
          grind
      · rintro ⟨hwell, -⟩
        obtain ⟨hsame, hown⟩ := hwell hknown
        rw [if_neg hown, hplace.mpr hsame]
        rfl
    · rw [upstream_of_unknown (e := ⟨own, timestamp, .metaData what sensor⟩) hknown]
      grind

/-- Exactly when a request with a published handle, and an event of an open device, go where they
belong. -/
theorem routes_iff_routesWell (subHwModules : List SubModule) :
    (∀ p ∈ (multihal subHwModules).globalSensorsList, ∀ request : Request,
      (request.run (multihal subHwModules) p.handle = routed subHwModules p.source request ↔
        RoutesWell subHwModules p.source request)) ∧
    ∀ place dev, (multihal subHwModules).subHwDevices[place]? = some dev → ∀ e : SensorsEvent,
      (deliver (multihal subHwModules).table place e = upstream subHwModules dev.module e ↔
        DeliversWell subHwModules dev.module e) := by
  refine ⟨fun p hp request => run_eq_routed_iff hp request, fun place dev hdev e => ?_⟩
  obtain ⟨k, hmodule, -, hplace⟩ := getElem?_openSensors.mp hdev
  have hk : k = dev.module := by omega
  rw [← hplace, hk]
  exact deliver_eq_upstream_iff dev.module e

/-- Two modules that open, the second with a handle that the first uses too. -/
def bothOpen : List SubModule :=
  [⟨[5, 7], by decide, some apiVersion13⟩, ⟨[5], by decide, some apiVersion14⟩]

theorem bothOpen_routes : Request.flush.run (multihal bothOpen) 3 = routed bothOpen ⟨1, 5⟩ .flush ∧
    deliver (multihal bothOpen).table 1 ⟨5, 0, .data 4 0⟩ = upstream bothOpen 1 ⟨5, 0, .data 4 0⟩ := by
  have hmem : ⟨⟨1, 5⟩, 3⟩ ∈ (multihal bothOpen).globalSensorsList := by decide
  refine ⟨((routes_iff_routesWell bothOpen).1 ⟨⟨1, 5⟩, 3⟩ hmem .flush).mpr ⟨fun _ => by decide, fun hno => ?_⟩,
    ((routes_iff_routesWell bothOpen).2 1 ⟨1, apiVersion14⟩ rfl ⟨5, 0, .data 4 0⟩).mpr ⟨fun _ => rfl, fun hno => ?_⟩⟩
  · exact absurd ⟨apiVersion14, rfl, by decide⟩ hno
  · exact absurd (by decide) hno

def firstClosed : List SubModule :=
  [⟨[1], by decide, none⟩, ⟨[1], by decide, some apiVersion13⟩]

/-- A request for its sensor goes to the device of the other. -/
theorem firstClosed_misrouted :
    ¬∀ p ∈ (multihal firstClosed).globalSensorsList, (Request.activate 1).run (multihal firstClosed) p.handle =
      routed firstClosed p.source (.activate 1) := by
  intro h
  have hfirst := h ⟨⟨0, 1⟩, 1⟩ (by decide)
  revert hfirst
  decide

end Multihal

end DeviceHal.Sensors
