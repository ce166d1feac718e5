import Mathlib.Data.Fintype.Defs
import Mathlib.Data.Finset.Insert
import DeviceHal.Gps.Tracking

namespace DeviceHal.Gps.Api

open Lib

/-- Which callbacks an application passes. -/
structure LocationCallbacks where
  capabilitiesCb : Bool
  responseCb : Bool
  collectiveResponseCb : Bool
  trackingCb : Bool
  batchingCb : Bool
  geofenceBreachCb : Bool
  geofenceStatusCb : Bool
  gnssNiCb : Bool
  gnssMeasurementsCb : Bool
deriving DecidableEq, Repr

inductive InterfaceKind where
  | gnss
  | flp
  | geofence
deriving DecidableEq, Repr

instance : Fintype InterfaceKind :=
  ⟨{.gnss, .flp, .geofence}, fun kind => by cases kind <;> simp⟩

namespace LocationCallbacks

def isGnssClient (callbacks : LocationCallbacks) : Bool :=
  callbacks.gnssNiCb || callbacks.trackingCb || callbacks.gnssMeasurementsCb

def isFlpClient (callbacks : LocationCallbacks) : Bool :=
  callbacks.trackingCb || callbacks.batchingCb

def isGeofenceClient (callbacks : LocationCallbacks) : Bool :=
  callbacks.geofenceBreachCb || callbacks.geofenceStatusCb

/-- The test that decides on one of the interfaces. -/
def needs (callbacks : LocationCallbacks) : InterfaceKind → Bool
  | .gnss => callbacks.isGnssClient
  | .flp => callbacks.isFlpClient
  | .geofence => callbacks.isGeofenceClient

/-- The three mandatory callbacks, without which `createInstance` and `updateCallbacks` return. -/
def mandatory (callbacks : LocationCallbacks) : Bool :=
  callbacks.capabilitiesCb && callbacks.responseCb && callbacks.collectiveResponseCb

end LocationCallbacks

/-- What a loaded interface keeps: its clients, and who asked for the capabilities. -/
structure LocationInterface where
  clients : OrderedMap LocationAPI LocationCallbacks := .empty
  capabilityRequests : List LocationAPI := []

namespace LocationInterface

def addClient (client : LocationAPI) (callbacks : LocationCallbacks) (i : LocationInterface) :
    LocationInterface :=
  { i with clients := i.clients.insert client callbacks }

def removeClient (client : LocationAPI) (i : LocationInterface) : LocationInterface :=
  { i with clients := i.clients.erase client }

def requestCapabilities (client : LocationAPI) (i : LocationInterface) : LocationInterface :=
  { i with capabilityRequests := i.capabilityRequests ++ [client] }

end LocationInterface

/-- The pointer to an interface and the flag that its library could not be loaded. -/
structure InterfaceSlot where
  interface : Option LocationInterface := none
  loadFailed : Bool := false

def InterfaceSlot.load (loads : Bool) (slot : InterfaceSlot) : InterfaceSlot :=
  if slot.interface.isNone && !slot.loadFailed then
    if loads then { slot with interface := some {} } else { slot with loadFailed := true }
  else slot

structure LocationAPIData where
  clientData : OrderedMap LocationAPI LocationCallbacks := .empty
  slots : InterfaceKind → InterfaceSlot := fun _ => {}

namespace LocationAPIData

def setSlot (kind : InterfaceKind) (slot : InterfaceSlot) (gData : LocationAPIData) :
    LocationAPIData :=
  { gData with slots := Function.update gData.slots kind slot }

def saveCallbacks (client : LocationAPI) (callbacks : LocationCallbacks)
    (gData : LocationAPIData) : LocationAPIData :=
  { gData with clientData := gData.clientData.insert client callbacks }

variable (loads : InterfaceKind → Bool) (client : LocationAPI) (callbacks : LocationCallbacks)

/-- One of the three blocks of `createInstance`. The flag is `requestedCapabilities`. -/
def createBlock (kind : InterfaceKind) (gData : LocationAPIData) (requestedCapabilities : Bool) :
    LocationAPIData × Bool :=
  if callbacks.needs kind then
    let slot := (gData.slots kind).load (loads kind)
    match slot.interface with
    | none => (gData.setSlot kind slot, requestedCapabilities)
    | some interface =>
      let added := interface.addClient client callbacks
      let asked := if requestedCapabilities then added else added.requestCapabilities client
      (gData.setSlot kind { slot with interface := some asked }, true)
  else (gData, requestedCapabilities)

/-- `createInstance`, with the address that `new LocationAPI()` returns. -/
def createInstance (gData : LocationAPIData) : LocationAPIData × Option LocationAPI :=
  if callbacks.mandatory then
    let (gData, requested) := gData.createBlock loads client callbacks .gnss false
    let (gData, requested) := gData.createBlock loads client callbacks .flp requested
    let (gData, _) := gData.createBlock loads client callbacks .geofence requested
    (gData.saveCallbacks client callbacks, some client)
  else (gData, none)

/-- One of the three blocks of `updateCallbacks`. -/
def updateBlock (kind : InterfaceKind) (gData : LocationAPIData) : LocationAPIData :=
  if callbacks.needs kind then
    let slot := (gData.slots kind).load (loads kind)
    gData.setSlot kind { slot with interface := slot.interface.map (·.addClient client callbacks) }
  else gData

def updateCallbacks (gData : LocationAPIData) : LocationAPIData :=
  if callbacks.mandatory then
    let gData := gData.updateBlock loads client callbacks .gnss
    let gData := gData.updateBlock loads client callbacks .flp
    let gData := gData.updateBlock loads client callbacks .geofence
    gData.saveCallbacks client callbacks
  else gData

/-- One of the three removals of the destructor. -/
def removeBlock (kind : InterfaceKind) (gData : LocationAPIData) : LocationAPIData :=
  if callbacks.needs kind then
    let slot := gData.slots kind
    gData.setSlot kind { slot with interface := slot.interface.map (·.removeClient client) }
  else gData

/-- The destructor. It goes by the callbacks saved last. -/
def destroy (gData : LocationAPIData) : LocationAPIData :=
  match gData.clientData.find? client with
  | none => gData
  | some callbacks =>
    let gData := gData.removeBlock client callbacks .gnss
    let gData := gData.removeBlock client callbacks .flp
    let gData := gData.removeBlock client callbacks .geofence
    { gData with clientData := gData.clientData.erase client }

end LocationAPIData

inductive ApiCall where
  | createInstance (client : LocationAPI) (callbacks : LocationCallbacks)
  | updateCallbacks (client : LocationAPI) (callbacks : LocationCallbacks)
  | destroy (client : LocationAPI)
deriving DecidableEq, Repr

/-- The callbacks a client has after the calls, the newest first: none before it is created and
after it is destroyed. -/
def callbacksOf (client : LocationAPI) : List ApiCall → Option LocationCallbacks
  | [] => none
  | .createInstance c callbacks :: log =>
    if c = client && callbacks.mandatory then some callbacks else callbacksOf client log
  | .updateCallbacks c callbacks :: log =>
    if c = client && callbacks.mandatory then some callbacks else callbacksOf client log
  | .destroy c :: log => if c = client then none else callbacksOf client log

/-- Some callbacks the client has had since it was created need the interface. -/
def everNeeded (client : LocationAPI) (kind : InterfaceKind) : List ApiCall → Bool
  | [] => false
  | .createInstance c callbacks :: log =>
    if c = client && callbacks.mandatory then callbacks.needs kind
    else everNeeded client kind log
  | .updateCallbacks c callbacks :: log =>
    if c = client && callbacks.mandatory then callbacks.needs kind || everNeeded client kind log
    else everNeeded client kind log
  | .destroy c :: log => if c = client then false else everNeeded client kind log

/-- The data of the API and the calls made so far, the newest first. -/
structure ApiSystem where
  gData : LocationAPIData := {}
  log : List ApiCall := []

namespace ApiSystem

def step (loads : InterfaceKind → Bool) (s : ApiSystem) (call : ApiCall) : Option ApiSystem :=
  some
    { gData :=
        match call with
        | .createInstance client callbacks => (s.gData.createInstance loads client callbacks).1
        | .updateCallbacks client callbacks => s.gData.updateCallbacks loads client callbacks
        | .destroy client => s.gData.destroy client
      log := call :: s.log }

/-- `new` gives the address of no existing client, and the others are called on existing ones. -/
def Admits (s : ApiSystem) : ApiCall → Prop
  | .createInstance client _ => callbacksOf client s.log = none
  | .updateCallbacks client _ => (callbacksOf client s.log).isSome
  | .destroy client => (callbacksOf client s.log).isSome

def Knows (s : ApiSystem) (kind : InterfaceKind) (client : LocationAPI) : Prop :=
  ∃ interface, (s.gData.slots kind).interface = some interface ∧
    (interface.clients.find? client).isSome

/-- The interfaces keep existing clients only, and each available one keeps every client whose
callbacks need it. -/
structure RegistrationRight (loads : InterfaceKind → Bool) (s : ApiSystem) : Prop where
  existing : ∀ kind client, s.Knows kind client → (callbacksOf client s.log).isSome
  held : ∀ kind client callbacks, callbacksOf client s.log = some callbacks →
    callbacks.needs kind → loads kind → s.Knows kind client

/-- A client that goes needs with its last callbacks every available interface that it has ever
needed. -/
def KeepsNeeds (loads : InterfaceKind → Bool) (s : ApiSystem) : ApiCall → Prop
  | .destroy client => ∀ kind, loads kind → everNeeded client kind s.log →
      (callbacksOf client s.log).all fun callbacks => callbacks.needs kind
  | _ => True

instance (s : ApiSystem) : DecidablePred s.Admits
  | .createInstance client _ => inferInstanceAs (Decidable (callbacksOf client s.log = none))
  | .updateCallbacks client _ => inferInstanceAs (Decidable (callbacksOf client s.log).isSome)
  | .destroy client => inferInstanceAs (Decidable (callbacksOf client s.log).isSome)

instance (loads : InterfaceKind → Bool) (s : ApiSystem) : DecidablePred (KeepsNeeds loads s)
  | .createInstance _ _ => .isTrue trivial
  | .updateCallbacks _ _ => .isTrue trivial
  | .destroy client => inferInstanceAs (Decidable (∀ kind, loads kind →
      everNeeded client kind s.log →
        (callbacksOf client s.log).all fun callbacks => callbacks.needs kind))

end ApiSystem

end DeviceHal.Gps.Api
